import Mathlib.Algebra.Order.Ring.Rat
import Mathlib.Data.Rat.Floor

/-!
# Retry delays of the replay

The policy of the connector's replay, and the two delays that it computes: one for messages that
the webhook did not take, and one for the attempts of a single call.

## Main definitions

* `InboundReplayPolicy` — the settings that the modelled code reads.
* `computeReplayDelayMs`, `computeRuntimeReplayRetryDelayMs` — the delays.
-/

namespace Clawdentity.Connector.InboundReplay

structure InboundReplayPolicy where
  batchSize : ℕ
  deadLetterNonRetryableMaxAttempts : ℕ
  retryInitialDelayMs : ℕ
  retryMaxDelayMs : ℕ
  retryBackoffFactor : ℚ
  runtimeReplayRetryInitialDelayMs : ℕ
  runtimeReplayRetryMaxDelayMs : ℕ
  runtimeReplayRetryBackoffFactor : ℚ

/-- A delay that grows with the attempts, up to a maximum. -/
def backoffDelayMs (initialDelayMs maxDelayMs : ℕ) (backoffFactor : ℚ) (attemptCount : ℕ) : ℤ :=
  let exponent := attemptCount - 1
  let delay := min (maxDelayMs : ℤ) ⌊(initialDelayMs : ℚ) * backoffFactor ^ exponent⌋
  max 1 delay

def computeReplayDelayMs (policy : InboundReplayPolicy) (attemptCount : ℕ) : ℤ :=
  backoffDelayMs policy.retryInitialDelayMs policy.retryMaxDelayMs policy.retryBackoffFactor
    attemptCount

def computeRuntimeReplayRetryDelayMs (policy : InboundReplayPolicy) (attemptCount : ℕ) : ℤ :=
  backoffDelayMs policy.runtimeReplayRetryInitialDelayMs policy.runtimeReplayRetryMaxDelayMs
    policy.runtimeReplayRetryBackoffFactor attemptCount

/-- A retry is never at once. -/
theorem one_le_backoffDelayMs (initialDelayMs maxDelayMs : ℕ) (backoffFactor : ℚ)
    (attemptCount : ℕ) : 1 ≤ backoffDelayMs initialDelayMs maxDelayMs backoffFactor attemptCount :=
  le_max_left _ _

end Clawdentity.Connector.InboundReplay
