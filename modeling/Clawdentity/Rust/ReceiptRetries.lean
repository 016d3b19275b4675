import Clawdentity.Lib.SignedInt
import Clawdentity.Rust.Text
import Mathlib.Data.List.Sort

/-!
# Retries of delivery receipts

A receipt whose post fails is posted again after a delay that doubles with each attempt up to a
minute, without a limit on the attempts. The power is computed before the delay is capped, and
overflows from the sixty-fourth attempt on: a build with overflow checks panics there, and one
without wraps around to the shortest delay.

## Main definitions

* `computeRetryDelayMs` — the delay after an attempt.
* `flushDueReceipts` — the outbox after a flush.
* `RetryDelayOk` — the delay is as it is meant to be.
* `retry_delay_ok_iff` — when it is.
-/

namespace Clawdentity.Rust.ReceiptRetries

open Lib.SignedInt

def RECEIPT_RETRY_INITIAL_MS : ℤ := 1000
def RECEIPT_RETRY_MAX_MS : ℤ := 60000
def RECEIPT_RETRY_BACKOFF_FACTOR : ℤ := 2

def RECEIPT_FORWARD_RETRY_INITIAL_DELAY_MS : ℤ := 1000
def RECEIPT_FORWARD_RETRY_MAX_DELAY_MS : ℤ := 60000
def RECEIPT_FORWARD_RETRY_BACKOFF_FACTOR : ℤ := 2
def RECEIPT_FORWARD_MAX_ATTEMPTS : ℤ := 30

/-- `i64::MAX`. -/
def I64_MAX : ℤ := maxValue 64

/-- `compute_retry_delay_ms`; `none` where the power panics. -/
def computeRetryDelayMs (overflowChecks : Bool) (attemptCount : ℤ) : Option ℤ := do
  let exponent := truncate 32 (max (saturate 64 (attemptCount - 1)) 0)
  let power ← checked overflowChecks 64 (RECEIPT_RETRY_BACKOFF_FACTOR ^ exponent)
  let delay := saturate 64 (RECEIPT_RETRY_INITIAL_MS * power)
  let delay := if delay < 1 then 1 else delay
  return min delay RECEIPT_RETRY_MAX_MS

/-- `compute_receipt_retry_delay_ms`. -/
def computeReceiptRetryDelayMs (attemptCount : ℤ) : ℤ :=
  let exponent := truncate 32 (saturate 64 (attemptCount - 1))
  let factor := saturate 64 (RECEIPT_FORWARD_RETRY_BACKOFF_FACTOR ^ exponent)
  max 1 (min (saturate 64 (RECEIPT_FORWARD_RETRY_INITIAL_DELAY_MS * factor))
    RECEIPT_FORWARD_RETRY_MAX_DELAY_MS)

/-! ## The outbox -/

inductive DeliveryReceiptStatus
  | deliveredToWebhook
  | deadLettered
  deriving DecidableEq

structure QueuedDeliveryReceipt where
  key : RString
  requestId : RString
  senderAgentDid : RString
  recipientAgentDid : RString
  status : DeliveryReceiptStatus
  reason : Option RString
  attemptCount : ℤ
  nextAttemptAtMs : ℤ
  createdAtMs : ℤ
  deriving DecidableEq

/-- A receipt in a flush: it waits, is posted and leaves the outbox, or is retried later. -/
def flushReceipt (overflowChecks : Bool) (nowMs : ℤ) (posted : QueuedDeliveryReceipt → Bool)
    (entry : QueuedDeliveryReceipt) : Option (Option QueuedDeliveryReceipt) :=
  if nowMs < entry.nextAttemptAtMs then some (some entry)
  else if posted entry then some none
  else
    let attemptCount := saturate 64 (entry.attemptCount + 1)
    (computeRetryDelayMs overflowChecks attemptCount).map fun delay =>
      some { entry with attemptCount, nextAttemptAtMs := nowMs + delay }

/-- `flush_due_receipts`, on the receipts in the file; `none` where it panics, and the file is not
written. -/
def flushDueReceipts (overflowChecks : Bool) (nowMs : ℤ) (posted : QueuedDeliveryReceipt → Bool)
    (entries : List QueuedDeliveryReceipt) : Option (List QueuedDeliveryReceipt) :=
  ((entries.insertionSort fun a b => a.createdAtMs ≤ b.createdAtMs).mapM
    (flushReceipt overflowChecks nowMs posted)).map fun retained => retained.filterMap id

/-! ## The delay -/

/-- The delay doubles up to a minute, does not decrease, and is that of the receipts that are
forwarded to the webhook, as far as these are retried. -/
structure RetryDelayOk (overflowChecks : Bool) (n : ℤ) : Prop where
  delay : computeRetryDelayMs overflowChecks n = some (min 60000 (1000 * 2 ^ (n - 1).toNat))
  monotone : ∀ m d d', 1 ≤ m → m ≤ n → computeRetryDelayMs overflowChecks m = some d →
    computeRetryDelayMs overflowChecks n = some d' → d ≤ d'
  forwarded : n ≤ RECEIPT_FORWARD_MAX_ATTEMPTS →
    computeRetryDelayMs overflowChecks n = some (computeReceiptRetryDelayMs n)

/-- The exponent of the power, which has only 32 bits. -/
def exponent (n : ℤ) : ℕ := truncate 32 (n - 1)

section
variable {overflowChecks : Bool} {n : ℤ} {e : ℕ}

theorem delay_of_exponent (hn : 1 ≤ n) (hmax : n ≤ I64_MAX) :
    computeRetryDelayMs overflowChecks n =
      (checked overflowChecks 64 (2 ^ exponent n)).map fun power =>
        min (if saturate 64 (1000 * power) < 1 then 1 else saturate 64 (1000 * power)) 60000 := by
  have hsub : max (saturate 64 (n - 1)) 0 = n - 1 := by
    rw [saturate_of_nonneg (by omega), min_eq_left (by simp only [I64_MAX] at hmax; omega),
      max_eq_left (by omega)]
  simp only [computeRetryDelayMs, hsub, exponent, Option.map_eq_bind]
  rfl

/-- The delay of a power in the range. -/
theorem delay_of_lt (hn : 1 ≤ n) (hmax : n ≤ I64_MAX) (h : exponent n < 63) :
    computeRetryDelayMs overflowChecks n = some (min 60000 (1000 * 2 ^ exponent n)) := by
  have hpow := pow_pos (show (0 : ℤ) < 2 by decide) (exponent n)
  rw [delay_of_exponent hn hmax, checked_two_pow_of_lt (by omega), Option.map_some,
    saturate_of_nonneg (by omega), if_neg (by simp only [maxValue]; omega)]
  refine congrArg some ?_
  simp only [maxValue]
  omega

/-- **A power out of the range** panics, or gives the shortest delay. -/
theorem delay_of_ge (hn : 1 ≤ n) (hmax : n ≤ I64_MAX) (h : 63 ≤ exponent n) :
    computeRetryDelayMs overflowChecks n = if overflowChecks then none else some 1 := by
  rw [delay_of_exponent hn hmax, checked, if_neg (not_inRange_two_pow (by omega))]
  split
  · rfl
  · have hwrap := wrap_two_pow_nonpos (w := 64) (e := exponent n) (by decide) (by omega)
    have hsaturate : saturate 64 (1000 * wrap 64 (2 ^ exponent n)) < 1 := by
      simp only [saturate, minValue, maxValue]
      omega
    rw [Option.map_some, if_pos hsaturate]
    rfl

theorem exponent_eq (hn : 1 ≤ n) (hsmall : n ≤ 2 ^ 32) : exponent n = (n - 1).toNat := by
  rw [exponent, truncate, Int.emod_eq_of_lt (by omega) (by omega)]

/-- From the seventh attempt on the delay is a minute. -/
theorem capped_of_ge (h : 6 ≤ e) : min 60000 (1000 * 2 ^ e) = (60000 : ℤ) := by
  have hpow : (2 : ℤ) ^ 6 ≤ 2 ^ e := pow_le_pow_right₀ (by decide) h
  exact min_eq_left (by omega)

theorem delay_le (hn : 1 ≤ n) (hmax : n ≤ I64_MAX) {d : ℤ}
    (h : computeRetryDelayMs overflowChecks n = some d) : d ≤ 60000 := by
  rw [delay_of_exponent hn hmax] at h
  obtain ⟨power, _, rfl⟩ := Option.map_eq_some_iff.mp h
  exact min_le_right _ _

/-- The delay of a receipt that is forwarded. -/
theorem forwarded_eq (hn : 1 ≤ n) (hadmitted : n ≤ RECEIPT_FORWARD_MAX_ATTEMPTS) :
    computeReceiptRetryDelayMs n = min 60000 (1000 * 2 ^ (n - 1).toNat) := by
  simp only [RECEIPT_FORWARD_MAX_ATTEMPTS] at hadmitted
  have hsub : saturate 64 (n - 1) = n - 1 :=
    saturate_of_le (by simp only [minValue]; omega) (by simp only [maxValue]; omega)
  have hexponent : truncate 32 (n - 1) = (n - 1).toNat := exponent_eq hn (by omega)
  have hpow := pow_pos (show (0 : ℤ) < 2 by decide) (n - 1).toNat
  have hle : (2 : ℤ) ^ (n - 1).toNat ≤ 2 ^ 29 := pow_le_pow_right₀ (by decide) (by omega)
  have hfactor : saturate 64 (2 ^ (n - 1).toNat) = 2 ^ (n - 1).toNat :=
    saturate_of_le (by simp only [minValue]; omega) (by simp only [maxValue]; omega)
  have hdelay : saturate 64 (1000 * 2 ^ (n - 1).toNat) = 1000 * 2 ^ (n - 1).toNat :=
    saturate_of_le (by simp only [minValue]; omega) (by simp only [maxValue]; omega)
  simp only [computeReceiptRetryDelayMs, hsub, hexponent, RECEIPT_FORWARD_RETRY_BACKOFF_FACTOR,
    hfactor, RECEIPT_FORWARD_RETRY_INITIAL_DELAY_MS, hdelay, RECEIPT_FORWARD_RETRY_MAX_DELAY_MS]
  omega

/-- A delay that is as it is meant to be does not fall below an earlier one. -/
theorem monotone_of_delay (hmax : n ≤ I64_MAX)
    (h : computeRetryDelayMs overflowChecks n = some (min 60000 (1000 * 2 ^ (n - 1).toNat)))
    {m d d' : ℤ} (hm : 1 ≤ m) (hle : m ≤ n) (hd : computeRetryDelayMs overflowChecks m = some d)
    (hd' : computeRetryDelayMs overflowChecks n = some d') : d ≤ d' := by
  cases h.symm.trans hd'
  obtain hearly | hlate := le_or_gt n 63
  · have hexponent := exponent_eq hm (by omega)
    rw [delay_of_lt hm (hle.trans hmax) (by omega), hexponent, Option.some.injEq] at hd
    have hpow : (2 : ℤ) ^ (m - 1).toNat ≤ 2 ^ (n - 1).toNat :=
      pow_le_pow_right₀ (by decide) (by omega)
    rw [← hd]
    exact min_le_min le_rfl (by omega)
  · rw [capped_of_ge (by omega)]
    exact delay_le hm (hle.trans hmax) hd

/-- **The retry delay** of an attempt is as it is meant to be if and only if the attempt is one of
the first sixty-three, or the lowest 32 bits of its exponent are between 6 and 62. -/
theorem retry_delay_ok_iff (hn : 1 ≤ n) (hmax : n ≤ I64_MAX) :
    RetryDelayOk overflowChecks n ↔
      n ≤ 63 ∨ 6 ≤ (n - 1) % 2 ^ 32 ∧ (n - 1) % 2 ^ 32 ≤ 62 := by
  have hexponent : (exponent n : ℤ) = (n - 1) % 2 ^ 32 := by
    rw [exponent, truncate, Int.toNat_of_nonneg (Int.emod_nonneg _ (by decide))]
  constructor
  · intro h
    by_contra hnot
    obtain ⟨hlate, hbits⟩ := not_or.mp hnot
    have hdelay := h.delay
    rw [capped_of_ge (by omega)] at hdelay
    obtain hlt | hge := Nat.lt_or_ge (exponent n) 63
    · -- the exponent was cut to one of the first six
      rw [delay_of_lt hn hmax hlt, Option.some.injEq] at hdelay
      have hpow : (2 : ℤ) ^ exponent n ≤ 2 ^ 5 := pow_le_pow_right₀ (by decide) (by omega)
      omega
    · rw [delay_of_ge hn hmax hge] at hdelay
      cases overflowChecks <;> simp at hdelay
  · intro hcondition
    have hdelay : computeRetryDelayMs overflowChecks n =
        some (min 60000 (1000 * 2 ^ (n - 1).toNat)) := by
      rw [delay_of_lt hn hmax (by omega)]
      obtain hearly | hbits := hcondition
      · rw [exponent_eq hn (by omega)]
      · rw [capped_of_ge (by omega), capped_of_ge (by omega)]
    refine ⟨hdelay, fun m d d' hm hle hd hd' => monotone_of_delay hmax hdelay hm hle hd hd',
      fun hadmitted => ?_⟩
    rw [hdelay, forwarded_eq hn hadmitted]

/-! ## Attempts without a limit -/

/-- Flushes at these times, of which every post fails. -/
def failingFlushes (overflowChecks : Bool) (entries : List QueuedDeliveryReceipt)
    (times : List ℤ) : Option (List QueuedDeliveryReceipt) :=
  times.foldlM (fun entries nowMs => flushDueReceipts overflowChecks nowMs (fun _ => false) entries)
    entries

/-- A build without overflow checks has a delay for every attempt. -/
theorem delay_isSome (hn : 1 ≤ n) (hmax : n ≤ I64_MAX) :
    (computeRetryDelayMs false n).isSome := by
  obtain hlt | hge := Nat.lt_or_ge (exponent n) 63
  · rw [delay_of_lt hn hmax hlt]
    rfl
  · rw [delay_of_ge hn hmax hge]
    rfl

/-- **Every attempt is reached**, where the posts of a receipt go on failing. -/
theorem attempt_reached (entry : QueuedDeliveryReceipt) (hnew : entry.attemptCount = 0) (k : ℕ)
    (hk : (k : ℤ) ≤ I64_MAX) :
    ∃ times retried, failingFlushes false [entry] times = some [retried] ∧
      retried.attemptCount = k := by
  induction k with
  | zero => exact ⟨[], entry, rfl, hnew⟩
  | succ k ih =>
      have hnext : ((k + 1 : ℕ) : ℤ) = (k : ℤ) + 1 := by simp
      obtain ⟨times, retried, hflushes, hcount⟩ := ih (by omega)
      obtain ⟨delay, hdelay⟩ := Option.isSome_iff_exists.mp
        (delay_isSome (n := (k : ℤ) + 1) (by omega) (by omega))
      have hsaturate : saturate 64 (retried.attemptCount + 1) = (k : ℤ) + 1 := by
        rw [hcount]
        exact saturate_of_le ((minValue_nonpos 64).trans (by omega))
          (by simp only [I64_MAX] at hk; omega)
      refine ⟨times ++ [retried.nextAttemptAtMs],
        { retried with
          attemptCount := (k : ℤ) + 1
          nextAttemptAtMs := retried.nextAttemptAtMs + delay }, ?_, hnext.symm⟩
      rw [failingFlushes, List.foldlM_append, ← failingFlushes, hflushes]
      simp [flushDueReceipts, flushReceipt, hsaturate, hdelay]

end

/-- **The sixty-fourth attempt**: the power overflows. -/
theorem not_retry_delay_ok : ¬ ∀ (overflowChecks : Bool) (n : ℤ), 1 ≤ n → n ≤ I64_MAX →
    RetryDelayOk overflowChecks n := by
  intro h
  have hdelay := (h false 64 (by decide) (by decide)).delay
  rw [show computeRetryDelayMs false 64 = some 1 by decide +kernel] at hdelay
  exact absurd hdelay (by decide)

/-- The last attempt before the overflow. -/
theorem retry_delay_ok_last : RetryDelayOk true 63 :=
  (retry_delay_ok_iff (by decide) (by decide)).mpr (.inl (by decide))

end Clawdentity.Rust.ReceiptRetries
