import Clawdentity.Lib.Run
import Mathlib.Logic.Function.Basic

/-!
# Keys that make keys

A ring holds keys, each with its owner, and a key is live until it is revoked. Whoever has used a
live key may afterwards make and revoke keys of the same owner, also when the key that was used is
itself revoked by then. Keys without a parent are made from outside.

## Main definitions

* `Event`, `Ring.step` — what happens to a ring, where it is allowed.
* `Descends` — a key comes from a key that was there before, or from outside, by keys of one owner.
* `descends_of_use` — every key that is used does.
* `mint_of_use_after_revoke` — a key that was revoked is not used, unless it is made anew.
-/

namespace Lib.Keyring

open Run

variable {K O : Type*}

inductive Event (K O : Type*)
  | mint (key : K) (owner : O) (parent : Option K)
  | use (key : K) (owner : O)
  | revoke (key : K) (agent : K)
  | remove (key : K)
  deriving DecidableEq

structure Ring (K O : Type*) where
  /-- The owner of a key, and whether it is live. -/
  entry : K → Option (O × Bool)
  /-- The keys that were used, with their owners. -/
  sessions : List (K × O)

/-! ## Where keys come from -/

/-- A chain of keys of one owner, each made by a request that had used the one before. -/
inductive Descends (r : Ring K O) (es : List (Event K O)) (owner : O) : K → Prop
  | first {key : K} {live : Bool} (h : r.entry key = some (owner, live)) : Descends r es owner key
  | root {key : K} (h : .mint key owner none ∈ es) : Descends r es owner key
  | child {key parent : K} (h : .mint key owner (some parent) ∈ es) (hused : .use parent owner ∈ es)
      (hparent : Descends r es owner parent) : Descends r es owner key

theorem Descends.mono {r : Ring K O} {owner : O} {key : K} {es fs : List (Event K O)}
    (h : Descends r es owner key) (hsub : es ⊆ fs) : Descends r fs owner key := by
  induction h with
  | first h => exact .first h
  | root h => exact .root (hsub h)
  | child h hused _ ih => exact .child (hsub h) (hsub hused) ih

/-! ## What is allowed -/

section
variable [DecidableEq K]

def Ring.set (r : Ring K O) (key : K) (entry : Option (O × Bool)) : Ring K O :=
  { r with entry := Function.update r.entry key entry }

variable {r r' : Ring K O} {key other : K} {owner : O}

@[simp] theorem set_entry_self (r : Ring K O) (key : K) (entry : Option (O × Bool)) :
    (r.set key entry).entry key = entry := Function.update_self ..

theorem set_entry_of_ne (r : Ring K O) (entry : Option (O × Bool)) (h : other ≠ key) :
    (r.set key entry).entry other = r.entry other := Function.update_of_ne h ..

@[simp] theorem set_sessions (r : Ring K O) (key : K) (entry : Option (O × Bool)) :
    (r.set key entry).sessions = r.sessions := rfl

variable [DecidableEq O]

/-- One event; `none` where it is not allowed. -/
def Ring.step (r : Ring K O) : Event K O → Option (Ring K O)
  | .mint key owner parent =>
      if r.entry key = none ∧ ∀ p ∈ parent, (p, owner) ∈ r.sessions then
        some (r.set key (some (owner, true)))
      else none
  | .use key owner =>
      if r.entry key = some (owner, true) then some { r with sessions := (key, owner) :: r.sessions }
      else none
  | .revoke key agent =>
      (r.entry key).bind fun entry =>
        if (agent, entry.1) ∈ r.sessions then some (r.set key (some (entry.1, false))) else none
  | .remove key => some (r.set key none)

theorem step_mint {parent : Option K} : r.step (.mint key owner parent) = some r' ↔
    (r.entry key = none ∧ ∀ p ∈ parent, (p, owner) ∈ r.sessions) ∧
      r.set key (some (owner, true)) = r' := by
  simp only [Ring.step, Option.ite_none_right_eq_some, Option.some.injEq]

theorem step_use : r.step (.use key owner) = some r' ↔
    r.entry key = some (owner, true) ∧ { r with sessions := (key, owner) :: r.sessions } = r' := by
  simp only [Ring.step, Option.ite_none_right_eq_some, Option.some.injEq]

theorem step_revoke {agent : K} : r.step (.revoke key agent) = some r' ↔
    ∃ owner live, r.entry key = some (owner, live) ∧ (agent, owner) ∈ r.sessions ∧
      r.set key (some (owner, false)) = r' := by
  simp only [Ring.step, Option.bind_eq_some_iff, Prod.exists, Option.ite_none_right_eq_some,
    Option.some.injEq]

/-- A use is remembered. -/
theorem mem_sessions_of_use {es : List (Event K O)} (hrun : exec Ring.step r es = some r')
    (huse : .use key owner ∈ es) : (key, owner) ∈ r'.sessions := by
  refine exec_invariant_events
    (fun (es : List (Event K O)) (r : Ring K O) => .use key owner ∈ es → (key, owner) ∈ r.sessions)
    ?_ (fun h => by cases h) hrun huse
  intro past r e r' hpast hstep hmem
  rcases List.mem_append.mp hmem with hold | hlast
  · have hbefore := hpast hold
    cases e with
    | mint minted owner parent =>
        obtain ⟨_, rfl⟩ := step_mint.mp hstep
        exact hbefore
    | use used owner =>
        obtain ⟨_, rfl⟩ := step_use.mp hstep
        exact List.mem_cons_of_mem _ hbefore
    | revoke revoked agent =>
        obtain ⟨_, _, _, _, rfl⟩ := step_revoke.mp hstep
        exact hbefore
    | remove removed =>
        obtain rfl := Option.some.inj hstep
        exact hbefore
  · obtain rfl := List.mem_singleton.mp hlast
    obtain ⟨_, rfl⟩ := step_use.mp hstep
    exact List.mem_cons_self

/-- A key keeps its owner until it is removed. -/
theorem owner_step {e : Event K O} {live : Bool} (h : r.entry key = some (owner, live))
    (hstep : r.step e = some r') : (∃ live', r'.entry key = some (owner, live')) ∨ e = .remove key := by
  have hset : ∀ {changed : K} {entry : Option (O × Bool)}, changed ≠ key →
      ∃ live', (r.set changed entry).entry key = some (owner, live') := by
    intro changed entry hne
    exact ⟨live, (set_entry_of_ne r entry hne.symm).trans h⟩
  cases e with
  | mint minted minter parent =>
      obtain ⟨⟨hnone, _⟩, rfl⟩ := step_mint.mp hstep
      refine .inl (hset ?_)
      rintro rfl
      rw [h] at hnone
      cases hnone
  | use used user =>
      obtain ⟨_, rfl⟩ := step_use.mp hstep
      exact .inl ⟨live, h⟩
  | revoke revoked agent =>
      obtain ⟨revokedOwner, revokedLive, hentry, _, rfl⟩ := step_revoke.mp hstep
      by_cases hkey : revoked = key
      · subst hkey
        obtain ⟨rfl, _⟩ := Prod.mk.inj (Option.some.inj (h.symm.trans hentry))
        exact .inl ⟨false, set_entry_self ..⟩
      · exact .inl (hset hkey)
  | remove removed =>
      obtain rfl := Option.some.inj hstep
      by_cases hkey : removed = key
      · subst hkey
        exact .inr rfl
      · exact .inl (hset hkey)

/-! ## Revoked keys -/

/-- The key cannot be used. -/
def Ring.Dead (r : Ring K O) (key : K) : Prop := ∀ owner, r.entry key ≠ some (owner, true)

omit [DecidableEq O] in
theorem dead_set {entry : Option (O × Bool)} (h : r.Dead key)
    (hentry : other = key → ∀ owner, entry ≠ some (owner, true)) :
    (r.set other entry).Dead key := by
  intro owner
  by_cases hkey : key = other
  · subst hkey
    rw [set_entry_self]
    exact hentry rfl owner
  · rw [set_entry_of_ne r entry hkey]
    exact h owner

/-- Only a new key of that name brings it back. -/
theorem dead_step {e : Event K O} (h : r.Dead key) (hstep : r.step e = some r') :
    r'.Dead key ∨ ∃ owner parent, e = .mint key owner parent := by
  cases e with
  | mint minted owner parent =>
      by_cases hkey : minted = key
      · subst hkey
        exact .inr ⟨owner, parent, rfl⟩
      · obtain ⟨_, rfl⟩ := step_mint.mp hstep
        exact .inl (dead_set h fun heq => absurd heq hkey)
  | use used owner =>
      obtain ⟨_, rfl⟩ := step_use.mp hstep
      exact .inl h
  | revoke revoked agent =>
      obtain ⟨owner, live, _, _, rfl⟩ := step_revoke.mp hstep
      exact .inl (dead_set h fun _ _ heq => by simp at heq)
  | remove removed =>
      obtain rfl := Option.some.inj hstep
      exact .inl (dead_set h fun _ _ heq => by cases heq)

theorem mint_of_use_of_dead {es : List (Event K O)} (h : r.Dead key)
    (hrun : exec Ring.step r es = some r') (huse : .use key owner ∈ es) :
    ∃ owner' parent, .mint key owner' parent ∈ es := by
  induction es generalizing r with
  | nil => cases huse
  | cons e es ih =>
      obtain ⟨t, hstep, hrest⟩ := exec_cons_eq_some.mp hrun
      rcases dead_step h hstep with hdead | ⟨owner', parent, rfl⟩
      · rcases List.mem_cons.mp huse with rfl | hlater
        · exact absurd (step_use.mp hstep).1 (h owner)
        · obtain ⟨owner', parent, hmint⟩ := ih hdead hrest hlater
          exact ⟨owner', parent, List.mem_cons_of_mem _ hmint⟩
      · exact ⟨owner', parent, List.mem_cons_self⟩

/-- **A revoked key** is not used afterwards, unless a key of that name is made anew. -/
theorem mint_of_use_after_revoke {es fs : List (Event K O)} {agent : K}
    (hrun : exec Ring.step r (es ++ .revoke key agent :: fs) = some r')
    (huse : .use key owner ∈ fs) : ∃ owner' parent, .mint key owner' parent ∈ fs := by
  rw [exec_append] at hrun
  obtain ⟨s, _, hrest⟩ := Option.bind_eq_some_iff.mp hrun
  obtain ⟨t, hstep, hlater⟩ := exec_cons_eq_some.mp hrest
  obtain ⟨o, live, _, _, rfl⟩ := step_revoke.mp hstep
  refine mint_of_use_of_dead ?_ hlater huse
  intro owner hentry
  simp at hentry

/-! ## Keys that are used -/

/-- What is in a ring after its events. -/
structure Accounted (r₀ : Ring K O) (es : List (Event K O)) (r : Ring K O) : Prop where
  entries : ∀ key owner live, r.entry key = some (owner, live) → Descends r₀ es owner key
  sessions : ∀ session ∈ r.sessions, session ∈ r₀.sessions ∨
    .use session.1 session.2 ∈ es ∧ Descends r₀ es session.2 session.1

variable {r₀ : Ring K O} {es : List (Event K O)}

omit [DecidableEq O] in
theorem Accounted.set {entry : Option (O × Bool)} {e : Event K O} (h : Accounted r₀ es r)
    (hentry : ∀ owner live, entry = some (owner, live) → Descends r₀ (es ++ [e]) owner key) :
    Accounted r₀ (es ++ [e]) (r.set key entry) := by
  have hsub : es ⊆ es ++ [e] := fun _ hmem => List.mem_append_left _ hmem
  refine ⟨?_, ?_⟩
  · intro other owner live hother
    by_cases hkey : other = key
    · subst hkey
      rw [set_entry_self] at hother
      exact hentry owner live hother
    · rw [set_entry_of_ne r entry hkey] at hother
      exact (h.entries other owner live hother).mono hsub
  · intro session hsession
    exact (h.sessions session hsession).imp_right fun hold => ⟨hsub hold.1, hold.2.mono hsub⟩

/-- What one event does. -/
theorem Accounted.step {e : Event K O} (hnone : r₀.sessions = []) (h : Accounted r₀ es r)
    (hstep : r.step e = some r') : Accounted r₀ (es ++ [e]) r' := by
  have hsub : es ⊆ es ++ [e] := fun _ hmem => List.mem_append_left _ hmem
  have hlast : e ∈ es ++ [e] := List.mem_append_right _ (List.mem_singleton.mpr rfl)
  cases e with
  | mint key owner parent =>
      obtain ⟨⟨_, hparent⟩, rfl⟩ := step_mint.mp hstep
      refine h.set ?_
      intro minted live hentry
      cases hentry
      cases parent with
      | none => exact .root hlast
      | some p =>
          rcases h.sessions _ (hparent p rfl) with hfirst | ⟨hused, hdescends⟩
          · rw [hnone] at hfirst
            cases hfirst
          · exact .child hlast (hsub hused) (hdescends.mono hsub)
  | use key owner =>
      obtain ⟨hentry, rfl⟩ := step_use.mp hstep
      refine ⟨?_, ?_⟩
      · intro other owner live hother
        exact (h.entries other owner live hother).mono hsub
      · intro session hsession
        rcases List.mem_cons.mp hsession with rfl | hold
        · exact .inr ⟨hlast, (h.entries key owner true hentry).mono hsub⟩
        · exact (h.sessions session hold).imp_right fun hold => ⟨hsub hold.1, hold.2.mono hsub⟩
  | revoke key agent =>
      obtain ⟨owner, live, hentry, _, rfl⟩ := step_revoke.mp hstep
      refine h.set ?_
      intro revoked _ heq
      cases heq
      exact (h.entries key owner live hentry).mono hsub
  | remove key =>
      obtain rfl := Option.some.inj hstep
      exact h.set fun _ _ heq => by cases heq

/-- The run rule. -/
theorem accounted_run (hnone : r₀.sessions = []) (hrun : exec Ring.step r₀ es = some r) :
    Accounted r₀ es r := by
  refine exec_invariant_events (Accounted r₀) (fun _ _ _ _ h hstep => h.step hnone hstep) ?_ hrun
  refine ⟨fun _ _ _ hentry => .first hentry, ?_⟩
  intro session hsession
  exact .inl hsession

/-- **A key that is used** comes from a first key or from outside, by keys of its owner. -/
theorem descends_of_use (hnone : r₀.sessions = []) (hrun : exec Ring.step r₀ es = some r)
    (huse : .use key owner ∈ es) : Descends r₀ es owner key := by
  obtain ⟨before, after, rfl⟩ := List.append_of_mem huse
  rw [exec_append] at hrun
  obtain ⟨s, hbefore, hrest⟩ := Option.bind_eq_some_iff.mp hrun
  obtain ⟨t, hstep, _⟩ := exec_cons_eq_some.mp hrest
  have haccounted := accounted_run hnone hbefore
  exact (haccounted.entries key owner true (step_use.mp hstep).1).mono
    fun _ hmem => List.mem_append_left _ hmem

end

end Lib.Keyring
