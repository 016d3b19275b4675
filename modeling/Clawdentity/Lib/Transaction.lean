import Mathlib.Data.Nat.Notation

/-!
# Transactions whose statements may throw

The code of a transaction reads and writes tables, one statement after the other. Any
statement may throw, which ends the code; the transaction is then rolled back. Where this
happens is a number of statements that the environment chooses.

## Main definitions

* `Body` — the code of a transaction.
* `statement`, `query`, `update` — one statement.
* `Does body s a t` — the code can go to its end from `s`, with the answer `a` and the
  tables `t`.
* `runInTransaction` — the code between `BEGIN` and `COMMIT`.
-/

namespace Lib.Transaction

variable {σ α β : Type}

/-- The number of statements that are still to succeed before one throws; `none` where none
does. -/
abbrev Fault := Option ℕ

/-- The code of a transaction: `none` where it throws. -/
def Body (σ α : Type) : Type := Fault → σ → Option (α × Fault × σ)

instance : Monad (Body σ) where
  pure a := fun fault s => some (a, fault, s)
  bind x f := fun fault s => (x fault s).bind fun r => f r.1 r.2.1 r.2.2

/-- One statement; it throws by itself where `f` answers `none`. -/
def statement (f : σ → Option (α × σ)) : Body σ α := fun fault s =>
  match fault with
  | some 0 => none
  | some (n + 1) => (f s).map fun r => (r.1, some n, r.2)
  | none => (f s).map fun r => (r.1, none, r.2)

/-- A statement that only reads. -/
def query (f : σ → α) : Body σ α := statement fun s => some (f s, s)

/-- A statement that changes the tables, and answers. -/
def update (f : σ → α × σ) : Body σ α := statement fun s => some (f s)

/-- The code between `BEGIN` and `COMMIT`. Where it throws, the answer is `none` and the tables
are rolled back. -/
def runInTransaction (body : Body σ α) (fault : Fault) (s : σ) : Option α × σ :=
  let code : Body σ α := do
    query fun _ => ()
    let a ← body
    query fun _ => ()
    return a
  match code fault s with
  | none => (none, s)
  | some (a, _, t) => (some a, t)

/-! ## Code that goes to its end -/

/-- The code goes to its end, under some fault. -/
def Does (body : Body σ α) (s : σ) (a : α) (t : σ) : Prop :=
  ∃ fault fault', body fault s = some (a, fault', t)

variable {x : Body σ α} {f : α → Body σ β} {s t : σ} {a a' : α} {b : β}

theorem does_pure (h : Does (pure a) s a' t) : a' = a ∧ t = s := by
  obtain ⟨fault, fault', h⟩ := h
  cases h
  exact ⟨rfl, rfl⟩

/-- Code in sequence goes through the tables between its parts. -/
theorem does_bind (h : Does (x >>= f) s b t) : ∃ a m, Does x s a m ∧ Does (f a) m b t := by
  obtain ⟨fault, fault', h⟩ := h
  obtain ⟨⟨a, fault₁, m⟩, hx, hf⟩ := Option.bind_eq_some_iff.mp h
  exact ⟨a, m, ⟨fault, fault₁, hx⟩, ⟨fault₁, fault', hf⟩⟩

theorem does_statement {f : σ → Option (α × σ)} (h : Does (statement f) s a t) :
    f s = some (a, t) := by
  obtain ⟨fault, fault', h⟩ := h
  unfold statement at h
  split at h
  · cases h
  · obtain ⟨r, hr, heq⟩ := Option.map_eq_some_iff.mp h
    cases heq
    exact hr
  · obtain ⟨r, hr, heq⟩ := Option.map_eq_some_iff.mp h
    cases heq
    exact hr

theorem does_query {f : σ → α} (h : Does (query f) s a t) : a = f s ∧ t = s := by
  cases does_statement h
  exact ⟨rfl, rfl⟩

theorem does_update {f : σ → α × σ} (h : Does (update f) s a t) : (a, t) = f s :=
  (Option.some.inj (does_statement h)).symm

/-- **What a transaction does**: it throws and changes nothing, or its code has gone to its
end. -/
theorem runInTransaction_cases (body : Body σ α) (fault : Fault) (s : σ) :
    runInTransaction body fault s = (none, s) ∨
      ∃ a t, Does body s a t ∧ runInTransaction body fault s = (some a, t) := by
  unfold runInTransaction
  simp only
  split
  · exact .inl rfl
  · rename_i a fault' t h
    refine .inr ⟨a, t, ?_, rfl⟩
    obtain ⟨_, m, hbegin, h⟩ := does_bind ⟨fault, fault', h⟩
    obtain ⟨a', m', hbody, h⟩ := does_bind h
    obtain ⟨_, m'', hcommit, h⟩ := does_bind h
    obtain ⟨rfl, rfl⟩ := does_pure h
    rw [(does_query hbegin).2] at hbody
    rw [(does_query hcommit).2]
    exact hbody

/-- A transaction that throws is rolled back. -/
theorem runInTransaction_of_throws {body : Body σ α} {fault : Fault}
    (h : (runInTransaction body fault s).1 = none) :
    runInTransaction body fault s = (none, s) := by
  rcases runInTransaction_cases body fault s with heq | ⟨a, t, _, heq⟩
  · exact heq
  · rw [heq] at h
    cases h

end Lib.Transaction
