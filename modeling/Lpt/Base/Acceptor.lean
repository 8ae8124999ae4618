import Mathlib

/-!
# Automata that read a record

A record is a list of events, newest first.  An automaton reads it from the oldest event
on; in each of its states an event is forbidden, or leads to a next state.  That a record
can be read says of every event that it came when it was allowed.

* `readAll` — the state after a record has been read, if all of it was allowed.
* `readAll_append` — a record is read in parts.
* `exists_of_readAll` — the state in which an event of the record was read.
* `readAll_invariant` — what every allowed event keeps holds in the state reached.
* `credit_le` — the rule of credit: if every event pays for itself out of the credit of
  the state, what is spent on a record is covered by what was earned on it; `countP_le` is
  the same for events that are counted.
-/

namespace Trans

variable {E S : Type}

/-- The state of the automaton `next`, which begins in `s`, after it has read a record;
`none` if it has met an event it forbids. -/
def readAll (next : S → E → Option S) (s : S) : List E → Option S
  | [] => some s
  | e :: es => (readAll next s es).bind fun s' => next s' e

section Lemmas

variable {next : S → E → Option S} {s s' t : S} {e : E} {es tr newer older : List E}

@[simp] theorem readAll_nil : readAll next s [] = some s := rfl

@[simp] theorem readAll_cons :
    readAll next s (e :: es) = (readAll next s es).bind fun s' => next s' e := rfl

theorem readAll_cons_eq (h : readAll next s es = some t) (he : next t e = some s') :
    readAll next s (e :: es) = some s' := by
  rw [readAll_cons, h, Option.bind_some, he]

/-- **A record is read in parts.** -/
theorem readAll_append : readAll next s (newer ++ older) =
    (readAll next s older).bind fun t => readAll next t newer := by
  induction newer with
  | nil => simp
  | cons e newer ih =>
    rw [List.cons_append, readAll_cons, ih]
    cases readAll next s older <;> rfl

theorem readAll_append_eq (h : readAll next s older = some t)
    (h' : readAll next t newer = some s') : readAll next s (newer ++ older) = some s' := by
  rw [readAll_append, h, Option.bind_some, h']

/-- Every event of a record that can be read was allowed when it came. -/
theorem exists_of_readAll (h : readAll next s (newer ++ e :: older) = some s') :
    ∃ t t', readAll next s older = some t ∧ next t e = some t' ∧
      readAll next t' newer = some s' := by
  rw [readAll_append] at h
  obtain ⟨t', ht', hnewer⟩ := Option.bind_eq_some_iff.1 h
  obtain ⟨t, ht, he⟩ := Option.bind_eq_some_iff.1 ht'
  exact ⟨t, t', ht, he, hnewer⟩

/-- **The invariant rule.** -/
theorem readAll_invariant (Inv : S → Prop) (hnext : ∀ t e t', Inv t → next t e = some t' → Inv t')
    (h0 : Inv s) (h : readAll next s es = some s') : Inv s' := by
  induction es generalizing s' with
  | nil =>
    cases h
    exact h0
  | cons e es ih =>
    obtain ⟨t, ht, he⟩ := Option.bind_eq_some_iff.1 h
    exact hnext t e s' (ih ht) he

/-- **The rule of credit.**  An event costs `cost` and earns `gain`, and no allowed event
costs more than the state before it holds in credit and the event earns.  Then no record
costs more than was there at the beginning and has been earned. -/
theorem credit_le (credit : S → ℕ) (cost gain : E → ℕ)
    (hnext : ∀ t e t', next t e = some t' → cost e + credit t' ≤ gain e + credit t)
    (h : readAll next s es = some s') :
    (es.map cost).sum + credit s' ≤ (es.map gain).sum + credit s := by
  induction es generalizing s' with
  | nil =>
    cases h
    exact le_rfl
  | cons e es ih =>
    obtain ⟨t, ht, he⟩ := Option.bind_eq_some_iff.1 h
    have hrest := ih ht
    have hlast := hnext t e s' he
    simp only [List.map_cons, List.sum_cons]
    omega

/-- The rule of credit for events that are counted: no more `cost` events are read than
`gain` events, if nothing is in credit at the beginning. -/
theorem countP_le (cost gain : E → Bool) (credit : S → ℕ) (h0 : credit s = 0)
    (hnext : ∀ t e t', next t e = some t' →
      (cost e).toNat + credit t' ≤ (gain e).toNat + credit t)
    (h : readAll next s es = some s') : es.countP cost ≤ es.countP gain := by
  have hsum : ∀ (p : E → Bool) (l : List E), (l.map fun e => (p e).toNat).sum = l.countP p := by
    intro p l
    induction l with
    | nil => rfl
    | cons e l ih =>
      rw [List.map_cons, List.sum_cons, List.countP_cons, ih]
      cases p e <;> simp [Nat.add_comm]
  have hle := credit_le credit (fun e => (cost e).toNat) (fun e => (gain e).toNat) hnext h
  rw [hsum, hsum, h0] at hle
  omega

end Lemmas

end Trans
