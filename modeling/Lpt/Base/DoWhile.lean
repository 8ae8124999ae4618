import Lpt.Base.Transition

/-!
# Functions that are a `do … while` loop

The body of the loop gets one input each time.  It ends at the condition, which is also
where `continue` goes, or it returns from the function.

* `DoWhile` — the body, the condition, and what is returned behind the loop.
* `DoWhile.Step` — one execution of the body, with the condition behind it.
* `DoWhile.call` — the whole call, on a script of inputs.
* `DoWhile.call_eq_some_iff` — the calls are the runs that have returned.
* `DoWhile.reached_of_path` — the rule of the loop: an invariant of the body holds before
  every execution of it, and what is returned is the value behind the loop, where the
  condition is false, or what the last execution of the body returned.
-/

namespace Trans

/-- How an execution of the body ends. -/
inductive BodyEnd (S R : Type) where
  /-- At the condition. -/
  | toTest (s : S)
  /-- By a `return`. -/
  | returns (s : S) (r : R)

/-- A function that is one loop. -/
structure DoWhile (S I R : Type) where
  /-- An input for which there is no result is not possible. -/
  body : S → I → Option (BodyEnd S R)
  test : S → Bool
  /-- What is returned behind the loop. -/
  value : S → R

/-- Where a call is. -/
inductive Activation (S R : Type) where
  /-- Before an execution of the body. -/
  | running (s : S)
  /-- It has returned `r`. -/
  | returned (s : S) (r : R)

/-- The state it has, or had when it returned. -/
def Activation.state {S R : Type} : Activation S R → S
  | .running s => s
  | .returned s _ => s

namespace DoWhile

variable {S I R : Type}

/-- Behind the body. -/
def afterBody (d : DoWhile S I R) : BodyEnd S R → Activation S R
  | .toTest s => if d.test s = true then .running s else .returned s (d.value s)
  | .returns s r => .returned s r

/-- One execution of the body, with the condition. -/
def turn (d : DoWhile S I R) : Activation S R → I → Option (Activation S R)
  | .running s, i => (d.body s i).map d.afterBody
  | .returned _ _, _ => none

/-- One execution of the body, with the condition. -/
def Step (d : DoWhile S I R) (a : Activation S R) (i : I) (a' : Activation S R) : Prop :=
  d.turn a i = some a'

/-- The function called in the state `s` on a script of inputs: the state it leaves, its
result and the inputs not used.  A call whose script is used up has not returned yet. -/
def call (d : DoWhile S I R) (s : S) : List I → Option (S × R × List I)
  | [] => none
  | i :: is =>
      match d.body s i with
      | none => none
      | some (.toTest s') => if d.test s' = true then d.call s' is else some (s', d.value s', is)
      | some (.returns s' r) => some (s', r, is)

/-- A call goes on with the rest of the script. -/
def resume (d : DoWhile S I R) : Activation S R → List I → Option (S × R × List I)
  | .running s, is => d.call s is
  | .returned s r, is => some (s, r, is)

section Lemmas

variable {d : DoWhile S I R} {s₀ s s' : S} {i : I} {r : R} {a : Activation S R} {is rest : List I}
  {h : List (Move (Activation S R) I)}

/-- Whether the loop goes on or not, the state is that at the condition. -/
theorem state_toTest (d : DoWhile S I R) (s : S) : (d.afterBody (.toTest s)).state = s := by
  show (if d.test s = true then Activation.running s else .returned s (d.value s)).state = s
  split_ifs
  · rfl
  · rfl

theorem step_iff : d.Step (.running s) i a ↔ ∃ e, d.body s i = some e ∧ d.afterBody e = a :=
  Option.map_eq_some_iff

/-- Nothing is executed after the call has returned. -/
theorem Step.running {a' : Activation S R} (hs : d.Step a i a') : ∃ s, a = .running s := by
  cases a with
  | running s => exact ⟨s, rfl⟩
  | returned s r => cases hs

/-! ## The whole call -/

theorem call_not_possible (h : d.body s i = none) (is : List I) : d.call s (i :: is) = none := by
  rw [call, h]

theorem call_toTest (h : d.body s i = some (.toTest s')) (is : List I) :
    d.call s (i :: is) = if d.test s' = true then d.call s' is else some (s', d.value s', is) := by
  rw [call, h]

theorem call_returns (h : d.body s i = some (.returns s' r)) (is : List I) :
    d.call s (i :: is) = some (s', r, is) := by
  rw [call, h]

/-- The first input of the script is the one of the next step. -/
theorem resume_cons {a' : Activation S R} (hs : d.Step a i a') (is : List I) :
    d.resume a (i :: is) = d.resume a' is := by
  obtain ⟨s, rfl⟩ := hs.running
  obtain ⟨e, he, rfl⟩ := step_iff.1 hs
  rw [resume]
  cases e with
  | toTest s' =>
    rw [call_toTest he, afterBody]
    by_cases ht : d.test s' = true
    · rw [if_pos ht, if_pos ht, resume]
    · rw [if_neg ht, if_neg ht, resume]
  | returns s' r => rw [call_returns he, afterBody, resume]

/-- The label of the newest step is the last input of the script. -/
theorem script_cons (m : Move (Activation S R) I) (h : List (Move (Activation S R) I))
    (is : List I) :
    ((m :: h).map Move.label).reverse ++ is = (h.map Move.label).reverse ++ m.label :: is := by
  rw [List.map_cons, List.reverse_cons, List.append_assoc, List.singleton_append]

/-- A script that begins as a run goes on where the run is. -/
theorem call_of_path (hp : Path d.Step (.running s₀) h a) (is : List I) :
    d.call s₀ ((h.map Move.label).reverse ++ is) = d.resume a is := by
  induction hp generalizing is with
  | start => rfl
  | snoc hp hs ih => rw [script_cons, ih, resume_cons hs]

/-- A call that returns is a run, from any state that a run has reached. -/
theorem path_of_call (hp : Path d.Step (.running s₀) h (.running s))
    (hc : d.call s is = some (s', r, rest)) :
    ∃ h', Path d.Step (.running s₀) h' (.returned s' r) ∧
      (h'.map Move.label).reverse ++ rest = (h.map Move.label).reverse ++ is := by
  induction is generalizing s h with
  | nil => cases hc
  | cons i is ih =>
    cases hbody : d.body s i with
    | none =>
      rw [call_not_possible hbody] at hc
      cases hc
    | some e =>
      have hpath := hp.snoc (step_iff.2 ⟨e, hbody, rfl⟩)
      cases e with
      | toTest t =>
        rw [call_toTest hbody] at hc
        rw [afterBody] at hpath
        by_cases ht : d.test t = true
        · rw [if_pos ht] at hc hpath
          obtain ⟨h', hp', heq⟩ := ih hpath hc
          exact ⟨h', hp', heq.trans (script_cons ..)⟩
        · rw [if_neg ht] at hc hpath
          cases hc
          exact ⟨_, hpath, script_cons ..⟩
      | returns t r =>
        rw [call_returns hbody] at hc
        cases hc
        exact ⟨_, hpath, script_cons ..⟩

/-- **The calls are the runs that have returned.** -/
theorem call_eq_some_iff : d.call s₀ is = some (s, r, rest) ↔
    ∃ h, Path d.Step (.running s₀) h (.returned s r) ∧
      (h.map Move.label).reverse ++ rest = is := by
  constructor
  · intro hc
    exact path_of_call .start hc
  · rintro ⟨h, hp, rfl⟩
    exact call_of_path hp rest

/-! ## The rule of the loop -/

/-- What an invariant of the body says about a call, with the steps of the call. -/
inductive Reached (d : DoWhile S I R) (Inv : S → Prop) :
    List (Move (Activation S R) I) → Activation S R → Prop
  /-- Before an execution of the body it holds. -/
  | running {h : List (Move (Activation S R) I)} {s : S} : Inv s → Reached d Inv h (.running s)
  /-- It holds behind the loop, where the condition does not. -/
  | byTest {h : List (Move (Activation S R) I)} {s : S} : Inv s → d.test s = false →
      Reached d Inv h (.returned s (d.value s))
  /-- The last execution of the body began where it holds, and has returned. -/
  | byReturn {h : List (Move (Activation S R) I)} {s t : S} {i : I} {r : R} : Inv t →
      d.body t i = some (.returns s r) →
      Reached d Inv (⟨.running t, i, .returned s r⟩ :: h) (.returned s r)

/-- One execution of the body, with the condition. -/
theorem Reached.step {Inv : S → Prop} {a' : Activation S R}
    (hbody : ∀ s i s', Inv s → d.body s i = some (.toTest s') → Inv s')
    (ha : d.Reached Inv h a) (hs : d.Step a i a') : d.Reached Inv (⟨a, i, a'⟩ :: h) a' := by
  cases ha with
  | @running _ s hinv =>
    obtain ⟨e, he, rfl⟩ := step_iff.1 hs
    cases e with
    | toTest s' =>
      have hinv' := hbody s i s' hinv he
      by_cases ht : d.test s' = true
      · simp only [afterBody, if_pos ht]
        exact .running hinv'
      · simp only [afterBody, if_neg ht]
        exact .byTest hinv' (Bool.eq_false_iff.2 ht)
    | returns s' r => exact .byReturn hinv he
  | byTest _ _ => cases hs
  | byReturn _ _ => cases hs

/-- **The rule of the loop.** -/
theorem reached_of_path (Inv : S → Prop) (h0 : Inv s₀)
    (hbody : ∀ s i s', Inv s → d.body s i = some (.toTest s') → Inv s')
    (hp : Path d.Step (.running s₀) h a) : d.Reached Inv h a := by
  induction hp with
  | start => exact .running h0
  | snoc _ hs ih => exact ih.step hbody hs

end Lemmas

end DoWhile

end Trans
