import Mathlib

/-!
# Programs over operations: a general theory

A program that talks to the outside world is a tree: it has either returned, or
it asks for one operation and goes on with the answer.  Nothing is said here
about what the operations do; that is the business of a `Handler`, which turns
an operation, an input of the environment and a world into an answer and a next
world, or refuses.  The same program can therefore be run in one piece, checked
against a script, or interleaved with another one.

* `Prog.Outcome` — `p.Outcome H w a w'`: some inputs take the program from the
  world `w` to the result `a` in the world `w'`.  `outcome_bind` splits the
  outcome of a sequence, which is all that the proofs about programs need.
* `Prog.replay` — the program run against a script of inputs; `replay_outcome`
  says that whatever a script shows is an outcome.
-/

namespace Effect

/-- A program over the operations `Op`, each answered in `Ans`: it has returned,
or it asks for an operation and continues with the answer. -/
inductive Prog (Op : Type) (Ans : Op → Type) (α : Type) where
  /-- The program has returned. -/
  | ret (a : α)
  /-- The program asks for `o` and goes on with the answer. -/
  | op (o : Op) (k : Ans o → Prog Op Ans α)

/-- What the operations do: an operation, an input of the environment and a
world give an answer and the next world; `none` says that the environment
cannot give this input here. -/
abbrev Handler (Op : Type) (Ans : Op → Type) (I W : Type) : Type :=
  (o : Op) → I → W → Option (Ans o × W)

namespace Prog

variable {Op : Type} {Ans : Op → Type} {I W α β γ : Type}

/-- Run `p`, then go on with what it returned. -/
def bind : Prog Op Ans α → (α → Prog Op Ans β) → Prog Op Ans β
  | .ret a, f => f a
  | .op o k, f => .op o fun x => (k x).bind f

instance : Monad (Prog Op Ans) where
  pure := .ret
  bind := bind

/-- The program that asks for one operation and returns its answer. -/
def call (o : Op) : Prog Op Ans (Ans o) := .op o .ret

@[simp] theorem pure_eq_ret (a : α) : (pure a : Prog Op Ans α) = .ret a := rfl

@[simp] theorem ret_bind (a : α) (f : α → Prog Op Ans β) : (.ret a : Prog Op Ans α) >>= f = f a :=
  rfl

@[simp] theorem op_bind (o : Op) (k : Ans o → Prog Op Ans α) (f : α → Prog Op Ans β) :
    (.op o k : Prog Op Ans α) >>= f = .op o fun x => k x >>= f := rfl

/-- The first operation that a program asks for. -/
def head : Prog Op Ans α → Option Op
  | .ret _ => none
  | .op o _ => some o

theorem head_bind {p : Prog Op Ans α} {o : Op} (h : p.head = some o) (f : α → Prog Op Ans β) :
    (p >>= f).head = some o := by
  cases p with
  | ret a => cases h
  | op o' k => exact h

/-! ## Outcomes -/

/-- `p.Outcome H w a w'`: for some inputs of the environment the program, started
in `w`, returns `a` in the world `w'`. -/
def Outcome (H : Handler Op Ans I W) : Prog Op Ans α → W → α → W → Prop
  | .ret a, w, b, w' => b = a ∧ w' = w
  | .op o k, w, b, w' => ∃ i x w₁, H o i w = some (x, w₁) ∧ (k x).Outcome H w₁ b w'

variable {H : Handler Op Ans I W}

@[simp] theorem outcome_ret {a b : α} {w w' : W} :
    (Prog.ret a : Prog Op Ans α).Outcome H w b w' ↔ b = a ∧ w' = w := Iff.rfl

@[simp] theorem outcome_pure {a b : α} {w w' : W} :
    (pure a : Prog Op Ans α).Outcome H w b w' ↔ b = a ∧ w' = w := Iff.rfl

theorem outcome_call {o : Op} {w w' : W} {x : Ans o} :
    (call o : Prog Op Ans (Ans o)).Outcome H w x w' ↔ ∃ i, H o i w = some (x, w') := by
  constructor
  · rintro ⟨i, y, w₁, h, rfl, rfl⟩
    exact ⟨i, h⟩
  · rintro ⟨i, h⟩
    exact ⟨i, x, w', h, rfl, rfl⟩

/-- **The outcome of a sequence.**  The first part comes to an end somewhere, and
the second part goes on from there. -/
theorem outcome_bind {p : Prog Op Ans α} {f : α → Prog Op Ans β} {w w' : W} {b : β} :
    (p >>= f).Outcome H w b w' ↔
      ∃ a w₁, p.Outcome H w a w₁ ∧ (f a).Outcome H w₁ b w' := by
  induction p generalizing w with
  | ret a =>
    constructor
    · intro h
      exact ⟨a, w, ⟨rfl, rfl⟩, h⟩
    · rintro ⟨_, _, ⟨rfl, rfl⟩, h⟩
      exact h
  | op o k ih =>
    constructor
    · rintro ⟨i, x, w₁, hH, h⟩
      obtain ⟨a, w₂, hk, hf⟩ := (ih x).1 h
      exact ⟨a, w₂, ⟨i, x, w₁, hH, hk⟩, hf⟩
    · rintro ⟨a, w₂, ⟨i, x, w₁, hH, hk⟩, hf⟩
      exact ⟨i, x, w₁, hH, (ih x).2 ⟨a, w₂, hk, hf⟩⟩

theorem outcome_ite {c : Prop} [Decidable c] {p q : Prog Op Ans α} {w w' : W} {a : α} :
    (if c then p else q).Outcome H w a w' ↔
      (c ∧ p.Outcome H w a w') ∨ (¬ c ∧ q.Outcome H w a w') := by
  by_cases hc : c <;> simp [hc]

/-- An environment that can do less shows no new outcome. -/
theorem Outcome.mono {H' : Handler Op Ans I W}
    (hH : ∀ o i w x, H o i w = some x → H' o i w = some x) {p : Prog Op Ans α} {w w' : W} {a : α}
    (h : p.Outcome H w a w') : p.Outcome H' w a w' := by
  induction p generalizing w with
  | ret b => exact h
  | op o k ih =>
    obtain ⟨i, x, w₁, hx, hk⟩ := h
    exact ⟨i, x, w₁, hH o i w (x, w₁) hx, ih x hk⟩

/-! ## Scripts -/

/-- The input an operation gets from a script, and the rest of the script.  An
operation that needs nothing from the environment is given the input `q` names. -/
def nextInput : Option I → List I → Option (I × List I)
  | some i, is => some (i, is)
  | none, [] => none
  | none, i :: is => some (i, is)

/-- Run the program against a script; `quiet` names the input of the operations
that take nothing from it. -/
def replay (H : Handler Op Ans I W) (quiet : Op → Option I) :
    Prog Op Ans α → List I → W → Option (α × W)
  | .ret a, _, w => some (a, w)
  | .op o k, is, w =>
      (nextInput (quiet o) is).bind fun i =>
        (H o i.1 w).bind fun r => (k r.1).replay H quiet i.2 r.2

/-- Whatever a script shows is an outcome of the program. -/
theorem replay_outcome {quiet : Op → Option I} {p : Prog Op Ans α} {is : List I} {w w' : W} {a : α}
    (h : p.replay H quiet is w = some (a, w')) : p.Outcome H w a w' := by
  induction p generalizing is w with
  | ret b =>
    simp only [replay, Option.some.injEq, Prod.mk.injEq] at h
    exact ⟨h.1.symm, h.2.symm⟩
  | op o k ih =>
    obtain ⟨i, -, hi⟩ := Option.bind_eq_some_iff.1 h
    obtain ⟨r, hr, hk⟩ := Option.bind_eq_some_iff.1 hi
    exact ⟨i.1, r.1, r.2, hr, ih r.1 hk⟩

/-- A script that shows an outcome with the property `Q`. -/
theorem exists_outcome {quiet : Op → Option I} {p : Prog Op Ans α} (is : List I) {w : W}
    (Q : α × W → Prop) [DecidablePred Q]
    (hq : (p.replay H quiet is w).any (fun r => decide (Q r)) = true) :
    ∃ a w', p.Outcome H w a w' ∧ Q (a, w') := by
  obtain ⟨r, hr, hQ⟩ := (Option.any_eq_true _ _).1 hq
  exact ⟨r.1, r.2, replay_outcome hr, of_decide_eq_true hQ⟩

end Prog

end Effect
