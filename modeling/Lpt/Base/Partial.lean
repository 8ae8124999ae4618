import Lpt.Base.Threads

/-!
# Programs that are cut off

A program need not come to its end: the process is killed, or the power fails.  What is left
then is the world after some of its operations.

* `Prog.Reaches` — the worlds a program passes through.
* `reaches_bind` — a sequence is cut off in its first part, or in its second part after an
  outcome of the first.
* `Reaches.frame` — what no allowed operation changes is the same in every world passed
  through, if the program keeps to the discipline.
* `Reaches.growing` — what every operation only lets grow has grown.
* `Prog.cutAfter` — a program run against a script, for some of its operations.
-/

namespace Effect

namespace Prog

variable {Op : Type} {Ans : Op → Type} {I W V S α β : Type} {H : Handler Op Ans I W}

/-- `p.Reaches H w w'`: for some inputs of the environment the program, started in `w`, is in
the world `w'` after some of its operations. -/
def Reaches (H : Handler Op Ans I W) : Prog Op Ans α → W → W → Prop
  | .ret _, w, w' => w' = w
  | .op o k, w, w' => w' = w ∨ ∃ i x w₁, H o i w = some (x, w₁) ∧ (k x).Reaches H w₁ w'

@[simp] theorem reaches_ret {a : α} {w w' : W} :
    (Prog.ret a : Prog Op Ans α).Reaches H w w' ↔ w' = w := Iff.rfl

@[simp] theorem reaches_pure {a : α} {w w' : W} :
    (pure a : Prog Op Ans α).Reaches H w w' ↔ w' = w := Iff.rfl

/-- A program can be cut off before its first operation. -/
theorem Reaches.refl (p : Prog Op Ans α) (w : W) : p.Reaches H w w := by
  cases p with
  | ret a => rfl
  | op o k => exact Or.inl rfl

/-- A program can be cut off after its last operation. -/
theorem Outcome.reaches {p : Prog Op Ans α} {a : α} {w w' : W} (h : p.Outcome H w a w') :
    p.Reaches H w w' := by
  induction p generalizing w with
  | ret b => exact h.2
  | op o k ih =>
    obtain ⟨i, x, w₁, hx, hk⟩ := h
    exact Or.inr ⟨i, x, w₁, hx, ih x hk⟩

/-- **A sequence that is cut off.** -/
theorem reaches_bind {p : Prog Op Ans α} {f : α → Prog Op Ans β} {w w' : W} :
    (p >>= f).Reaches H w w' ↔
      p.Reaches H w w' ∨ ∃ a w₁, p.Outcome H w a w₁ ∧ (f a).Reaches H w₁ w' := by
  induction p generalizing w with
  | ret a =>
    constructor
    · intro h
      exact Or.inr ⟨a, w, ⟨rfl, rfl⟩, h⟩
    · rintro (rfl | ⟨_, _, ⟨rfl, rfl⟩, h⟩)
      · exact Reaches.refl (f a) w'
      · exact h
  | op o k ih =>
    constructor
    · rintro (rfl | ⟨i, x, w₁, hx, h⟩)
      · exact Or.inl (Or.inl rfl)
      · rcases (ih x).1 h with h | ⟨a, w₂, hk, hf⟩
        · exact Or.inl (Or.inr ⟨i, x, w₁, hx, h⟩)
        · exact Or.inr ⟨a, w₂, ⟨i, x, w₁, hx, hk⟩, hf⟩
    · rintro ((rfl | ⟨i, x, w₁, hx, h⟩) | ⟨a, w₂, ⟨i, x, w₁, hx, hk⟩, hf⟩)
      · exact Or.inl rfl
      · exact Or.inr ⟨i, x, w₁, hx, (ih x).2 (Or.inl h)⟩
      · exact Or.inr ⟨i, x, w₁, hx, (ih x).2 (Or.inr ⟨a, w₂, hk, hf⟩)⟩

theorem reaches_ite {c : Prop} [Decidable c] {p q : Prog Op Ans α} {w w' : W} :
    (if c then p else q).Reaches H w w' ↔
      (c ∧ p.Reaches H w w') ∨ (¬ c ∧ q.Reaches H w w') := by
  by_cases hc : c <;> simp [hc]

theorem reaches_call {o : Op} {w w' : W} :
    (call o : Prog Op Ans (Ans o)).Reaches H w w' ↔
      w' = w ∨ ∃ x, (call o : Prog Op Ans (Ans o)).Outcome H w x w' := by
  constructor
  · rintro (rfl | ⟨i, x, w₁, hx, rfl⟩)
    · exact Or.inl rfl
    · exact Or.inr ⟨x, outcome_call.2 ⟨i, hx⟩⟩
  · rintro (rfl | ⟨x, h⟩)
    · exact Or.inl rfl
    · exact h.reaches

/-- **What is left alone.**  No operation that the discipline allows changes what `view`
shows, and the program keeps to the discipline. -/
theorem Reaches.frame {D : Discipline Op Ans S} (view : W → V)
    (hD : ∀ s o (f : Ans o → S) i w x w', D s o = some f → H o i w = some (x, w') →
      view w' = view w)
    {p : Prog Op Ans α} {s t : S} (hp : p.Obeys D s t) {w w' : W} (h : p.Reaches H w w') :
    view w' = view w := by
  induction p generalizing s w with
  | ret a => exact congrArg view h
  | op o k ih =>
    obtain ⟨f, hf, hk⟩ := hp
    rcases h with rfl | ⟨i, x, w₁, hx, h⟩
    · rfl
    · exact (ih x (hk x) h).trans (hD s o f i w x w₁ hf hx)

/-- **What only grows.** -/
theorem Reaches.growing (r : W → W → Prop) (hrefl : ∀ w, r w w)
    (hstep : ∀ o i w x w₁ w', H o i w = some (x, w₁) → r w₁ w' → r w w')
    {p : Prog Op Ans α} {w w' : W} (h : p.Reaches H w w') : r w w' := by
  induction p generalizing w with
  | ret a =>
    obtain rfl : w' = w := h
    exact hrefl w'
  | op o k ih =>
    rcases h with rfl | ⟨i, x, w₁, hx, h⟩
    · exact hrefl w'
    · exact hstep o i w x w₁ w' hx (ih x h)

/-! ## Scripts -/

/-- The world after the first `n` operations against a script. -/
def cutAfter (H : Handler Op Ans I W) (quiet : Op → Option I) :
    ℕ → Prog Op Ans α → List I → W → Option W
  | 0, _, _, w => some w
  | _ + 1, .ret _, _, w => some w
  | n + 1, .op o k, is, w =>
      (nextInput (quiet o) is).bind fun i =>
        (H o i.1 w).bind fun r => cutAfter H quiet n (k r.1) i.2 r.2

/-- Whatever a script shows is passed through. -/
theorem cutAfter_reaches {quiet : Op → Option I} {n : ℕ} {p : Prog Op Ans α} {is : List I}
    {w w' : W} (h : cutAfter H quiet n p is w = some w') : p.Reaches H w w' := by
  induction n generalizing p is w with
  | zero =>
    cases h
    exact Reaches.refl p _
  | succ n ih =>
    cases p with
    | ret a =>
      cases h
      rfl
    | op o k =>
      obtain ⟨i, -, hi⟩ := Option.bind_eq_some_iff.1 h
      obtain ⟨r, hr, hk⟩ := Option.bind_eq_some_iff.1 hi
      exact Or.inr ⟨i.1, r.1, r.2, hr, ih hk⟩

end Prog

end Effect
