import Lpt.Base.Threads

/-!
# The paths of one program

The outcomes of a program say how it can end.  Its paths also say what it has done on the
way, and how far it has come when it has not ended yet; that is what a rule about the
order of operations is about.

* `Steps` — on some inputs the program performs these operations, with these answers, and
  has then still to do the rest.
* `Steps.outcome` and `Prog.Outcome.exists_steps` — a path to the end is an outcome, and every
  outcome has one.
* `Discipline.run` — the state a discipline has reached after some operations, or `none`
  if one of them was forbidden.
* `Guards` — on every path the discipline is kept until the world is excused from it, and
  a program that returns does so with `Q`.  It composes like a precondition;
  `Guards.steps` turns it into a statement about paths.
* `Discipline.avoid` — the operations a program never asks for, and `Steps.of_bind_mem`, the
  part of a sequence that asks for them.
* `guard` — a handler that refuses what the discipline forbids: `Steps.outcome_guard` says
  that a path on which the discipline was kept is an outcome under it.
-/

namespace Effect

variable {Op : Type} {Ans : Op → Type} {I W S α β : Type}

/-- An operation and its answer. -/
abbrev Call (Op : Type) (Ans : Op → Type) : Type := (o : Op) × Ans o

/-- On some inputs of the environment the program, started in the world `w`, performs the
operations `cs`, and is left with the program `q` in the world `w'`. -/
inductive Steps (H : Handler Op Ans I W) :
    Prog Op Ans α → W → List (Call Op Ans) → Prog Op Ans α → W → Prop
  | refl {p : Prog Op Ans α} {w : W} : Steps H p w [] p w
  | call {o : Op} {k : Ans o → Prog Op Ans α} {q : Prog Op Ans α} {i : I} {x : Ans o}
      {w w₁ w' : W} {cs : List (Call Op Ans)} : H o i w = some (x, w₁) →
      Steps H (k x) w₁ cs q w' → Steps H (.op o k) w (⟨o, x⟩ :: cs) q w'

/-- The state a discipline has reached after the operations `cs`. -/
def Discipline.run (D : Discipline Op Ans S) : S → List (Call Op Ans) → Option S
  | s, [] => some s
  | s, c :: cs => (D s c.1).bind fun f => D.run (f c.2) cs

variable {H : Handler Op Ans I W} {D : Discipline Op Ans S} {E : W → Prop}
  {p q : Prog Op Ans α} {s s' t : S} {w w' : W} {cs : List (Call Op Ans)}

/-! ## Paths to the end -/

/-- A path on which the program returns is an outcome of it. -/
theorem Steps.outcome {a : α} (h : Steps H p w cs (.ret a) w') : p.Outcome H w a w' := by
  generalize hq : (Prog.ret a : Prog Op Ans α) = q at h
  induction h with
  | refl =>
    rw [← hq]
    exact ⟨rfl, rfl⟩
  | call hH _ ih => exact ⟨_, _, _, hH, ih hq⟩

/-- Every outcome has a path. -/
theorem Prog.Outcome.exists_steps {a : α} (h : p.Outcome H w a w') :
    ∃ cs, Steps H p w cs (.ret a) w' := by
  induction p generalizing w with
  | ret b =>
    obtain ⟨rfl, rfl⟩ := h
    exact ⟨[], .refl⟩
  | op o k ih =>
    obtain ⟨i, x, w₁, hH, hk⟩ := h
    obtain ⟨cs, hs⟩ := ih x hk
    exact ⟨⟨o, x⟩ :: cs, .call hH hs⟩

/-! ## Keeping to a discipline on every path -/

namespace Prog

/-- On every path from the state `s` of the discipline and the world `w`, the discipline is
kept as long as the world does not meet `E`, and what is returned meets `Q`. -/
def Guards (H : Handler Op Ans I W) (D : Discipline Op Ans S) (E : W → Prop) :
    Prog Op Ans α → S → W → (α → S → W → Prop) → Prop
  | .ret a, s, w, Q => E w ∨ Q a s w
  | .op o k, s, w, Q => E w ∨ ∃ f, D s o = some f ∧
      ∀ i x w₁, H o i w = some (x, w₁) → (k x).Guards H D E (f x) w₁ Q

variable {Q R : α → S → W → Prop}

/-- In an excused world nothing has to be kept any more. -/
theorem Guards.of_excused (h : E w) : p.Guards H D E s w Q := by
  cases p with
  | ret a => exact Or.inl h
  | op o k => exact Or.inl h

/-- An excuse holds for good. -/
def Lasting (H : Handler Op Ans I W) (E : W → Prop) : Prop :=
  ∀ o i w x w', E w → H o i w = some (x, w') → E w'

/-- **The rule for sequences.** -/
theorem Guards.bind {f : α → Prog Op Ans β} {Q : β → S → W → Prop}
    (hp : p.Guards H D E s w R) (hf : ∀ a s w, R a s w → (f a).Guards H D E s w Q) :
    (p >>= f).Guards H D E s w Q := by
  induction p generalizing s w with
  | ret a =>
    rcases hp with hE | hR
    · exact Guards.of_excused hE
    · exact hf a s w hR
  | op o k ih =>
    rcases hp with hE | ⟨g, hg, hk⟩
    · exact Or.inl hE
    · exact Or.inr ⟨g, hg, fun i x w₁ hH => ih x (hk i x w₁ hH)⟩

theorem Guards.mono (hp : p.Guards H D E s w R) (hQ : ∀ a s w, R a s w → Q a s w) :
    p.Guards H D E s w Q := by
  induction p generalizing s w with
  | ret a => exact hp.imp_right (hQ a s w)
  | op o k ih =>
    rcases hp with hE | ⟨g, hg, hk⟩
    · exact Or.inl hE
    · exact Or.inr ⟨g, hg, fun i x w₁ hH => ih x (hk i x w₁ hH)⟩

/-- A program that keeps to a discipline whatever it is answered also does so on its paths;
and what it returns is an outcome of it. -/
theorem Obeys.guards (h : p.Obeys D s t) :
    p.Guards H D E s w fun a s' w' => s' = t ∧ p.Outcome H w a w' := by
  induction p generalizing s w with
  | ret a => exact Or.inr ⟨h, rfl, rfl⟩
  | op o k ih =>
    obtain ⟨f, hf, hk⟩ := h
    refine Or.inr ⟨f, hf, fun i x w₁ hH => ?_⟩
    exact (ih x (hk x)).mono fun a s' w' hQ => ⟨hQ.1, i, x, w₁, hH, hQ.2⟩

/-- **What a guarded program does on a path** that is not excused: no operation was
forbidden, and what is left to do is guarded. -/
theorem Guards.steps (hE : Lasting H E) (hp : p.Guards H D E s w Q) (hs : Steps H p w cs q w')
    (hn : ¬ E w') : ∃ s', D.run s cs = some s' ∧ q.Guards H D E s' w' Q := by
  induction hs generalizing s with
  | refl => exact ⟨s, rfl, hp⟩
  | @call o k q i x w w₁ w' cs hH hrest ih =>
    rcases hp with hex | ⟨f, hf, hk⟩
    · -- the excuse would have lasted
      have hlast : ∀ {p q : Prog Op Ans α} {w w' : W} {cs : List (Call Op Ans)},
          Steps H p w cs q w' → E w → E w' := fun hs hw => by
        induction hs with
        | refl => exact hw
        | call hH _ ih => exact ih (hE _ _ _ _ _ hw hH)
      exact absurd (hlast (.call hH hrest) hex) hn
    · obtain ⟨s', hrun, hq⟩ := ih (hk i x w₁ hH) hn
      refine ⟨s', ?_, hq⟩
      unfold Discipline.run
      rw [hf]
      exact hrun

end Prog

/-! ## The paths of a sequence -/

section Sequences

variable {f : α → Prog Op Ans β} {q' : Prog Op Ans β} {B : Op → Bool} {c : Call Op Ans}

/-- A path of a sequence ends in its first part, or goes on into the second. -/
theorem Steps.of_bind (h : Steps H (p >>= f) w cs q' w') :
    (∃ p', q' = p' >>= f ∧ Steps H p w cs p' w') ∨
      ∃ a w₁ cs₁ cs₂, cs = cs₁ ++ cs₂ ∧ Steps H p w cs₁ (.ret a) w₁ ∧
        Steps H (f a) w₁ cs₂ q' w' := by
  induction p generalizing w cs with
  | ret a => exact Or.inr ⟨a, w, [], cs, rfl, .refl, h⟩
  | op o k ih =>
    rw [Prog.op_bind] at h
    cases h with
    | refl => exact Or.inl ⟨.op o k, rfl, .refl⟩
    | @call _ _ _ _ x _ _ _ cs hH hrest =>
      rcases ih x hrest with ⟨p', rfl, hp⟩ | ⟨a, w₂, cs₁, cs₂, rfl, hp, hf⟩
      · exact Or.inl ⟨p', rfl, .call hH hp⟩
      · exact Or.inr ⟨a, w₂, ⟨o, x⟩ :: cs₁, cs₂, rfl, .call hH hp, hf⟩

/-- A sequence that has returned has been through both parts. -/
theorem Steps.of_bind_ret {b : β} (h : Steps H (p >>= f) w cs (.ret b) w') :
    ∃ a w₁ cs₁ cs₂, cs = cs₁ ++ cs₂ ∧ Steps H p w cs₁ (.ret a) w₁ ∧
      Steps H (f a) w₁ cs₂ (.ret b) w' := by
  rcases h.of_bind with ⟨p', hq, hp⟩ | hboth
  · cases p' with
    | ret a => exact ⟨a, w', cs, [], (List.append_nil cs).symm, hp, hq ▸ .refl⟩
    | op o k => cases hq
  · exact hboth

/-- The discipline that forbids the operations `B`. -/
def Discipline.avoid (B : Op → Bool) : Discipline Op Ans Unit :=
  fun _ o => if B o then none else some fun _ => ()

theorem Discipline.avoid_eq {o : Op} (h : B o = false) :
    (Discipline.avoid B : Discipline Op Ans Unit) () o = some fun _ => () := by
  unfold Discipline.avoid
  rw [h]
  rfl

/-- What a program avoids is on none of its paths. -/
theorem Steps.avoids (h : Steps H p w cs q w') (hp : p.Obeys (Discipline.avoid B) () ()) :
    ∀ c ∈ cs, B c.1 = false := by
  induction h with
  | refl => exact List.forall_mem_nil _
  | @call o k q i x w w₁ w' cs hH hrest ih =>
    obtain ⟨g, hg, hk⟩ := hp
    rw [List.forall_mem_cons]
    refine ⟨?_, ih (hk x)⟩
    unfold Discipline.avoid at hg
    cases hB : B o with
    | false => rfl
    | true =>
      rw [hB] at hg
      cases hg

/-- What the first part of a sequence avoids is asked for by the second. -/
theorem Steps.of_bind_mem (h : Steps H (p >>= f) w cs q' w')
    (hp : p.Obeys (Discipline.avoid B) () ()) (hc : c ∈ cs) (hB : B c.1 = true) :
    ∃ a w₁ cs₁ cs₂, cs = cs₁ ++ cs₂ ∧ Steps H p w cs₁ (.ret a) w₁ ∧
      Steps H (f a) w₁ cs₂ q' w' ∧ c ∈ cs₂ := by
  have hno : ∀ {cs' : List (Call Op Ans)} {p' : Prog Op Ans α} {w₁ : W},
      Steps H p w cs' p' w₁ → c ∉ cs' := by
    intro cs' p' w₁ hs hmem
    have hfalse := hs.avoids hp c hmem
    rw [hB] at hfalse
    cases hfalse
  rcases h.of_bind with ⟨p', -, hs⟩ | ⟨a, w₁, cs₁, cs₂, rfl, hs, hf⟩
  · exact absurd hc (hno hs)
  · exact ⟨a, w₁, cs₁, cs₂, rfl, hs, hf, (List.mem_append.1 hc).resolve_left (hno hs)⟩

end Sequences

/-! ## Handlers that enforce a discipline -/

/-- The handler that refuses what the discipline forbids; its worlds carry the state of the
discipline. -/
def guard (H : Handler Op Ans I W) (D : Discipline Op Ans S) : Handler Op Ans I (S × W) :=
  fun o i sw => (D sw.1 o).bind fun f => (H o i sw.2).map fun r => (r.1, f r.1, r.2)

theorem guard_eq_some {o : Op} {i : I} {x : Ans o} {sw sw' : S × W} :
    guard H D o i sw = some (x, sw') ↔
      ∃ f w', D sw.1 o = some f ∧ H o i sw.2 = some (x, w') ∧ sw' = (f x, w') := by
  unfold guard
  rw [Option.bind_eq_some_iff]
  apply exists_congr
  intro f
  rw [Option.map_eq_some_iff]
  constructor
  · rintro ⟨hf, ⟨y, w'⟩, hH, heq⟩
    cases heq
    exact ⟨w', hf, hH, rfl⟩
  · rintro ⟨w', hf, hH, rfl⟩
    exact ⟨hf, (x, w'), hH, rfl⟩

/-- **A path on which the discipline was kept** is an outcome under the handler that
enforces it. -/
theorem Steps.outcome_guard {a : α} (h : Steps H p w cs (.ret a) w')
    (hrun : D.run s cs = some s') : p.Outcome (guard H D) (s, w) a (s', w') := by
  generalize hq : (Prog.ret a : Prog Op Ans α) = q at h
  induction h generalizing s with
  | refl =>
    rw [← hq]
    cases hrun
    exact ⟨rfl, rfl⟩
  | call hH _ ih =>
    obtain ⟨f, hf, hrest⟩ := Option.bind_eq_some_iff.1 hrun
    exact ⟨_, _, _, guard_eq_some.2 ⟨f, _, hf, hH, rfl⟩, ih hrest hq⟩

/-- An outcome under the enforcing handler is one without it; and a program that keeps to
the discipline by itself reaches the state it is to reach. -/
theorem Prog.Outcome.of_guard {a : α} {sw sw' : S × W} (h : p.Outcome (guard H D) sw a sw') :
    p.Outcome H sw.2 a sw'.2 ∧ (∀ t, p.Obeys D sw.1 t → sw'.1 = t) := by
  induction p generalizing sw with
  | ret b =>
    obtain ⟨rfl, rfl⟩ := h
    exact ⟨⟨rfl, rfl⟩, fun t ht => ht⟩
  | op o k ih =>
    obtain ⟨i, x, sw₁, hH, hk⟩ := h
    obtain ⟨f, w₁, hf, hH', rfl⟩ := guard_eq_some.1 hH
    obtain ⟨hout, hstate⟩ := ih x hk
    refine ⟨⟨i, x, w₁, hH', hout⟩, ?_⟩
    intro t ht
    obtain ⟨g, hg, hobeys⟩ := ht
    rw [hf, Option.some.injEq] at hg
    exact hstate t (hg ▸ hobeys x)

end Effect
