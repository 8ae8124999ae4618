import Lpt.Base.Transition

/-!
# Simulation

One system is seen through another: a step of the first is a step of the second, or nothing
that can be seen there.

* `Simulates` — every step is seen as a step with a label that it stands for, or not at all.
* `Seen` — the history of one system in the other.
* `Path.simulates` — a run is seen as a run, with its history.
-/

namespace Trans

variable {S S' L L' : Type} {Step : S → L → S → Prop} {Step' : S' → L' → S' → Prop}
  {view : S → S'} {Stands : Move S L → L' → Prop} {s₀ s : S} {h : List (Move S L)}
  {h' : List (Move S' L')}

/-- Every step from a state with `Inv` keeps `Inv`, and is seen through `view` as a step with
a label it stands for, or not at all. -/
def Simulates (Step : S → L → S → Prop) (Step' : S' → L' → S' → Prop) (Inv : S → Prop)
    (view : S → S') (Stands : Move S L → L' → Prop) : Prop :=
  ∀ s l s', Inv s → Step s l s' → Inv s' ∧
    (view s' = view s ∨ ∃ l', Stands ⟨s, l, s'⟩ l' ∧ Step' (view s) l' (view s'))

/-- What is seen of a history, step by step. -/
inductive Seen (view : S → S') (Stands : Move S L → L' → Prop) :
    List (Move S L) → List (Move S' L') → Prop
  | start : Seen view Stands [] []
  | hidden {m : Move S L} {h : List (Move S L)} {h' : List (Move S' L')} :
      Seen view Stands h h' → view m.post = view m.pre → Seen view Stands (m :: h) h'
  | shown {m : Move S L} {l' : L'} {h : List (Move S L)} {h' : List (Move S' L')} :
      Seen view Stands h h' → Stands m l' →
      Seen view Stands (m :: h) (⟨view m.pre, l', view m.post⟩ :: h')

/-- What holds of everything a step can be seen as holds of everything that is seen. -/
theorem Seen.forall (hs : Seen view Stands h h') {C : Move S' L' → Prop}
    (hC : ∀ m ∈ h, ∀ l', Stands m l' → C ⟨view m.pre, l', view m.post⟩) : ∀ m' ∈ h', C m' := by
  induction hs with
  | start => exact nofun
  | hidden _ _ ih => exact ih fun m hm => hC m (List.mem_cons_of_mem _ hm)
  | shown _ hl ih =>
    refine List.forall_mem_cons.2 ⟨hC _ (List.mem_cons_self ..) _ hl, ih fun m hm => ?_⟩
    exact hC m (List.mem_cons_of_mem _ hm)

/-- **A run is seen as a run.** -/
theorem Path.simulates {Inv : S → Prop} (hp : Path Step s₀ h s)
    (hsim : Simulates Step Step' Inv view Stands) (h0 : Inv s₀) :
    Inv s ∧ ∃ h', Path Step' (view s₀) h' (view s) ∧ Seen view Stands h h' := by
  induction hp with
  | start => exact ⟨h0, [], .start, .start⟩
  | @snoc h s s' l _ hs ih =>
    obtain ⟨hinv, h', hpath, hseen⟩ := ih
    obtain ⟨hinv', hsame | ⟨l', hstands, hstep⟩⟩ := hsim s l s' hinv hs
    · exact ⟨hinv', h', hsame ▸ hpath, hseen.hidden hsame⟩
    · exact ⟨hinv', _, hpath.snoc hstep, hseen.shown hstands⟩

/-- Every step of a run is taken in a state that is seen as the end of a run. -/
theorem Path.simulates_step {Inv : S → Prop} (hp : Path Step s₀ h s)
    (hsim : Simulates Step Step' Inv view Stands) (h0 : Inv s₀) {m : Move S L} (hm : m ∈ h) :
    Step m.pre m.label m.post ∧ (∃ h', Path Step' (view s₀) h' (view m.pre)) ∧
      ∃ h', Path Step' (view s₀) h' (view m.post) := by
  obtain ⟨hs, before, -, hpre⟩ := hp.mem_step hm
  obtain ⟨-, h₁, hpath₁, -⟩ := hpre.simulates hsim h0
  obtain ⟨-, h₂, hpath₂, -⟩ := (hpre.snoc hs).simulates hsim h0
  exact ⟨hs, ⟨h₁, hpath₁⟩, h₂, hpath₂⟩

end Trans
