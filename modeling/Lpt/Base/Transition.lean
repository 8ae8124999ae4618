import Mathlib

/-!
# Labelled transition systems and their runs

A run is kept with its whole history, newest step first, because several of the
laws proved with this file speak about earlier steps of the run and not only
about the state reached.

* `Path` — a run from a fixed state, with its history.
* `Path.invariant` — what holds at the start and is kept by every step holds
  in every state reached; `Path.invariant_of` is the same for a run whose steps
  all meet a side condition.
* `Path.split` — a run is cut at any of its steps.
* `Path.forall_iff` — a law and a condition that single steps relate.
* `replay` — a run taken from a script.
* `Path.monitor` — a monitor fed with the steps of a run agrees with any view
  of the state that is updated in step with it.
-/

namespace Trans

variable {S L G : Type}

/-- One step of a run: the state before, the label and the state after. -/
structure Move (S L : Type) where
  /-- The state before the step. -/
  pre : S
  /-- What was done. -/
  label : L
  /-- The state after the step. -/
  post : S

/-- `Path Step s₀ h s`: a run from `s₀` to `s` whose steps are `h`, newest first. -/
inductive Path (Step : S → L → S → Prop) (s₀ : S) : List (Move S L) → S → Prop
  | start : Path Step s₀ [] s₀
  | snoc {h : List (Move S L)} {s s' : S} {l : L} :
      Path Step s₀ h s → Step s l s' → Path Step s₀ (⟨s, l, s'⟩ :: h) s'

variable {Step : S → L → S → Prop} {s₀ s : S} {h : List (Move S L)}

/-- **The invariant rule.** -/
theorem Path.invariant (hp : Path Step s₀ h s) (Inv : S → Prop) (h0 : Inv s₀)
    (hstep : ∀ s l s', Inv s → Step s l s' → Inv s') : Inv s := by
  induction hp with
  | start => exact h0
  | snoc _ hs ih => exact hstep _ _ _ ih hs

/-- The invariant rule for a run whose steps all meet the condition `C`. -/
theorem Path.invariant_of (hp : Path Step s₀ h s) (Inv : S → Prop) {C : Move S L → Prop}
    (hC : ∀ m ∈ h, C m) (h0 : Inv s₀)
    (hstep : ∀ s l s', Inv s → C ⟨s, l, s'⟩ → Step s l s' → Inv s') : Inv s := by
  induction hp with
  | start => exact h0
  | snoc _ hs ih =>
    exact hstep _ _ _ (ih fun m hm => hC m (List.mem_cons_of_mem _ hm))
      (hC _ (List.mem_cons_self ..)) hs

/-- A run is cut at any of its steps: the steps before are a run, and the step is one
of the system. -/
theorem Path.split {later earlier : List (Move S L)} {m : Move S L}
    (hp : Path Step s₀ (later ++ m :: earlier) s) :
    Path Step s₀ earlier m.pre ∧ Step m.pre m.label m.post := by
  induction later generalizing s with
  | nil =>
    cases hp with
    | snoc hp hs => exact ⟨hp, hs⟩
  | cons m' later ih =>
    cases hp with
    | snoc hp _ => exact ih hp

/-- Every step of a run is a step of the system, taken in a state that an earlier
part of the run reaches. -/
theorem Path.mem_step (hp : Path Step s₀ h s) {m : Move S L} (hm : m ∈ h) :
    Step m.pre m.label m.post ∧ ∃ h', m :: h' <:+ h ∧ Path Step s₀ h' m.pre := by
  obtain ⟨later, earlier, rfl⟩ := List.append_of_mem hm
  exact ⟨hp.split.2, earlier, List.suffix_append _ _, hp.split.1⟩

/-- **The first bad step.**  If every step from a state with `Inv` meets the law exactly if
it meets the condition `C`, and leads to a state with `Inv` then, a run meets the law in
all its steps exactly if it meets the condition in all of them. -/
theorem Path.forall_iff {Law C : Move S L → Prop} (hp : Path Step s₀ h s) (Inv : S → Prop)
    (h0 : Inv s₀) (hstep : ∀ m ∈ h, Step m.pre m.label m.post → Inv m.pre →
      (Law m ↔ C m) ∧ (C m → Inv m.post)) :
    (∀ m ∈ h, Law m) ↔ ∀ m ∈ h, C m := by
  have hboth : ((∀ m ∈ h, Law m) ↔ ∀ m ∈ h, C m) ∧ ((∀ m ∈ h, C m) → Inv s) := by
    induction hp with
    | start =>
      refine ⟨?_, fun _ => h0⟩
      simp only [List.not_mem_nil, false_implies, implies_true]
    | snoc hp hs ih =>
      simp only [List.forall_mem_cons] at hstep ⊢
      obtain ⟨hiff, hlast⟩ := ih hstep.2
      refine ⟨⟨fun ⟨hk, hks⟩ => ?_, fun ⟨hc, hcs⟩ => ?_⟩, fun ⟨hc, hcs⟩ => ?_⟩
      · have hcs := hiff.1 hks
        exact ⟨(hstep.1 hs (hlast hcs)).1.1 hk, hcs⟩
      · exact ⟨(hstep.1 hs (hlast hcs)).1.2 hc, hiff.2 hcs⟩
      · exact (hstep.1 hs (hlast hcs)).2 hc
  exact hboth.1

/-! ## Runs against a script -/

/-- Take the steps with the labels `ls`, one after the other; `h` are the steps so far. -/
def replay (step : S → L → Option S) : S → List L → List (Move S L) → Option (List (Move S L) × S)
  | s, [], h => some (h, s)
  | s, l :: ls, h => (step s l).bind fun s' => replay step s' ls (⟨s, l, s'⟩ :: h)

/-- What a script shows is a run. -/
theorem replay_path {step : S → L → Option S} (hstep : ∀ s l s', step s l = some s' → Step s l s')
    {ls : List L} {h' : List (Move S L)} {s' : S} (hp : Path Step s₀ h s)
    (hr : replay step s ls h = some (h', s')) : Path Step s₀ h' s' := by
  induction ls generalizing s h with
  | nil =>
    cases hr
    exact hp
  | cons l ls ih =>
    obtain ⟨s₁, hs, hrest⟩ := Option.bind_eq_some_iff.1 hr
    exact ih (hp.snoc (hstep _ _ _ hs)) hrest

/-- A script that shows a run with the property `Q`. -/
theorem exists_replay {step : S → L → Option S}
    (hstep : ∀ s l s', step s l = some s' → Step s l s') (ls : List L)
    (Q : List (Move S L) × S → Prop) [DecidablePred Q]
    (hq : (replay step s₀ ls []).any (fun r => decide (Q r)) = true) :
    ∃ h s, Path Step s₀ h s ∧ Q (h, s) := by
  cases hr : replay step s₀ ls [] with
  | none =>
    rw [hr] at hq
    cases hq
  | some r =>
    rw [hr] at hq
    exact ⟨r.1, r.2, replay_path hstep .start hr, of_decide_eq_true hq⟩

/-! ## Monitors -/

/-- A monitor reads the steps of a run, oldest first, and keeps a verdict. -/
def monitor (next : G → Move S L → G) (g₀ : G) : List (Move S L) → G
  | [] => g₀
  | m :: h => next (monitor next g₀ h) m

/-- A monitor agrees with a view of the state as soon as every step changes the
view in the way the monitor computes. -/
theorem Path.monitor {next : G → Move S L → G} (hp : Path Step s₀ h s) (view : S → G)
    (Inv : S → Prop) (h0 : Inv s₀)
    (hstep : ∀ s l s', Inv s → Step s l s' → Inv s')
    (hview : ∀ s l s', Inv s → Step s l s' → view s' = next (view s) ⟨s, l, s'⟩) :
    Trans.monitor next (view s₀) h = view s := by
  induction hp with
  | start => rfl
  | snoc hp hs ih =>
    rw [Trans.monitor, ih]
    exact (hview _ _ _ (hp.invariant Inv h0 hstep) hs).symm

end Trans
