import Lpt.Base.Transition

/-!
# Loops that are left by `break`

A server is a loop whose body may decide to leave it; behind the loop the resources are
given back.  Each round gets one input.

* `Loop` — inside the loop, or behind it.
* `LoopStep` — one round, and what is behind the loop as soon as it is left.
* `LoopStep.last` — a round that leaves the loop is the last one.
* `stops_iff` — every round of a run that reports something is the last and gives the
  resources back, exactly if every such round leaves the loop.
-/

namespace Trans

variable {S I : Type}

/-- Where a loop is, with the state it has. -/
inductive Loop (S : Type) where
  /-- At the beginning of a round. -/
  | inside (s : S)
  /-- Behind the loop. -/
  | behind (s : S)

namespace Loop

/-- The state. -/
def state : Loop S → S
  | .inside s => s
  | .behind s => s

/-- The loop has been left. -/
def Left : Loop S → Prop
  | .inside _ => False
  | .behind _ => True

@[simp] theorem state_inside (s : S) : (inside s).state = s := rfl
@[simp] theorem state_behind (s : S) : (behind s).state = s := rfl
@[simp] theorem left_inside (s : S) : ¬ (inside s).Left := fun h => h
@[simp] theorem left_behind (s : S) : (behind s).Left := trivial

instance (s : Loop S) : Decidable s.Left :=
  match s with
  | .inside _ => .isFalse fun h => h
  | .behind _ => .isTrue trivial

end Loop

/-- The loop with this body, which says whether the loop goes on, and `after` behind it.
An input for which the body has no result is not possible. -/
def loopStep (body : S → I → Option (Bool × S)) (after : S → S) : Loop S → I → Option (Loop S)
  | .inside s, i => (body s i).map fun r => if r.1 = true then .inside r.2 else .behind (after r.2)
  | .behind _, _ => none

/-- One round. -/
def LoopStep (body : S → I → Option (Bool × S)) (after : S → S) (s : Loop S) (i : I)
    (s' : Loop S) : Prop :=
  loopStep body after s i = some s'

section Lemmas

variable {body : S → I → Option (Bool × S)} {after : S → S} {s₀ s s' : Loop S} {i : I}
  {h later earlier : List (Move (Loop S) I)} {m : Move (Loop S) I}

/-- **What a round is.** -/
theorem LoopStep.cases (hs : LoopStep body after s i s') :
    ∃ t go t', s = .inside t ∧ body t i = some (go, t') ∧
      s' = if go = true then .inside t' else .behind (after t') := by
  unfold LoopStep at hs
  cases s with
  | inside t =>
    obtain ⟨⟨go, t'⟩, hbody, heq⟩ := Option.map_eq_some_iff.1 hs
    exact ⟨t, go, t', rfl, hbody, heq.symm⟩
  | behind t => cases hs

/-- A round with which the loop goes on. -/
theorem LoopStep.goesOn {t t' : S} (h : body t i = some (true, t')) :
    LoopStep body after (.inside t) i (.inside t') :=
  Option.map_eq_some_iff.2 ⟨(true, t'), h, rfl⟩

/-- A round with which it is left. -/
theorem LoopStep.leaves {t t' : S} (h : body t i = some (false, t')) :
    LoopStep body after (.inside t) i (.behind (after t')) :=
  Option.map_eq_some_iff.2 ⟨(false, t'), h, rfl⟩

/-- **A round that leaves the loop is the last one.** -/
theorem LoopStep.last (hp : Path (LoopStep body after) s₀ (later ++ m :: earlier) s)
    (hm : m.post.Left) : later = [] ∧ s = m.post := by
  induction later generalizing s with
  | nil =>
    cases hp with
    | snoc _ _ => exact ⟨rfl, rfl⟩
  | cons m' later ih =>
    cases hp with
    | snoc hp hs =>
      -- the round before has not left the loop either
      obtain ⟨hnil, heq⟩ := ih hp
      obtain ⟨t, _, _, hinside, -, -⟩ := hs.cases
      rw [← heq, hinside] at hm
      exact absurd hm (Loop.left_inside t)

/-- **Every report stops the loop** exactly if every round that makes one leaves the loop.
`Done` says that the resources have been given back, which only `after` does, and `Quiet`
what may still come. -/
theorem stops_iff (Reports : Move (Loop S) I → Prop) (Done : S → Prop)
    (Quiet : List (Move (Loop S) I) → Prop) (hq : Quiet []) (hafter : ∀ t, Done (after t))
    (hbody : ∀ {t i go t'}, body t i = some (go, t') → ¬ Done t → ¬ Done t')
    (h0 : ¬ Done s₀.state) (hp : Path (LoopStep body after) s₀ h s) :
    (∀ later m earlier, h = later ++ m :: earlier → Reports m →
      Quiet later ∧ Done m.post.state) ↔ ∀ m ∈ h, Reports m → m.post.Left := by
  have hopen : ∀ {h : List (Move (Loop S) I)} {s : Loop S},
      Path (LoopStep body after) s₀ h s → ¬ s.Left → ¬ Done s.state := by
    intro h s hp
    induction hp with
    | start => exact fun _ => h0
    | snoc _ hs ih =>
      obtain ⟨t, go, t', rfl, hb, rfl⟩ := hs.cases
      intro hin
      cases go with
      | true => exact hbody hb (ih (Loop.left_inside t))
      | false => exact absurd (Loop.left_behind _) hin
  constructor
  · intro hlaw m hm hrep
    obtain ⟨later, earlier, rfl⟩ := List.append_of_mem hm
    obtain ⟨hearlier, hstep⟩ := hp.split
    by_contra hin
    exact hopen (hearlier.snoc hstep) hin (hlaw later m earlier rfl hrep).2
  · intro hleave later m earlier heq hrep
    subst heq
    have hleft := hleave m (List.mem_append_right _ (List.mem_cons_self ..)) hrep
    obtain ⟨rfl, rfl⟩ := LoopStep.last hp hleft
    refine ⟨hq, ?_⟩
    obtain ⟨t, go, t', -, -, hpost⟩ := hp.split.2.cases
    rw [hpost] at hleft ⊢
    cases go with
    | true => exact absurd hleft (Loop.left_inside t')
    | false => exact hafter t'

end Lemmas

end Trans
