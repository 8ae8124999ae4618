import Lpt.Base.Program

/-!
# Threads over a shared world, and the disciplines they keep

A discipline is an automaton over operations: in each of its states an operation is
forbidden, or allowed with a next state that depends on the answer.  Whether a program
keeps to a discipline can be read off its text (`Obeys`); what the state of the
discipline means for the world is a different matter, and is what an interleaving can
destroy.

* `Discipline.ofRule` — a discipline given by what it allows.
* `Prog.Obeys` — the program keeps to the discipline, with the rules for sequences.
* `Threads` — programs that run over one shared world, one operation at a time.
* `Disciplined` — every thread is in some state of the discipline, and `Φ` holds of the
  shared world and that state.  `Disciplined.exec` reduces its preservation to single
  operations: what the operation does for its own thread and for each other one.
* `DisciplinedBy` — the same with a discipline for each thread.
-/

namespace Effect

/-- A discipline with the states `S`. -/
abbrev Discipline (Op : Type) (Ans : Op → Type) (S : Type) : Type :=
  S → (o : Op) → Option (Ans o → S)

open Classical in
/-- The discipline that allows the operations named, and goes on as `next` says. -/
noncomputable def Discipline.ofRule {Op : Type} {Ans : Op → Type} {S : Type}
    (allows : S → Op → Prop) (next : S → (o : Op) → Ans o → S) : Discipline Op Ans S :=
  fun s o => if allows s o then some (next s o) else none

theorem Discipline.ofRule_eq_some {Op : Type} {Ans : Op → Type} {S : Type}
    {allows : S → Op → Prop} {next : S → (o : Op) → Ans o → S} {s : S} {o : Op} {f : Ans o → S} :
    Discipline.ofRule allows next s o = some f ↔ allows s o ∧ next s o = f := by
  unfold Discipline.ofRule
  by_cases h : allows s o
  · rw [if_pos h, Option.some.injEq, and_iff_right h]
  · rw [if_neg h]
    exact ⟨nofun, fun hf => absurd hf.1 h⟩

namespace Prog

variable {Op : Type} {Ans : Op → Type} {S α β : Type} {D : Discipline Op Ans S} {s u t : S}

/-- The operation a program asks for next. -/
def next : Prog Op Ans α → Option Op
  | .ret _ => none
  | .op o _ => some o

/-- Started in the state `s` of the discipline, the program asks only for what is
allowed, and it is in the state `t` when it returns. -/
def Obeys (D : Discipline Op Ans S) : Prog Op Ans α → S → S → Prop
  | .ret _, s, t => s = t
  | .op o k, s, t => ∃ f, D s o = some f ∧ ∀ x, (k x).Obeys D (f x) t

/-- **The rule for sequences.** -/
theorem Obeys.bind {p : Prog Op Ans α} {q : α → Prog Op Ans β} (hp : p.Obeys D s u)
    (hq : ∀ a, (q a).Obeys D u t) : (p >>= q).Obeys D s t := by
  induction p generalizing s with
  | ret a =>
    have hs : s = u := hp
    rw [hs]
    exact hq a
  | op o k ih =>
    obtain ⟨f, hf, hk⟩ := hp
    exact ⟨f, hf, fun x => ih x (hk x)⟩

theorem Obeys.ite {c : Prop} [Decidable c] {p q : Prog Op Ans α} (hp : c → p.Obeys D s t)
    (hq : ¬ c → q.Obeys D s t) : (if c then p else q).Obeys D s t := by
  by_cases hc : c
  · rw [if_pos hc]
    exact hp hc
  · rw [if_neg hc]
    exact hq hc

end Prog

/-! ## Interleaving -/

/-- Threads `T` over a shared world: what each of them has still to do. -/
structure Threads (T Op : Type) (Ans : Op → Type) (W : Type) where
  shared : W
  prog : T → Prog Op Ans Unit

namespace Threads

variable {T Op : Type} {Ans : Op → Type} {I W S : Type} [DecidableEq T]
  {H : T → Handler Op Ans I W} {c c' : Threads T Op Ans W} {t : T}

/-- The thread `t` carries out its next operation. -/
def exec (H : T → Handler Op Ans I W) (c : Threads T Op Ans W) (t : T) (i : I) :
    Option (Threads T Op Ans W) :=
  match c.prog t with
  | .ret _ => none
  | .op o k => (H t o i c.shared).map fun r => ⟨r.2, Function.update c.prog t (k r.1)⟩

/-- The thread `t`, which has nothing left to do, goes on with `p`. -/
def begin (c : Threads T Op Ans W) (t : T) (p : Prog Op Ans Unit) : Option (Threads T Op Ans W) :=
  match c.prog t with
  | .ret _ => some ⟨c.shared, Function.update c.prog t p⟩
  | .op _ _ => none

/-- The world changes without any thread. -/
def act (c : Threads T Op Ans W) (w : W) : Threads T Op Ans W := ⟨w, c.prog⟩

/-- What a step of a thread is made of. -/
theorem exec_eq {i : I} (h : c.exec H t i = some c') :
    ∃ o k x w, c.prog t = .op o k ∧ H t o i c.shared = some (x, w) ∧
      c' = ⟨w, Function.update c.prog t (k x)⟩ := by
  unfold exec at h
  split at h
  · cases h
  · rename_i o k hp
    obtain ⟨⟨x, w⟩, hx, rfl⟩ := Option.map_eq_some_iff.1 h
    exact ⟨o, k, x, w, hp, hx, rfl⟩

/-! ### A discipline for each thread -/

section Each

variable {D : T → Discipline Op Ans S} {idle : T → S} {Φ : W → T → S → Prop}

/-- Every thread is in some state of its discipline that will bring it back to `idle`, and
the shared world is as `Φ` says for that state. -/
def DisciplinedBy (D : T → Discipline Op Ans S) (idle : T → S) (Φ : W → T → S → Prop)
    (c : Threads T Op Ans W) : Prop :=
  ∀ t, ∃ s, (c.prog t).Obeys (D t) s (idle t) ∧ Φ c.shared t s

/-- **One operation of one thread.**  The disciplines are kept if the operation brings its
own thread to the state that its discipline names, and takes nothing from the others. -/
theorem DisciplinedBy.exec {i : I} (h : DisciplinedBy D idle Φ c) (he : c.exec H t i = some c')
    (hown : ∀ o x w s f, (c.prog t).next = some o → H t o i c.shared = some (x, w) →
      D t s o = some f → Φ c.shared t s → Φ w t (f x))
    (hother : ∀ o x w u f s t', t' ≠ t → (c.prog t).next = some o →
      H t o i c.shared = some (x, w) → D t u o = some f → Φ c.shared t' s → Φ w t' s) :
    DisciplinedBy D idle Φ c' := by
  obtain ⟨o, k, x, w, hp, hx, rfl⟩ := exec_eq he
  have hnext : (c.prog t).next = some o := by rw [hp]; rfl
  obtain ⟨u, hu, hΦu⟩ := h t
  rw [hp] at hu
  obtain ⟨f, hf, hk⟩ := hu
  intro t'
  by_cases ht : t' = t
  · subst ht
    refine ⟨f x, ?_, hown o x w u f hnext hx hf hΦu⟩
    simpa only [Function.update_self] using hk x
  · obtain ⟨s, hs, hΦ⟩ := h t'
    refine ⟨s, ?_, hother o x w u f s t' ht hnext hx hf hΦ⟩
    simpa only [Function.update_of_ne ht] using hs

/-- A thread that has returned is idle, and may go on with any program that keeps to its
discipline. -/
theorem DisciplinedBy.begin {p : Prog Op Ans Unit} (h : DisciplinedBy D idle Φ c)
    (hp : p.Obeys (D t) (idle t) (idle t)) (hb : c.begin t p = some c') :
    DisciplinedBy D idle Φ c' := by
  unfold Threads.begin at hb
  split at hb
  · rename_i a ha
    cases hb
    intro t'
    obtain ⟨s, hs, hΦ⟩ := h t'
    by_cases ht : t' = t
    · subst ht
      rw [ha] at hs
      have hidle : s = idle t' := hs
      refine ⟨idle t', ?_, hidle ▸ hΦ⟩
      simpa only [Function.update_self] using hp
    · refine ⟨s, ?_, hΦ⟩
      simpa only [Function.update_of_ne ht] using hs
  · cases hb

/-- Beginning a program leaves the shared world as it is. -/
theorem begin_shared {p : Prog Op Ans Unit} (hb : c.begin t p = some c') :
    c'.shared = c.shared := by
  unfold Threads.begin at hb
  split at hb
  · cases hb
    rfl
  · cases hb

end Each

/-! ### One discipline for all -/

variable {D : Discipline Op Ans S} {idle : S} {Φ : W → T → S → Prop}

/-- Every thread is in some state of the discipline that will bring it back to `idle`,
and the shared world is as `Φ` says for that state. -/
def Disciplined (D : Discipline Op Ans S) (idle : S) (Φ : W → T → S → Prop)
    (c : Threads T Op Ans W) : Prop :=
  ∀ t, ∃ s, (c.prog t).Obeys D s idle ∧ Φ c.shared t s

theorem Disciplined.exec {i : I} (h : Disciplined D idle Φ c) (he : c.exec H t i = some c')
    (hown : ∀ o x w s f, (c.prog t).next = some o → H t o i c.shared = some (x, w) →
      D s o = some f → Φ c.shared t s → Φ w t (f x))
    (hother : ∀ o x w s t', t' ≠ t → (c.prog t).next = some o →
      H t o i c.shared = some (x, w) → Φ c.shared t' s → Φ w t' s) :
    Disciplined D idle Φ c' :=
  DisciplinedBy.exec (D := fun _ => D) h he hown
    fun o x w _ _ s t' ht hn hH _ hΦ => hother o x w s t' ht hn hH hΦ

theorem Disciplined.begin {p : Prog Op Ans Unit} (h : Disciplined D idle Φ c)
    (hp : p.Obeys D idle idle) (hb : c.begin t p = some c') : Disciplined D idle Φ c' :=
  DisciplinedBy.begin (D := fun _ => D) h hp hb

omit [DecidableEq T] in
theorem Disciplined.act {w : W} (h : Disciplined D idle Φ c)
    (hw : ∀ t s, Φ c.shared t s → Φ w t s) : Disciplined D idle Φ (c.act w) := by
  intro t
  obtain ⟨s, hs, hΦ⟩ := h t
  exact ⟨s, hs, hw t s hΦ⟩

end Threads

end Effect
