import Lpt.Base.Progress
import Lpt.Base.Threads

/-!
# Threads and a mutex

Threads over a shared world take turns at a plain mutex: whoever asks for it while it is held has
to wait, and so does the thread that holds it.

* `Policy`, `guarded` — what the operations have to do with the mutex, and the operations with it.
* `balanced`, `strict` — programs that give back what they have taken, and that besides never ask
  for what they hold.
* `Exclusive` — the mutex is held by the thread that has taken it; every step keeps that.
* `Stopped.run` — the holder asks for the mutex again: this is how it stays.
* `Exclusive.exists_end` — without that, every thread can be brought to its end.
-/

namespace Effect

/-- The operation a program asks for next is one of those named. -/
def Prog.Asks {Op α : Type} {Ans : Op → Type} (q : Op → Prop) (p : Prog Op Ans α) : Prop :=
  ∃ o, p.next = some o ∧ q o

instance Prog.decidableAsks {Op α : Type} {Ans : Op → Type} (q : Op → Prop) [DecidablePred q] :
    (p : Prog Op Ans α) → Decidable (p.Asks q)
  | .ret _ => .isFalse fun ⟨_, h, _⟩ => nomatch h
  | .op o _ => decidable_of_iff (q o) ⟨fun h => ⟨o, rfl, h⟩, fun ⟨_, h, hq⟩ => by cases h; exact hq⟩

namespace Mutex

open Trans

/-! ## The mutex -/

/-- What an operation does with the mutex. -/
inductive Use where
  | take
  | give
  | neither
  deriving DecidableEq

/-- What the operations have to do with the mutex. -/
structure Policy (Op : Type) where
  use : Op → Use
  /-- This is to be done by the holder of the mutex only. -/
  inside : Op → Prop
  /-- A thread does not survive this. -/
  fatal : Op → Prop

/-- A shared world, and the thread that holds the mutex. -/
structure Guarded (T W : Type) where
  world : W
  holder : Option T

/-- Who holds the mutex after an operation of the thread `t`. -/
def Use.holder {T : Type} [DecidableEq T] (t : T) (holder : Option T) : Use → Option (Option T)
  | .take => if holder = none then some (some t) else none
  | .give => some none
  | .neither => some holder

/-- How often a thread has taken the mutex and not given it back. -/
def Use.depth (n : ℕ) : Use → ℕ
  | .take => n + 1
  | .give => n - 1
  | .neither => n

variable {T E Op : Type} {Ans : Op → Type} {I W α β : Type} [DecidableEq T] {p : Policy Op}
  {H : Handler Op Ans I W} {entry : E → Prog Op Ans Unit}

/-- What an operation of the thread `t` does. -/
def guarded (p : Policy Op) (H : Handler Op Ans I W) (t : T) : Handler Op Ans I (Guarded T W) :=
  fun o i s => ((p.use o).holder t s.holder).bind fun holder =>
    (H o i s.world).map fun r => (r.1, ⟨r.2, holder⟩)

/-- A thread that has nothing left to do begins with an entry point, or a thread goes on. -/
inductive PoolAct (T E I : Type) where
  | begins (t : T) (e : E)
  | exec (t : T) (i : I)

/-- One step of the threads. -/
def poolStep (p : Policy Op) (H : Handler Op Ans I W) (entry : E → Prog Op Ans Unit)
    (c : Threads T Op Ans (Guarded T W)) : PoolAct T E I → Option (Threads T Op Ans (Guarded T W))
  | .begins t e => c.begin t (entry e)
  | .exec t i => c.exec (guarded p H) t i

/-- One step of the threads. -/
def PoolStep (p : Policy Op) (H : Handler Op Ans I W) (entry : E → Prog Op Ans Unit)
    (c : Threads T Op Ans (Guarded T W)) (a : PoolAct T E I)
    (c' : Threads T Op Ans (Guarded T W)) : Prop :=
  poolStep p H entry c a = some c'

/-- All threads wait, and nobody holds the mutex. -/
def poolStart (w : W) : Threads T Op Ans (Guarded T W) := ⟨⟨w, none⟩, fun _ => .ret ()⟩

/-- What the thread `t` carries out in a step is one of the operations named. -/
def Does (q : Op → Prop) (m : Move (Threads T Op Ans (Guarded T W)) (PoolAct T E I)) (t : T) :
    Prop :=
  ∃ i, m.label = .exec t i ∧ (m.pre.prog t).Asks q

/-! ## Disciplines -/

/-- What is given back has been taken, and what only the holder may do is done by the holder. -/
noncomputable def balanced (p : Policy Op) : Discipline Op Ans ℕ :=
  .ofRule (fun n o => p.use o = .give ∨ p.inside o → 0 < n) fun n o _ => (p.use o).depth n

/-- And the holder does not ask for the mutex, and survives. -/
noncomputable def strict (p : Policy Op) : Discipline Op Ans ℕ :=
  .ofRule (fun n o => (p.use o = .give ∨ p.inside o → 0 < n) ∧
    (p.use o = .take ∨ p.fatal o → n = 0)) fun n o _ => (p.use o).depth n

/-- How the mutex is when the thread `t` has taken it `n` times. -/
def Holds (s : Guarded T W) (t : T) (n : ℕ) : Prop := n ≤ 1 ∧ (s.holder = some t ↔ n = 1)

/-- Every thread keeps to the discipline, and the mutex is held by the one that has taken it. -/
def Exclusive (D : Discipline Op Ans ℕ) (c : Threads T Op Ans (Guarded T W)) : Prop :=
  Threads.Disciplined D 0 Holds c

/-- The thread `t` holds the mutex and asks for it. -/
def Stopped (p : Policy Op) (c : Threads T Op Ans (Guarded T W)) (t : T) : Prop :=
  c.shared.holder = some t ∧ (c.prog t).Asks fun o => p.use o = .take

instance (c : Threads T Op Ans (Guarded T W)) (t : T) : Decidable (Stopped p c t) :=
  inferInstanceAs (Decidable (_ ∧ _))

section Steps

variable {D : Discipline Op Ans ℕ} {c c' : Threads T Op Ans (Guarded T W)} {t u : T} {o : Op}
  {i : I} {x : Ans o} {s s' : Guarded T W} {n : ℕ} {f : Ans o → ℕ}

omit [DecidableEq T] in
theorem strict_balanced (h : (strict p : Discipline Op Ans ℕ) n o = some f) :
    (balanced p : Discipline Op Ans ℕ) n o = some f := by
  obtain ⟨⟨hallows, -⟩, hf⟩ := Discipline.ofRule_eq_some.1 h
  exact Discipline.ofRule_eq_some.2 ⟨hallows, hf⟩

theorem guarded_eq (h : guarded p H t o i s = some (x, s')) :
    ∃ holder w, (p.use o).holder t s.holder = some holder ∧ H o i s.world = some (x, w) ∧
      s' = ⟨w, holder⟩ := by
  obtain ⟨holder, hholder, h⟩ := Option.bind_eq_some_iff.1 h
  obtain ⟨⟨x', w⟩, hw, heq⟩ := Option.map_eq_some_iff.1 h
  cases heq
  exact ⟨holder, w, hholder, hw, rfl⟩

omit [DecidableEq T] in
/-- What a thread that keeps to the discipline asks for is allowed. -/
theorem Exclusive.allows (hD : ∀ {n o f}, D n o = some f → (balanced p) n o = some f)
    (he : Exclusive D c) (hn : (c.prog t).next = some o) :
    p.use o = .give ∨ p.inside o → c.shared.holder = some t := by
  obtain ⟨n, hobeys, hle, hiff⟩ := he t
  intro ho
  cases hp : c.prog t with
  | ret a =>
    rw [hp] at hn
    cases hn
  | op o' k =>
    rw [hp] at hn hobeys
    cases hn
    obtain ⟨f, hf, -⟩ := hobeys
    have hpos := (Discipline.ofRule_eq_some.1 (hD hf)).1 ho
    exact hiff.2 (by omega)

/-- **Every step of a thread keeps the mutex exclusive.** -/
theorem Exclusive.exec (hD : ∀ {n o f}, D n o = some f → (balanced p) n o = some f)
    (he : Exclusive D c) (hc : c.exec (guarded p H) t i = some c') : Exclusive D c' := by
  refine Threads.Disciplined.exec he hc (fun o x s' n f hn hH hf hΦ => ?_)
    fun o x s' n u hu hn hH hΦ => ?_
  · obtain ⟨holder, w, hholder, -, rfl⟩ := guarded_eq hH
    obtain ⟨hallows, rfl⟩ := Discipline.ofRule_eq_some.1 (hD hf)
    obtain ⟨hle, hiff⟩ := hΦ
    cases huse : p.use o with
    | take =>
      rw [huse, Use.holder] at hholder
      split_ifs at hholder with hfree
      cases hholder
      have hn : n ≠ 1 := fun h => nomatch hfree.symm.trans (hiff.2 h)
      have h0 : n = 0 := by omega
      subst h0
      exact ⟨le_rfl, iff_of_true rfl rfl⟩
    | give =>
      rw [huse] at hholder
      cases hholder
      have hpos := hallows (Or.inl huse)
      obtain rfl : n = 1 := by omega
      exact ⟨Nat.zero_le _, iff_of_false nofun nofun⟩
    | neither =>
      rw [huse] at hholder
      cases hholder
      exact ⟨hle, hiff⟩
  · -- another thread, which holds the mutex afterwards exactly if it did before
    obtain ⟨holder, w, hholder, -, rfl⟩ := guarded_eq hH
    refine ⟨hΦ.1, Iff.trans ?_ hΦ.2⟩
    cases huse : p.use o with
    | take =>
      rw [huse, Use.holder] at hholder
      split_ifs at hholder with hfree
      cases hholder
      rw [hfree]
      exact iff_of_false (fun h => hu (Option.some.inj h).symm) nofun
    | give =>
      rw [huse] at hholder
      cases hholder
      rw [he.allows hD hn (Or.inl huse)]
      exact iff_of_false nofun fun h => hu (Option.some.inj h).symm
    | neither =>
      rw [huse] at hholder
      cases hholder
      exact Iff.rfl

/-- Every step keeps the mutex exclusive, if all entry points keep to the discipline. -/
theorem Exclusive.step (hD : ∀ {n o f}, D n o = some f → (balanced p) n o = some f)
    {a : PoolAct T E I} (he : Exclusive D c)
    (hentry : ∀ t e, a = .begins t e → (entry e).Obeys D 0 0)
    (hs : PoolStep p H entry c a c') : Exclusive D c' := by
  cases a with
  | begins t e => exact Threads.Disciplined.begin he (hentry t e rfl) hs
  | exec t i => exact he.exec hD hs

omit [DecidableEq T] in
theorem poolStart_exclusive (w : W) : Exclusive D (poolStart w : Threads T Op Ans (Guarded T W)) :=
  fun _ => ⟨0, rfl, Nat.zero_le _, iff_of_false nofun nofun⟩

/-! ## A thread that waits for itself -/

/-- **Nothing changes that.**  Whoever goes on does nothing with the mutex, and nothing that only
its holder may do. -/
theorem Stopped.exec (he : Exclusive (balanced p) c) (hs : Stopped p c t)
    (hc : c.exec (guarded p H) u i = some c') :
    (c.prog u).Asks (fun o => p.use o = .neither ∧ ¬ p.inside o) ∧ Stopped p c' t ∧
      ∀ v, v ≠ u → c'.prog v = c.prog v := by
  obtain ⟨o, k, x, s', hp, hH, rfl⟩ := Threads.exec_eq hc
  obtain ⟨holder, w, hholder, -, rfl⟩ := guarded_eq hH
  have hnext : (c.prog u).next = some o := by
    rw [hp]
    rfl
  obtain ⟨hheld, o', hnext', htake⟩ := hs
  have hut : t ≠ u := by
    rintro rfl
    obtain rfl : o = o' := Option.some.inj (hnext.symm.trans hnext')
    rw [htake, Use.holder, if_neg (by rw [hheld]; exact nofun)] at hholder
    cases hholder
  -- the other thread is not the holder
  have hno : ¬ (p.use o = .give ∨ p.inside o) := fun h => by
    have h' := he.allows id hnext h
    exact hut (Option.some.inj (hheld.symm.trans h'))
  have huse : p.use o = .neither := by
    cases huse : p.use o with
    | take =>
      rw [huse, Use.holder, if_neg (by rw [hheld]; exact nofun)] at hholder
      cases hholder
    | give => exact absurd (Or.inl huse) hno
    | neither => rfl
  rw [huse] at hholder
  cases hholder
  refine ⟨⟨o, hnext, huse, fun h => hno (Or.inr h)⟩, ⟨hheld, o', ?_, htake⟩, fun v hv => ?_⟩
  · simpa only [Function.update_of_ne hut] using hnext'
  · exact Function.update_of_ne hv ..

/-- A thread begins only when it has nothing left to do. -/
theorem Stopped.begin {q : Prog Op Ans Unit} (hs : Stopped p c t) (hc : c.begin u q = some c') :
    Stopped p c' t ∧ ∀ v, (c.prog v).Asks (fun o => p.use o = .take) → c'.prog v = c.prog v := by
  have hprog : ∀ v, (c.prog v).Asks (fun o => p.use o = .take) → c'.prog v = c.prog v := by
    rintro v ⟨o, hnext, -⟩
    unfold Threads.begin at hc
    split at hc
    · rename_i hret
      cases hc
      refine Function.update_of_ne ?_ ..
      rintro rfl
      rw [hret] at hnext
      cases hnext
    · cases hc
  obtain ⟨hheld, htake⟩ := hs
  refine ⟨⟨?_, ?_⟩, hprog⟩
  · rw [Threads.begin_shared hc]
    exact hheld
  · rw [hprog t htake]
    exact htake

/-- A thread that asks for the mutex while it is held does not go on. -/
theorem exec_take (hheld : c.shared.holder ≠ none) (hp : (c.prog t).Asks fun o => p.use o = .take) :
    c.exec (guarded p H) t i = none := by
  by_contra hne
  obtain ⟨c', hc⟩ := Option.ne_none_iff_exists'.1 hne
  obtain ⟨o, k, x, s', hprog, hH, -⟩ := Threads.exec_eq hc
  obtain ⟨holder, w, hholder, -, -⟩ := guarded_eq hH
  obtain ⟨o', hnext, htake⟩ := hp
  rw [hprog] at hnext
  cases hnext
  rw [htake, Use.holder, if_neg hheld] at hholder
  cases hholder

/-- **And so it stays.** -/
theorem Stopped.run {h : List (Move (Threads T Op Ans (Guarded T W)) (PoolAct T E I))}
    (hentry : ∀ e, (entry e).Obeys (balanced p) 0 0) (he : Exclusive (balanced p) c)
    (hs : Stopped p c t) (hp : Path (PoolStep p H entry) c h c') :
    Stopped p c' t ∧
      (∀ m ∈ h, ∀ u, ¬ Does (fun o => p.use o ≠ .neither ∨ p.inside o) m u) ∧
      ∀ u, (c.prog u).Asks (fun o => p.use o = .take) → c'.prog u = c.prog u := by
  have hall : (Exclusive (balanced p) c' ∧ Stopped p c' t) ∧
      (∀ m ∈ h, ∀ u, ¬ Does (fun o => p.use o ≠ .neither ∨ p.inside o) m u) ∧
      ∀ u, (c.prog u).Asks (fun o => p.use o = .take) → c'.prog u = c.prog u := by
    induction hp with
    | start => exact ⟨⟨he, hs⟩, nofun, fun _ _ => rfl⟩
    | @snoc h c₁ c₂ a _ hstep ih =>
      obtain ⟨⟨he₁, hs₁⟩, hdoes, hsame⟩ := ih
      have he₂ := he₁.step id (fun _ e _ => hentry e) hstep
      cases a with
      | begins v e =>
        obtain ⟨hs₂, hprog⟩ := hs₁.begin hstep
        refine ⟨⟨he₂, hs₂⟩, List.forall_mem_cons.2 ⟨fun u => ?_, hdoes⟩, fun u hu => ?_⟩
        · rintro ⟨i, hl, -⟩
          exact nomatch (show PoolAct.begins v e = .exec u i from hl)
        · have hu₁ := hsame u hu
          rw [hprog u (hu₁.symm ▸ hu), hu₁]
      | exec v i =>
        obtain ⟨hasks, hs₂, hother⟩ := hs₁.exec he₁ hstep
        refine ⟨⟨he₂, hs₂⟩, List.forall_mem_cons.2 ⟨fun u => ?_, hdoes⟩, fun u hu => ?_⟩
        · rintro ⟨i', hl, o, hnext, ho⟩
          obtain ⟨rfl, -⟩ := PoolAct.exec.inj hl
          obtain ⟨o', hnext', huse, hno⟩ := hasks
          obtain rfl : o = o' := Option.some.inj (hnext.symm.trans hnext')
          exact ho.elim (fun h => h huse) hno
        · have hu₁ := hsame u hu
          rw [hother u ?_, hu₁]
          rintro rfl
          have hheld : c₁.shared.holder ≠ none := by
            rw [hs₁.1]
            exact nofun
          exact nomatch (exec_take hheld (hu₁.symm ▸ hu)).symm.trans hstep
  exact ⟨hall.1.2, hall.2⟩

end Steps

/-! ## Coming to an end -/

/-- The thread has returned, or it is at an operation that it does not survive. -/
def Ended (p : Policy Op) (q : Prog Op Ans α) : Prop := q.next = none ∨ q.Asks p.fatal

/-- Whatever a thread survives can be done, in any world. -/
def Total (p : Policy Op) (H : Handler Op Ans I W) : Prop :=
  ∀ o w, ¬ p.fatal o → ∃ i x w', H o i w = some (x, w')

section Ends

variable {c : Threads T Op Ans (Guarded T W)} {t : T} {n : ℕ}

/-- The mutex after an operation of a thread that does not have to wait. -/
theorem exists_holder {o : Op} {f : Ans o → ℕ} {s : Guarded T W} (w : W)
    (hf : strict p n o = some f) (hholds : Holds s t n)
    (hfree : s.holder = none ∨ s.holder = some t) :
    ∃ holder, (p.use o).holder t s.holder = some holder ∧
      (∀ x, Holds (⟨w, holder⟩ : Guarded T W) t (f x)) ∧ (holder = none ∨ holder = some t) := by
  obtain ⟨⟨hinside, htake⟩, rfl⟩ := Discipline.ofRule_eq_some.1 hf
  obtain ⟨hle, hiff⟩ := hholds
  cases huse : p.use o with
  | take =>
    obtain rfl := htake (Or.inl huse)
    have hnone : s.holder = none := hfree.resolve_right fun h => nomatch hiff.1 h
    refine ⟨some t, ?_, fun _ => ⟨le_rfl, iff_of_true rfl rfl⟩, Or.inr rfl⟩
    rw [hnone]
    rfl
  | give =>
    have hpos := hinside (Or.inl huse)
    obtain rfl : n = 1 := by omega
    exact ⟨none, rfl, fun _ => ⟨Nat.zero_le _, iff_of_false nofun nofun⟩, Or.inl rfl⟩
  | neither => exact ⟨s.holder, rfl, fun _ => ⟨hle, hiff⟩, hfree⟩

/-- **A thread that does not have to wait** can be brought to its end, and nobody holds the mutex
then. -/
theorem exists_end (entry : E → Prog Op Ans Unit) (htotal : Total p H)
    (hobeys : (c.prog t).Obeys (strict p) n 0) (hholds : Holds c.shared t n)
    (hfree : c.shared.holder = none ∨ c.shared.holder = some t) :
    ∃ h c', Path (PoolStep p H entry) c h c' ∧ Ended p (c'.prog t) ∧ c'.shared.holder = none ∧
      (∀ u, u ≠ t → c'.prog u = c.prog u) ∧ ∀ m ∈ h, ∃ i, m.label = .exec t i := by
  generalize hq : c.prog t = q at hobeys
  induction q generalizing c n with
  | ret a =>
    have h0 : n = 0 := hobeys
    have hne : c.shared.holder ≠ some t := by
      rw [ne_eq, hholds.2, h0]
      exact Nat.zero_ne_one
    refine ⟨[], c, .start, Or.inl ?_, hfree.resolve_right hne, fun _ _ => rfl, nofun⟩
    rw [hq]
    rfl
  | op o k ih =>
    obtain ⟨f, hf, hk⟩ := hobeys
    by_cases ho : p.fatal o
    · obtain rfl := (Discipline.ofRule_eq_some.1 hf).1.2 (Or.inr ho)
      have hne : c.shared.holder ≠ some t := fun h => nomatch hholds.2.1 h
      refine ⟨[], c, .start, Or.inr ⟨o, ?_, ho⟩, hfree.resolve_right hne, fun _ _ => rfl, nofun⟩
      rw [hq]
      rfl
    obtain ⟨i, x, w', hH⟩ := htotal o c.shared.world ho
    obtain ⟨holder, hholder, hholds', hfree'⟩ := exists_holder w' hf hholds hfree
    have hstep : PoolStep p H entry c (.exec t i)
        ⟨⟨w', holder⟩, Function.update c.prog t (k x)⟩ := by
      show Threads.exec _ _ _ _ = _
      unfold Threads.exec
      simp only [hq, guarded, hholder, hH, Option.bind_some, Option.map_some]
    obtain ⟨h, c', hp, hend, hnone, hother, hlabel⟩ :=
      ih x (c := ⟨⟨w', holder⟩, Function.update c.prog t (k x)⟩) (hholds' x) hfree'
        (Function.update_self ..) (hk x)
    refine ⟨_, c', (Path.start.snoc hstep).append hp, hend, hnone, fun u hu => ?_, fun m hm => ?_⟩
    · rw [hother u hu]
      exact Function.update_of_ne hu ..
    · rcases List.mem_append.1 hm with hm | hm
      · exact hlabel m hm
      · rw [List.mem_singleton.1 hm]
        exact ⟨i, rfl⟩

/-- **No deadlock.**  Every thread can be brought to its end, if all keep to the strict
discipline: at most the holder of the mutex has to go on before. -/
theorem Exclusive.exists_end (htotal : Total p H) (he : Exclusive (strict p) c) (t : T) :
    ∃ h c', Path (PoolStep p H entry) c h c' ∧ Ended p (c'.prog t) ∧ c'.shared.holder = none ∧
      ∀ m ∈ h, ∃ u i, m.label = .exec u i ∧ (u = t ∨ c.shared.holder = some u) := by
  obtain ⟨n, hobeys, hholds⟩ := he t
  by_cases hfree : c.shared.holder = none ∨ c.shared.holder = some t
  · obtain ⟨h, c', hp, hend, hnone, -, hlabel⟩ :=
      Mutex.exists_end entry htotal hobeys hholds hfree
    refine ⟨h, c', hp, hend, hnone, fun m hm => ?_⟩
    obtain ⟨i, hl⟩ := hlabel m hm
    exact ⟨t, i, hl, Or.inl rfl⟩
  · obtain ⟨hne, hnt⟩ := not_or.1 hfree
    obtain ⟨u, hu⟩ := Option.ne_none_iff_exists'.1 hne
    have hut : t ≠ u := by
      rintro rfl
      exact hnt hu
    -- the holder goes first
    obtain ⟨n', hobeys', hholds'⟩ := he u
    obtain ⟨h₁, c₁, hp₁, -, hnone₁, hother, hlabel₁⟩ :=
      Mutex.exists_end entry htotal hobeys' hholds' (Or.inr hu)
    rw [← hother t hut] at hobeys
    have hholds₁ : Holds c₁.shared t n := by
      refine ⟨hholds.1, iff_of_false (by rw [hnone₁]; exact nofun) fun h => hnt (hholds.2.2 h)⟩
    obtain ⟨h₂, c₂, hp₂, hend, hnone, -, hlabel₂⟩ :=
      Mutex.exists_end entry htotal hobeys hholds₁ (Or.inl hnone₁)
    refine ⟨_, c₂, hp₁.append hp₂, hend, hnone, fun m hm => ?_⟩
    rcases List.mem_append.1 hm with hm | hm
    · obtain ⟨i, hl⟩ := hlabel₂ m hm
      exact ⟨t, i, hl, Or.inl rfl⟩
    · obtain ⟨i, hl⟩ := hlabel₁ m hm
      exact ⟨u, i, hl, Or.inr hu⟩

end Ends

end Mutex

end Effect
