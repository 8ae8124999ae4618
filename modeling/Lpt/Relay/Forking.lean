import Lpt.Relay.Accept

/-!
# Who serves a connection

The comparison `(pid == fork()) == 0` sends everyone to work who does not find the value of
`pid` in the result of `fork`.  `pid` has some value, and the same one in all processes; and a
worker that returns goes back to `accept`, in whatever process it has been.  In the run of any
number of processes this is the law of the program as it is written:

* `forks` — the calls of `fork`, with the connection, the parent and the child.
* `Turned` — what one step of one process does.
* `served_by` — the parent serves a connection exactly if `pid` is not the id of the child,
  the child exactly if `pid` is not 0, nobody else does, nobody does it twice, and no
  connection is passed over.
-/

namespace Accepting

open Effect Trans

/-! ## The calls of `fork` -/

/-- A call of `fork`: the connection, the parent and the child. -/
structure Fork where
  conn : ℤ
  parent : ℕ
  child : ℕ

/-- The step is a call of `fork`. -/
def forkOf (m : Move Procs AcceptAct) : Option Fork :=
  match m.pre.next m.label.proc, m.label.event with
  | some .fork, .child q => some ⟨m.pre.current m.label.proc, m.label.proc, q⟩
  | _, _ => none

/-- All calls of `fork`, newest first. -/
def forks (h : List (Move Procs AcceptAct)) : List Fork := h.filterMap forkOf

/-- The process goes to work after this `fork`. -/
def Fork.Employs (pid : ℤ) (f : Fork) (p : ℕ) : Prop :=
  (p = f.parent ∧ pid ≠ f.child) ∨ (p = f.child ∧ pid ≠ 0)

/-- **Who serves what**: whoever has gone to work after the `fork` for that connection. -/
structure Employed (worker : Worker) (pid : ℤ) (fs : List Fork) (s : Procs) : Prop where
  serves_iff : ∀ p conn, s.Serves worker p conn ↔ ∃ f ∈ fs, f.conn = conn ∧ f.Employs pid p
  /-- There is one `fork` for a connection. -/
  once : (fs.map Fork.conn).Nodup
  /-- Nobody begins to serve a connection twice. -/
  served_nodup : s.served.Nodup
  /-- A connection that has been accepted has been forked for, or is just about to be. -/
  forked : ∀ n < s.accepted, (n : ℤ) ∈ fs.map Fork.conn ∨
    ∃ p, s.next p = some .fork ∧ s.current p = n

/-! ## One step -/

/-- What a process can have to do, `conn` being its connection. -/
inductive AtTurn (worker : Worker) (pid conn : ℤ) : AcceptM Unit → Prop
  | done : AtTurn worker pid conn (.ret ())
  | accepting : AtTurn worker pid conn (.op .accept (afterAccept worker pid))
  | forking : AtTurn worker pid conn (.op .fork (afterFork worker pid conn))
  | entering : AtTurn worker pid conn (.op (.enter worker conn) fun _ =>
      .op (.leave worker conn) fun _ => close conn)
  | leaving : AtTurn worker pid conn (.op (.leave worker conn) fun _ => close conn)
  | closing : AtTurn worker pid conn (.op (.close conn) .ret)

/-- The process has neither `fork` nor its worker before it. -/
def Calls : AcceptM Unit → Prop
  | .op .fork _ | .op (.enter _ _) _ => True
  | _ => False

/-- **What one step does**, `p` being the process that goes on. -/
inductive Turned (worker : Worker) (pid : ℤ) (s : Procs) (p : ℕ) : Event → Procs → Prop
  /-- The loop goes round, `accept` fails, the worker returns or the connection is closed. -/
  | quiet {e : Event} {q q' : AcceptM Unit} {acceptors : List ℕ} : s.prog p = some q →
      ¬ Calls q → ¬ Calls q' → AtTurn worker pid (s.current p) q' →
      Turned worker pid s p e { s.goOn p q' with acceptors := acceptors }
  | accepted {q : AcceptM Unit} : s.prog p = some q → ¬ Calls q →
      Turned worker pid s p .connection
        { s.goOn p (.op .fork (afterFork worker pid s.accepted)) with
          current := Function.update s.current p s.accepted
          accepted := s.accepted + 1
          acceptors := p :: s.acceptors }
  | forked {child : ℕ} : s.prog p = some (.op .fork (afterFork worker pid (s.current p))) →
      0 < child → s.prog child = none →
      Turned worker pid s p (.child child)
        { (s.goOn p (afterFork worker pid (s.current p) child)).goOn child
            (afterFork worker pid (s.current p) 0) with
          current := Function.update s.current child (s.current p)
          forked := (s.current p, child) :: s.forked }
  | entered {e : Event} : s.prog p = some (.op (.enter worker (s.current p)) fun _ =>
        .op (.leave worker (s.current p)) fun _ => close (s.current p)) →
      Turned worker pid s p e
        { s.goOn p (.op (.leave worker (s.current p)) fun _ => close (s.current p)) with
          served := (p, s.current p) :: s.served }

section Step

variable {worker : Worker} {pid conn ret : ℤ} {s s' : Procs} {a : AcceptAct} {p : ℕ}
  {q : AcceptM Unit} {fs : List Fork} {e : Event}

theorem AtTurn.afterFork : AtTurn worker pid conn (afterFork worker pid conn ret) := by
  by_cases hret : pid = ret
  · rw [afterFork_of_eq hret]
    exact .closing
  · rw [afterFork_of_ne hret]
    exact .entering

/-- **Every step is one of these.** -/
theorem AcceptStep.turned (hs : AcceptStep (acceptBody worker pid) s a s')
    (hat : ∀ q, s.prog a.proc = some q → AtTurn worker pid (s.current a.proc) q) :
    Turned worker pid s a.proc a.event s' := by
  unfold AcceptStep at hs
  cases hq : s.prog a.proc with
  | none =>
    unfold acceptStep at hs
    rw [hq] at hs
    cases hs
  | some q =>
    cases hat q hq with
    | done =>
      rw [acceptStep_of_ret hq] at hs
      cases hs
      exact .quiet hq not_false not_false .accepting
    | accepting =>
      rw [acceptStep_of_op hq] at hs
      cases he : a.event with
      | fail =>
        rw [he] at hs
        cases hs
        rw [afterAccept_of_neg (by decide)]
        exact .quiet hq not_false not_false .done
      | connection =>
        rw [he] at hs
        cases hs
        rw [afterAccept_of_nonneg (Int.natCast_nonneg _)]
        exact .accepted hq not_false
      | child q => rw [he] at hs; cases hs
      | none => rw [he] at hs; cases hs
    | forking =>
      rw [acceptStep_of_op hq] at hs
      cases he : a.event with
      | child q =>
        rw [he] at hs
        change (if 0 < q ∧ s.prog q = none then _ else none) = some s' at hs
        by_cases hc : 0 < q ∧ s.prog q = none
        · rw [if_pos hc] at hs
          cases hs
          exact .forked hq hc.1 hc.2
        · rw [if_neg hc] at hs
          cases hs
      | fail => rw [he] at hs; cases hs
      | connection => rw [he] at hs; cases hs
      | none => rw [he] at hs; cases hs
    | entering =>
      rw [acceptStep_of_op hq] at hs
      cases hs
      exact .entered hq
    | leaving =>
      rw [acceptStep_of_op hq] at hs
      cases hs
      exact .quiet hq not_false not_false .closing
    | closing =>
      rw [acceptStep_of_op hq] at hs
      cases hs
      exact .quiet hq not_false not_false .done

/-! ## What is known of the next operation -/

theorem Procs.next_congr (h : s'.prog p = s.prog p) : s'.next p = s.next p := by
  unfold Procs.next
  rw [h]

/-- A process that does not call has neither `fork` nor its worker before it. -/
theorem Procs.next_of_not_calls (worker : Worker) (hq : s.prog p = some q) (hc : ¬ Calls q) :
    s.next p ≠ some .fork ∧ ∀ conn, s.next p ≠ some (.enter worker conn) := by
  unfold Procs.next
  rw [hq]
  constructor
  · rintro hn
    split at hn
    · cases hn
      rename_i heq
      cases heq
      exact hc trivial
    · cases hn
  · rintro conn hn
    split at hn
    · cases hn
      rename_i heq
      cases heq
      exact hc trivial
    · cases hn

/-- Behind `fork` a process enters its worker exactly if it does not find `pid`. -/
theorem Procs.next_afterFork (hq : s.prog p = some (afterFork worker pid conn ret)) :
    s.next p ≠ some .fork ∧
      ∀ c, s.next p = some (.enter worker c) ↔ c = conn ∧ pid ≠ ret := by
  by_cases hret : pid = ret
  · rw [afterFork_of_eq hret] at hq
    have hnext := Procs.next_of_op hq
    rw [hnext]
    exact ⟨nofun, fun c => iff_of_false nofun fun h => h.2 hret⟩
  · rw [afterFork_of_ne hret] at hq
    have hnext := Procs.next_of_op hq
    rw [hnext]
    refine ⟨nofun, fun c => ⟨fun h => ?_, fun h => by rw [h.1]⟩⟩
    cases h
    exact ⟨rfl, hret⟩

end Step

/-! ## The invariant -/

/-- What holds in all states of all runs. -/
structure ForkInv (worker : Worker) (pid : ℤ) (fs : List Fork) (s : Procs) : Prop where
  atTurn : ∀ p q, s.prog p = some q → AtTurn worker pid (s.current p) q
  employed : Employed worker pid fs s
  /-- The connections forked for have been accepted, and the processes are there. -/
  known : ∀ f ∈ fs, (∃ n < s.accepted, f.conn = (n : ℕ)) ∧ s.prog f.parent ≠ none ∧
    s.prog f.child ≠ none
  /-- Who is about to fork has a connection for which nobody has forked. -/
  forking : ∀ p, s.next p = some .fork → (∃ n < s.accepted, s.current p = (n : ℕ)) ∧
    s.current p ∉ fs.map Fork.conn
  /-- And nobody else has it. -/
  alone : ∀ p p', s.next p = some .fork → s.next p' = some .fork →
    s.current p = s.current p' → p = p'
  /-- Who is about to serve a connection has not served it. -/
  fresh : ∀ p conn, s.next p = some (.enter worker conn) → (p, conn) ∉ s.served

section Inv

variable {worker : Worker} {pid : ℤ} {s s' : Procs} {p : ℕ} {fs : List Fork} {e : Event}
  {q q' : AcceptM Unit} {child : ℕ}

/-- The processes that were there are there. -/
theorem Procs.lives_of (hself : s'.prog p ≠ none) (hother : ∀ r, r ≠ p → s'.prog r = s.prog r)
    {r : ℕ} (hr : s.prog r ≠ none) : s'.prog r ≠ none := by
  by_cases hrp : r = p
  · rwa [hrp]
  · rwa [hother r hrp]

/-- A step of `p` that neither accepts nor forks, and after which the same processes serve the
same connections. -/
theorem ForkInv.keeps (hi : ForkInv worker pid fs s) (hself : s'.prog p = some q')
    (hat : AtTurn worker pid (s.current p) q') (hother : ∀ r, r ≠ p → s'.prog r = s.prog r)
    (hcur : s'.current = s.current) (hacc : s'.accepted = s.accepted)
    (hfork : ∀ r, s'.next r = some .fork ↔ s.next r = some .fork)
    (hserves : ∀ r conn, s'.Serves worker r conn ↔ s.Serves worker r conn)
    (hnodup : s'.served.Nodup)
    (hfresh : ∀ r conn, s'.next r = some (.enter worker conn) → (r, conn) ∉ s'.served) :
    ForkInv worker pid fs s' := by
  have hlives := fun r => Procs.lives_of (r := r) (by rw [hself]; exact nofun) hother
  refine ⟨fun r t ht => ?_, ⟨fun r conn => ?_, hi.employed.once, hnodup, ?_⟩, fun f hf => ?_,
    ?_, ?_, hfresh⟩
  · rw [hcur]
    by_cases hr : r = p
    · rw [hr, hself] at ht
      cases ht
      exact hr ▸ hat
    · exact hi.atTurn r t ((hother r hr).symm.trans ht)
  · rw [hserves, hi.employed.serves_iff]
  · simp only [hacc, hfork, hcur]
    exact hi.employed.forked
  · obtain ⟨hn, hp, hch⟩ := hi.known f hf
    exact ⟨hacc ▸ hn, hlives _ hp, hlives _ hch⟩
  · simp only [hacc, hfork, hcur]
    exact hi.forking
  · simp only [hfork, hcur]
    exact hi.alone

theorem ForkInv.quiet (hi : ForkInv worker pid fs s) {acceptors : List ℕ}
    (hq : s.prog p = some q) (hc : ¬ Calls q) (hc' : ¬ Calls q')
    (hat : AtTurn worker pid (s.current p) q') :
    ForkInv worker pid fs { s.goOn p q' with acceptors := acceptors } := by
  generalize hs : ({ s.goOn p q' with acceptors := acceptors } : Procs) = s'
  have hself : s'.prog p = some q' := hs ▸ s.goOn_self p q'
  have hother : ∀ r, r ≠ p → s'.prog r = s.prog r := fun r hr => hs ▸ s.goOn_other q' hr
  have hserved : s'.served = s.served := hs ▸ rfl
  -- neither before nor after the step does `p` call
  obtain ⟨h₁, h₂⟩ := Procs.next_of_not_calls worker hq hc
  obtain ⟨h₃, h₄⟩ := Procs.next_of_not_calls worker hself hc'
  have hfork : ∀ r, s'.next r = some .fork ↔ s.next r = some .fork := by
    intro r
    by_cases hr : r = p
    · exact hr ▸ iff_of_false h₃ h₁
    · rw [Procs.next_congr (hother r hr)]
  have henter : ∀ r conn, s'.next r = some (.enter worker conn) ↔
      s.next r = some (.enter worker conn) := by
    intro r conn
    by_cases hr : r = p
    · exact hr ▸ iff_of_false (h₄ conn) (h₂ conn)
    · rw [Procs.next_congr (hother r hr)]
  refine hi.keeps hself hat hother (hs ▸ rfl) (hs ▸ rfl) hfork (fun r conn => ?_)
    (hserved ▸ hi.employed.served_nodup) ?_
  · rw [Procs.Serves, Procs.Serves, hserved, henter]
  · simp only [henter, hserved]
    exact hi.fresh

/-- `p`, which did not call, has been given a new connection and is about to fork. -/
structure Arrives (worker : Worker) (pid : ℤ) (s : Procs) (p : ℕ) (s' : Procs) : Prop where
  idle : s.next p ≠ some .fork
  idle_worker : ∀ conn, s.next p ≠ some (.enter worker conn)
  self_prog : s'.prog p = some (.op .fork (afterFork worker pid s.accepted))
  other : ∀ r, r ≠ p → s'.prog r = s.prog r
  current_self : s'.current p = s.accepted
  current_eq : ∀ r, r ≠ p → s'.current r = s.current r
  accepted_eq : s'.accepted = s.accepted + 1
  served_eq : s'.served = s.served

theorem arrives_goOn (hq : s.prog p = some q) (hc : ¬ Calls q) :
    Arrives worker pid s p { s.goOn p (.op .fork (afterFork worker pid s.accepted)) with
      current := Function.update s.current p s.accepted
      accepted := s.accepted + 1
      acceptors := p :: s.acceptors } := by
  obtain ⟨hidle, hidle'⟩ := Procs.next_of_not_calls worker hq hc
  exact ⟨hidle, hidle', s.goOn_self p _, fun r hr => s.goOn_other _ hr, Function.update_self ..,
    fun r hr => Function.update_of_ne hr .., rfl, rfl⟩

namespace Arrives

variable {r : ℕ} {conn : ℤ}

theorem next_self (h : Arrives worker pid s p s') : s'.next p = some .fork :=
  Procs.next_of_op h.self_prog

theorem next_eq (h : Arrives worker pid s p s') (hrp : r ≠ p) : s'.next r = s.next r :=
  Procs.next_congr (h.other r hrp)

/-- Nobody comes to his worker. -/
theorem enter_iff (h : Arrives worker pid s p s') :
    s'.next r = some (.enter worker conn) ↔ s.next r = some (.enter worker conn) := by
  by_cases hrp : r = p
  · rw [hrp, h.next_self]
    exact iff_of_false nofun (h.idle_worker conn)
  · rw [h.next_eq hrp]

theorem atTurn (h : Arrives worker pid s p s') (hi : ForkInv worker pid fs s)
    (hq : s'.prog r = some q) : AtTurn worker pid (s'.current r) q := by
  by_cases hrp : r = p
  · rw [hrp, h.self_prog] at hq
    cases hq
    rw [hrp, h.current_self]
    exact .forking
  · rw [h.current_eq r hrp]
    exact hi.atTurn r q ((h.other r hrp).symm.trans hq)

/-- The new connection is that of `p`. -/
theorem forked (h : Arrives worker pid s p s') (hi : ForkInv worker pid fs s) {n : ℕ}
    (hn : n < s'.accepted) :
    (n : ℤ) ∈ fs.map Fork.conn ∨ ∃ r, s'.next r = some .fork ∧ s'.current r = n := by
  rw [h.accepted_eq] at hn
  rcases Nat.lt_succ_iff_lt_or_eq.1 hn with hn | rfl
  · rcases hi.employed.forked n hn with hf | ⟨r, hr, hrn⟩
    · exact Or.inl hf
    · have hrp : r ≠ p := by
        rintro rfl
        exact h.idle hr
      exact Or.inr ⟨r, (h.next_eq hrp).trans hr, (h.current_eq r hrp).trans hrn⟩
  · exact Or.inr ⟨p, h.next_self, h.current_self⟩

/-- Who was about to fork before has an older connection. -/
theorem forking_old (h : Arrives worker pid s p s') (hi : ForkInv worker pid fs s) (hrp : r ≠ p)
    (hr : s'.next r = some .fork) : ∃ n < s.accepted, s'.current r = (n : ℕ) := by
  rw [h.current_eq r hrp]
  exact (hi.forking r ((h.next_eq hrp).symm.trans hr)).1

theorem forking_free (h : Arrives worker pid s p s') (hi : ForkInv worker pid fs s)
    (hr : s'.next r = some .fork) :
    (∃ n < s'.accepted, s'.current r = (n : ℕ)) ∧ s'.current r ∉ fs.map Fork.conn := by
  rw [h.accepted_eq]
  by_cases hrp : r = p
  · rw [hrp, h.current_self]
    refine ⟨⟨_, Nat.lt_succ_self _, rfl⟩, fun hmem => ?_⟩
    obtain ⟨f, hf, heq⟩ := List.mem_map.1 hmem
    obtain ⟨⟨n, hn, hfn⟩, -⟩ := hi.known f hf
    omega
  · obtain ⟨n, hn, hrn⟩ := h.forking_old hi hrp hr
    refine ⟨⟨n, by omega, hrn⟩, ?_⟩
    rw [h.current_eq r hrp]
    exact (hi.forking r ((h.next_eq hrp).symm.trans hr)).2

theorem alone (h : Arrives worker pid s p s') (hi : ForkInv worker pid fs s) {r' : ℕ}
    (hr : s'.next r = some .fork) (hr' : s'.next r' = some .fork)
    (heq : s'.current r = s'.current r') : r = r' := by
  by_cases hrp : r = p <;> by_cases hrp' : r' = p
  · rw [hrp, hrp']
  · obtain ⟨n, hn, hrn⟩ := h.forking_old hi hrp' hr'
    rw [hrp, h.current_self, hrn] at heq
    omega
  · obtain ⟨n, hn, hrn⟩ := h.forking_old hi hrp hr
    rw [hrp', h.current_self, hrn] at heq
    omega
  · rw [h.current_eq r hrp, h.current_eq r' hrp'] at heq
    exact hi.alone r r' ((h.next_eq hrp).symm.trans hr) ((h.next_eq hrp').symm.trans hr') heq

end Arrives

theorem ForkInv.accepted (hi : ForkInv worker pid fs s) (h : Arrives worker pid s p s') :
    ForkInv worker pid fs s' := by
  have hlives := fun r => Procs.lives_of (r := r) (by rw [h.self_prog]; exact nofun) h.other
  refine ⟨fun r t => h.atTurn hi, ⟨fun r conn => ?_, hi.employed.once, ?_, fun n => h.forked hi⟩,
    fun f hf => ?_, fun r => h.forking_free hi, fun r r' => h.alone hi, fun r conn hr => ?_⟩
  · rw [← hi.employed.serves_iff, Procs.Serves, Procs.Serves, h.served_eq, h.enter_iff]
  · exact h.served_eq ▸ hi.employed.served_nodup
  · obtain ⟨⟨n, hn, hf⟩, hparent, hchild⟩ := hi.known f hf
    have hacc := h.accepted_eq
    exact ⟨⟨n, by omega, hf⟩, hlives _ hparent, hlives _ hchild⟩
  · rw [h.served_eq]
    exact hi.fresh r conn (h.enter_iff.1 hr)

/-- Whoever has served is there. -/
theorem ForkInv.lives (hi : ForkInv worker pid fs s) {conn : ℤ} (hs : (p, conn) ∈ s.served) :
    s.prog p ≠ none := by
  obtain ⟨f, hf, -, ⟨rfl, -⟩ | ⟨rfl, -⟩⟩ := (hi.employed.serves_iff p conn).1 (Or.inl hs)
  · exact (hi.known f hf).2.1
  · exact (hi.known f hf).2.2

/-- `p` has called `fork`, and `child` is the new process. -/
structure Splits (worker : Worker) (pid : ℤ) (s : Procs) (p child : ℕ) (s' : Procs) : Prop where
  calls : s.next p = some .fork
  free : s.prog child = none
  parent_prog : s'.prog p = some (afterFork worker pid (s.current p) child)
  child_prog : s'.prog child = some (afterFork worker pid (s.current p) 0)
  other : ∀ r, r ≠ p → r ≠ child → s'.prog r = s.prog r
  inherited : s'.current child = s.current p
  current_eq : ∀ r, r ≠ child → s'.current r = s.current r
  accepted_eq : s'.accepted = s.accepted
  served_eq : s'.served = s.served

theorem splits_goOn (hp : s.prog p = some (.op .fork (afterFork worker pid (s.current p))))
    (hnone : s.prog child = none) :
    Splits worker pid s p child
      { (s.goOn p (afterFork worker pid (s.current p) child)).goOn child
          (afterFork worker pid (s.current p) 0) with
        current := Function.update s.current child (s.current p)
        forked := (s.current p, child) :: s.forked } := by
  have hne : p ≠ child := by
    rintro rfl
    rw [hnone] at hp
    cases hp
  refine ⟨Procs.next_of_op hp, hnone, ?_, Procs.goOn_self _ child _, fun r hr hrc => ?_,
    Function.update_self .., fun r hr => Function.update_of_ne hr .., rfl, rfl⟩
  · exact (Procs.goOn_other _ _ hne).trans (s.goOn_self p _)
  · exact (Procs.goOn_other _ _ hrc).trans (s.goOn_other _ hr)

namespace Splits

variable {r : ℕ} {conn : ℤ}

theorem next_eq (h : Splits worker pid s p child s') (hrp : r ≠ p) (hrc : r ≠ child) :
    s'.next r = s.next r := Procs.next_congr (h.other r hrp hrc)

theorem ne (h : Splits worker pid s p child s') : p ≠ child := by
  rintro rfl
  have hcalls := h.calls
  rw [Procs.next_of_none h.free] at hcalls
  cases hcalls

/-- Only the other processes can still be about to fork. -/
theorem forking (h : Splits worker pid s p child s') (hr : s'.next r = some .fork) :
    r ≠ child ∧ r ≠ p ∧ s.next r = some .fork := by
  have hrc : r ≠ child := by
    rintro rfl
    exact (Procs.next_afterFork h.child_prog).1 hr
  have hrp : r ≠ p := by
    rintro rfl
    exact (Procs.next_afterFork h.parent_prog).1 hr
  exact ⟨hrc, hrp, (h.next_eq hrp hrc).symm.trans hr⟩

/-- The processes that were there are there. -/
theorem lives (h : Splits worker pid s p child s') (hr : s.prog r ≠ none) : s'.prog r ≠ none := by
  have hrc : r ≠ child := by
    rintro rfl
    exact hr h.free
  by_cases hrp : r = p
  · rw [hrp, h.parent_prog]
    exact nofun
  · rwa [h.other r hrp hrc]

theorem atTurn (h : Splits worker pid s p child s') (hi : ForkInv worker pid fs s)
    (hq : s'.prog r = some q) : AtTurn worker pid (s'.current r) q := by
  by_cases hrc : r = child
  · rw [hrc, h.child_prog] at hq
    cases hq
    rw [hrc, h.inherited]
    exact .afterFork
  rw [h.current_eq r hrc]
  by_cases hrp : r = p
  · rw [hrp, h.parent_prog] at hq
    cases hq
    rw [hrp]
    exact .afterFork
  · exact hi.atTurn r q ((h.other r hrp hrc).symm.trans hq)

/-- The parent and the child go to work on the connection, if they do, and nobody else. -/
theorem serves_iff (h : Splits worker pid s p child s') (hi : ForkInv worker pid fs s) :
    s'.Serves worker r conn ↔
      (s.current p = conn ∧ Fork.Employs pid ⟨s.current p, p, child⟩ r) ∨
        s.Serves worker r conn := by
  have henter := (Procs.next_afterFork h.parent_prog).2
  have henter' := (Procs.next_afterFork h.child_prog).2
  unfold Procs.Serves Fork.Employs
  rw [h.served_eq]
  by_cases hrp : r = p
  · rw [hrp, henter, h.calls]
    simp only [true_and, h.ne, false_and, or_false, Option.some.injEq, reduceCtorEq]
    rw [or_comm, eq_comm]
  by_cases hrc : r = child
  · have hno : (child, conn) ∉ s.served := fun hmem => hi.lives hmem h.free
    rw [hrc, henter', Procs.next_of_none h.free]
    simp only [hno, false_or, true_and, h.ne.symm, false_and, reduceCtorEq, or_false]
    rw [eq_comm]
  · rw [h.next_eq hrp hrc]
    simp only [hrp, hrc, false_and, or_false, and_false, false_or]

/-- What has been accepted has been forked for, or is about to be. -/
theorem forked (h : Splits worker pid s p child s') (hi : ForkInv worker pid fs s) {m : ℕ}
    (hm : m < s'.accepted) :
    (m : ℤ) ∈ (⟨s.current p, p, child⟩ :: fs : List Fork).map Fork.conn ∨
      ∃ r, s'.next r = some .fork ∧ s'.current r = m := by
  rw [h.accepted_eq] at hm
  rcases hi.employed.forked m hm with hf | ⟨r, hr, hrm⟩
  · exact Or.inl (List.mem_cons_of_mem _ hf)
  by_cases hrp : r = p
  · rw [← hrm, hrp]
    exact Or.inl (List.mem_cons_self ..)
  · have hrc : r ≠ child := by
      rintro rfl
      rw [Procs.next_of_none h.free] at hr
      cases hr
    exact Or.inr ⟨r, (h.next_eq hrp hrc).trans hr, (h.current_eq r hrc).trans hrm⟩

theorem known (h : Splits worker pid s p child s') (hi : ForkInv worker pid fs s) :
    ∀ f ∈ (⟨s.current p, p, child⟩ :: fs : List Fork),
      (∃ n < s'.accepted, f.conn = (n : ℕ)) ∧ s'.prog f.parent ≠ none ∧
        s'.prog f.child ≠ none := by
  rw [h.accepted_eq]
  refine List.forall_mem_cons.2 ⟨⟨(hi.forking p h.calls).1, ?_, ?_⟩, fun f hf => ?_⟩
  · rw [h.parent_prog]
    exact nofun
  · rw [h.child_prog]
    exact nofun
  · obtain ⟨hn, hparent, hchild⟩ := hi.known f hf
    exact ⟨hn, h.lives hparent, h.lives hchild⟩

/-- Who is still about to fork has another connection. -/
theorem forking_free (h : Splits worker pid s p child s') (hi : ForkInv worker pid fs s)
    (hr : s'.next r = some .fork) :
    (∃ n < s'.accepted, s'.current r = (n : ℕ)) ∧
      s'.current r ∉ (⟨s.current p, p, child⟩ :: fs : List Fork).map Fork.conn := by
  obtain ⟨hrc, hrp, hold⟩ := h.forking hr
  obtain ⟨hrn, hrfree⟩ := hi.forking r hold
  rw [h.current_eq r hrc, h.accepted_eq]
  refine ⟨hrn, fun hmem => ?_⟩
  rcases List.mem_cons.1 hmem with heq | hmem
  · exact hrp (hi.alone r p hold h.calls heq)
  · exact hrfree hmem

theorem fresh (h : Splits worker pid s p child s') (hi : ForkInv worker pid fs s)
    (hr : s'.next r = some (.enter worker conn)) : (r, conn) ∉ s'.served := by
  rw [h.served_eq]
  intro hmem
  have hrc : r ≠ child := by
    rintro rfl
    exact hi.lives hmem h.free
  by_cases hrp : r = p
  · -- it has not served the connection it has just forked for
    rw [hrp] at hr hmem
    obtain ⟨rfl, -⟩ := ((Procs.next_afterFork h.parent_prog).2 conn).1 hr
    obtain ⟨f, hf, hfc, -⟩ := (hi.employed.serves_iff p _).1 (Or.inl hmem)
    exact (hi.forking p h.calls).2 (List.mem_map.2 ⟨f, hf, hfc⟩)
  · exact hi.fresh r conn ((h.next_eq hrp hrc).symm.trans hr) hmem

end Splits

theorem ForkInv.forked (hi : ForkInv worker pid fs s) (h : Splits worker pid s p child s') :
    ForkInv worker pid (⟨s.current p, p, child⟩ :: fs) s' := by
  refine ⟨fun r t => h.atTurn hi, ⟨fun r conn => ?_, ?_, ?_, fun m => h.forked hi⟩, h.known hi,
    fun r => h.forking_free hi, fun r r' hr hr' heq => ?_, fun r conn => h.fresh hi⟩
  · rw [h.serves_iff hi, hi.employed.serves_iff, List.exists_mem_cons_iff]
  · exact List.nodup_cons.2 ⟨(hi.forking p h.calls).2, hi.employed.once⟩
  · exact h.served_eq ▸ hi.employed.served_nodup
  · obtain ⟨hrc, -, hold⟩ := h.forking hr
    obtain ⟨hrc', -, hold'⟩ := h.forking hr'
    rw [h.current_eq r hrc, h.current_eq r' hrc'] at heq
    exact hi.alone r r' hold hold' heq

theorem ForkInv.entered (hi : ForkInv worker pid fs s)
    (hp : s.prog p = some (.op (.enter worker (s.current p)) fun _ =>
      .op (.leave worker (s.current p)) fun _ => close (s.current p))) :
    ForkInv worker pid fs
      { s.goOn p (.op (.leave worker (s.current p)) fun _ => close (s.current p)) with
        served := (p, s.current p) :: s.served } := by
  generalize hs : ({ s.goOn p (.op (.leave worker (s.current p)) fun _ => close (s.current p)) with
    served := (p, s.current p) :: s.served } : Procs) = s'
  have hself : s'.prog p = some (.op (.leave worker (s.current p)) fun _ => close (s.current p)) :=
    hs ▸ s.goOn_self p _
  have hother : ∀ r, r ≠ p → s'.prog r = s.prog r := fun r hr => hs ▸ s.goOn_other _ hr
  have hserved : s'.served = (p, s.current p) :: s.served := hs ▸ rfl
  have hbefore : s.next p = some (.enter worker (s.current p)) := Procs.next_of_op hp
  have hafter : s'.next p = some (.leave worker (s.current p)) := Procs.next_of_op hself
  have hfork : ∀ r, s'.next r = some .fork ↔ s.next r = some .fork := by
    intro r
    by_cases hr : r = p
    · rw [hr, hbefore, hafter]
      exact iff_of_false nofun nofun
    · rw [Procs.next_congr (hother r hr)]
  refine hi.keeps hself .leaving hother (hs ▸ rfl) (hs ▸ rfl) hfork (fun r conn => ?_) ?_
    fun r conn hr => ?_
  · -- what `p` was about to do it has done
    rw [Procs.Serves, Procs.Serves, hserved, List.mem_cons, Prod.mk.injEq]
    by_cases hr : r = p
    · rw [hr, hbefore, hafter]
      simp only [true_and, reduceCtorEq, or_false, Option.some.injEq, Op.enter.injEq]
      exact ⟨fun h => h.symm.imp id Eq.symm, fun h => h.symm.imp Eq.symm id⟩
    · rw [Procs.next_congr (hother r hr)]
      simp only [hr, false_and, false_or]
  · rw [hserved]
    exact List.nodup_cons.2 ⟨hi.fresh p _ hbefore, hi.employed.served_nodup⟩
  · have hrp : r ≠ p := by
      rintro rfl
      rw [hafter] at hr
      cases hr
    rw [hserved, List.mem_cons, Prod.mk.injEq]
    rintro (⟨h, -⟩ | hmem)
    · exact hrp h
    · exact hi.fresh r conn ((Procs.next_congr (hother r hrp)).symm.trans hr) hmem

/-- **One step**, with the call of `fork` that it may be. -/
theorem ForkInv.step (hi : ForkInv worker pid fs s) (ht : Turned worker pid s p e s') :
    ForkInv worker pid ((forkOf ⟨s, ⟨p, e⟩, s'⟩).toList ++ fs) s' := by
  have hnone : ∀ s'', s.next p ≠ some .fork → forkOf ⟨s, ⟨p, e⟩, s''⟩ = none := by
    intro s'' hn
    unfold forkOf
    split
    · rename_i heq _
      exact absurd heq hn
    · rfl
  cases ht with
  | quiet hq hc hc' hat =>
    rw [hnone _ (Procs.next_of_not_calls worker hq hc).1]
    exact hi.quiet hq hc hc' hat
  | accepted hq hc =>
    rw [hnone _ (Procs.next_of_not_calls worker hq hc).1]
    exact hi.accepted (arrives_goOn hq hc)
  | @forked child hp _ hfree =>
    have hsome : ∀ s'', forkOf ⟨s, ⟨p, .child child⟩, s''⟩ = some ⟨s.current p, p, child⟩ := by
      intro s''
      unfold forkOf
      rw [Procs.next_of_op hp]
    rw [hsome]
    exact hi.forked (splits_goOn hp hfree)
  | entered hp =>
    rw [hnone _ (by rw [Procs.next_of_op hp]; exact nofun)]
    exact hi.entered hp

theorem forkInv_start (worker : Worker) (pid : ℤ) (root : ℕ) :
    ForkInv worker pid [] (acceptStart root) := by
  have hnext : ∀ r o, (acceptStart root).next r ≠ some o := by
    intro r o
    unfold Procs.next acceptStart
    by_cases hr : r = root
    · rw [hr]
      simp only [Function.update_self]
      exact nofun
    · simp only [Function.update_of_ne hr]
      exact nofun
  refine ⟨fun r q hq => ?_, ⟨fun r conn => ?_, List.nodup_nil, List.nodup_nil, nofun⟩, nofun,
    fun r hr => absurd hr (hnext r _), fun r r' hr => absurd hr (hnext r _),
    fun r conn hr => absurd hr (hnext r _)⟩
  · unfold acceptStart at hq
    by_cases hr : r = root
    · rw [hr] at hq
      simp only [Function.update_self] at hq
      cases hq
      exact .done
    · simp only [Function.update_of_ne hr] at hq
      cases hq
  · refine iff_of_false ?_ (by simp only [List.not_mem_nil, false_and, exists_false, not_false_iff])
    rintro (hmem | hr)
    · cases hmem
    · exact hnext r _ hr

end Inv

/-! ## The law -/

section Runs

variable {worker : Worker} {pid : ℤ} {root : ℕ} {s : Procs} {h : List (Move Procs AcceptAct)}

theorem forkInv_run (hp : Path (AcceptStep (acceptBody worker pid)) (acceptStart root) h s) :
    ForkInv worker pid (forks h) s := by
  induction hp with
  | start => exact forkInv_start worker pid root
  | @snoc h s s' a _ hs ih =>
    have hturn := hs.turned (ih.atTurn _)
    have hstep := ih.step hturn
    unfold forks at *
    rw [List.filterMap_cons]
    cases hf : forkOf ⟨s, a, s'⟩ with
    | none =>
      rw [show forkOf ⟨s, ⟨a.proc, a.event⟩, s'⟩ = none from hf] at hstep
      exact hstep
    | some f =>
      rw [show forkOf ⟨s, ⟨a.proc, a.event⟩, s'⟩ = some f from hf] at hstep
      exact hstep

/-- **Who serves a connection**, in all states of all runs, whatever the value of `pid` is. -/
theorem served_by (hp : Path (AcceptStep (acceptBody worker pid)) (acceptStart root) h s) :
    Employed worker pid (forks h) s :=
  (forkInv_run hp).employed

end Runs

/-- A run to which the law applies: `pid` is neither 0 nor the id of the child, and both the
parent and the child have begun to serve the connection. -/
theorem served_by_both : ∃ h s, Path (AcceptStep (relayServerMain 5)) (acceptStart 1) h s ∧
    s.served = [(7, 0), (1, 0)] ∧ Employed .threadClientWorker 5 (forks h) s := by
  obtain ⟨h, s, hp, hserved⟩ : ∃ h s, Path (AcceptStep (relayServerMain 5)) (acceptStart 1) h s ∧
      s.served = [(7, 0), (1, 0)] :=
    exists_replay (fun _ _ _ => acceptStep_eq) (forkFor 1 7 ++ [⟨1, .none⟩, ⟨7, .none⟩])
      (fun r => r.2.served = [(7, 0), (1, 0)]) (by decide +kernel)
  exact ⟨h, s, hp, hserved, served_by hp⟩

end Accepting
