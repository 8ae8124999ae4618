import Mathlib.Logic.Function.Basic
import Lpt.Base.Program
import Lpt.Base.Transition

/-!
# The accept loops

`relay_server` and the echo server have the same loop: accept a connection, fork, serve it
in the child.  What is written is `(pid == fork()) == 0`, a comparison: the variable `pid`
is never assigned, and whoever finds another value in it than `fork` has given him serves
the connection, the parent as well as the child.  And a worker that returns goes back to
the loop.

* `acceptBody` — the body of the loop, as a program.
* `Procs` — all processes, each with what it has still to do; `fork` gives a second process
  the same text.
* `OnePerConnection` — every connection is served by the child forked for it, and only the
  original process accepts.
* `onePerConnection_of_calm` — the law holds in all states of a run in which every `fork`
  gives its parent the value of `pid` and no worker returns.
-/

namespace Accepting

open Effect Trans

/-! ## The text of the loop -/

/-- What serves a connection. -/
inductive Worker where
  /-- `thread_client_worker`. -/
  | threadClientWorker
  /-- `_str_echo`. -/
  | strEcho
  deriving DecidableEq

/-- What a process asks for.  A connection stands for its descriptor. -/
inductive Op where
  | accept
  | fork
  /-- The worker is called. -/
  | enter (worker : Worker) (conn : ℤ)
  /-- It returns. -/
  | leave (worker : Worker) (conn : ℤ)
  | close (conn : ℤ)
  deriving DecidableEq

/-- The answers. -/
abbrev Ans : Op → Type
  | .accept | .fork => ℤ
  | _ => Unit

/-- A program of a process. -/
abbrev AcceptM : Type → Type := Prog Op Ans

def accept : AcceptM ℤ := Prog.call Op.accept
def fork : AcceptM ℤ := Prog.call Op.fork
def enter (worker : Worker) (conn : ℤ) : AcceptM Unit := Prog.call (Op.enter worker conn)
def leave (worker : Worker) (conn : ℤ) : AcceptM Unit := Prog.call (Op.leave worker conn)
def close (conn : ℤ) : AcceptM Unit := Prog.call (Op.close conn)

/-- The worker, from beginning to end. -/
def serve (worker : Worker) (conn : ℤ) : AcceptM Unit := do
  enter worker conn
  leave worker conn

/-- What follows `fork`, which has returned `ret`.  The result of a comparison is 0
or 1. -/
def afterFork (worker : Worker) (pid conn ret : ℤ) : AcceptM Unit := do
  if (if pid = ret then (1 : ℤ) else 0) = 0 then serve worker conn
  close conn

/-- What follows `accept`. -/
def afterAccept (worker : Worker) (pid conn : ℤ) : AcceptM Unit :=
  if conn < 0 then pure ()
  else do
    let ret ← fork
    afterFork worker pid conn ret

/-- The body of the loop of `main`, of which the variable `pid` is only ever read. -/
def acceptBody (worker : Worker) (pid : ℤ) : AcceptM Unit := do
  let conn ← accept
  afterAccept worker pid conn

/-- `main` of `relay_server.c`. -/
def relayServerMain : ℤ → AcceptM Unit := acceptBody .threadClientWorker

/-- `main` of `server.c`. -/
def echoServerMain : ℤ → AcceptM Unit := acceptBody .strEcho

/-! ## Processes -/

/-- The processes, by their ids, and a record of what they have done. -/
structure Procs where
  /-- What each process has still to do before its loop goes round. -/
  prog : ℕ → Option (AcceptM Unit)
  /-- The connection each process has accepted last, or its parent had. -/
  current : ℕ → ℤ
  /-- The number of connections accepted. -/
  accepted : ℕ
  /-- Who has called `accept`. -/
  acceptors : List ℕ
  /-- The connections, with the child that was forked after they had been accepted. -/
  forked : List (ℤ × ℕ)
  /-- Who has begun to serve which connection. -/
  served : List (ℕ × ℤ)

/-- What the operating system decides. -/
inductive Event where
  /-- `accept` fails. -/
  | fail
  /-- `accept` returns a new connection. -/
  | connection
  /-- `fork` has made the process `child`. -/
  | child (child : ℕ)
  /-- Nothing has to be decided. -/
  | none
  deriving DecidableEq

/-- The process `proc` goes on. -/
structure AcceptAct where
  proc : ℕ
  event : Event

namespace Procs

/-- The process `p` has `q` to do. -/
def goOn (s : Procs) (p : ℕ) (q : AcceptM Unit) : Procs :=
  { s with prog := Function.update s.prog p (some q) }

/-- What becomes of an operation of the process `p`, which goes on with `k`. -/
def exec (s : Procs) (p : ℕ) (e : Event) : (o : Op) → (Ans o → AcceptM Unit) → Option Procs
  | .accept, k =>
      match e with
      | .fail => some { s.goOn p (k (-1)) with acceptors := p :: s.acceptors }
      | .connection =>
          some { s.goOn p (k s.accepted) with
            current := Function.update s.current p s.accepted
            accepted := s.accepted + 1
            acceptors := p :: s.acceptors }
      | _ => none
  | .fork, k =>
      match e with
      | .child q =>
          if 0 < q ∧ s.prog q = none then
            some { (s.goOn p (k q)).goOn q (k 0) with
              current := Function.update s.current q (s.current p)
              forked := (s.current p, q) :: s.forked }
          else none
      | _ => none
  | .enter _ conn, k => some { s.goOn p (k ()) with served := (p, conn) :: s.served }
  | .leave _ _, k => some (s.goOn p (k ()))
  | .close _, k => some (s.goOn p (k ()))

end Procs

/-- One step of one process; a process that has come to the end of the body begins it
again. -/
def acceptStep (body : AcceptM Unit) (s : Procs) (a : AcceptAct) : Option Procs :=
  match s.prog a.proc with
  | none => none
  | some (.ret _) => some (s.goOn a.proc body)
  | some (.op o k) => s.exec a.proc a.event o k

/-- One step of one process. -/
def AcceptStep (body : AcceptM Unit) (s : Procs) (a : AcceptAct) (s' : Procs) : Prop :=
  acceptStep body s a = some s'

theorem acceptStep_eq {body : AcceptM Unit} {s s' : Procs} {a : AcceptAct}
    (h : acceptStep body s a = some s') : AcceptStep body s a s' := h

/-- The original process, alone, before its loop. -/
def acceptStart (root : ℕ) : Procs where
  prog := Function.update (fun _ => none) root (some (.ret ()))
  current := fun _ => -1
  accepted := 0
  acceptors := []
  forked := []
  served := []

/-! ## The law -/

/-- What a process asks for next. -/
def Procs.next (s : Procs) (p : ℕ) : Option Op :=
  match s.prog p with
  | some (.op o _) => some o
  | _ => none

/-- The process `p` serves the connection, or is just about to. -/
def Procs.Serves (worker : Worker) (s : Procs) (p : ℕ) (conn : ℤ) : Prop :=
  (p, conn) ∈ s.served ∨ s.next p = some (.enter worker conn)

/-- **One worker for each connection.** -/
structure OnePerConnection (worker : Worker) (root : ℕ) (s : Procs) : Prop where
  /-- Only the original process has called `accept`. -/
  acceptor : ∀ p ∈ s.acceptors, p = root
  /-- Whoever serves a connection is a child forked for it. -/
  child : ∀ p conn, s.Serves worker p conn → (conn, p) ∈ s.forked
  /-- Every child serves the connection it was forked for. -/
  serves : ∀ conn p, (conn, p) ∈ s.forked → s.Serves worker p conn
  /-- No other child was forked for it. -/
  once : ∀ conn p q, (conn, p) ∈ s.forked → (conn, q) ∈ s.forked → p = q

/-- `fork` has made the process with the id `pid`. -/
def Event.IsChild (pid : ℤ) : Event → Prop
  | .child q => pid = q
  | _ => False

instance (pid : ℤ) : (e : Event) → Decidable (e.IsChild pid)
  | .child q => inferInstanceAs (Decidable (pid = q))
  | .fail | .connection | .none => .isFalse not_false

/-- The worker returns. -/
def Op.leaves : Op → Bool
  | .leave _ _ => true
  | _ => false

/-- A step after which all is well: `fork` gives the value of `pid` to the parent, and no
worker returns. -/
def Calm (pid : ℤ) (m : Move Procs AcceptAct) : Prop :=
  (m.pre.next m.label.proc = some .fork → m.label.event.IsChild pid) ∧
    (m.pre.next m.label.proc).any Op.leaves = false

instance (pid : ℤ) (m : Move Procs AcceptAct) : Decidable (Calm pid m) :=
  inferInstanceAs (Decidable (_ ∧ _))

/-! ## Runs in which all is well -/

section

variable {worker : Worker} {pid conn ret : ℤ} {root : ℕ} {s s' : Procs} {a : AcceptAct}
  {h : List (Move Procs AcceptAct)}

theorem afterFork_of_eq (hret : pid = ret) : afterFork worker pid conn ret = close conn := by
  unfold afterFork
  rw [if_pos hret]
  rfl

theorem afterFork_of_ne (hret : pid ≠ ret) :
    afterFork worker pid conn ret = .op (.enter worker conn) fun _ =>
      .op (.leave worker conn) fun _ => close conn := by
  unfold afterFork
  rw [if_neg hret]
  rfl

theorem afterAccept_of_neg (hconn : conn < 0) : afterAccept worker pid conn = .ret () := by
  unfold afterAccept
  rw [if_pos hconn]
  rfl

theorem afterAccept_of_nonneg (hconn : 0 ≤ conn) :
    afterAccept worker pid conn = .op .fork (afterFork worker pid conn) := by
  unfold afterAccept
  rw [if_neg (not_lt.2 hconn)]
  rfl

/-- What the original process can have to do, `conn` being the connection it has accepted
last: it never serves. -/
inductive AtLoop (worker : Worker) (pid conn : ℤ) : AcceptM Unit → Prop
  | done : AtLoop worker pid conn (.ret ())
  | accepting : AtLoop worker pid conn (.op .accept (afterAccept worker pid))
  | forking : AtLoop worker pid conn (.op .fork (afterFork worker pid conn))
  | closing : AtLoop worker pid conn (.op (.close conn) .ret)

/-- How far the child has come that was forked for the connection `conn`. -/
inductive AtWork (worker : Worker) (conn : ℤ) (child : ℕ) (s : Procs) : Prop
  | before (prog : s.prog child = some (.op (.enter worker conn) fun _ =>
      .op (.leave worker conn) fun _ => close conn)) (served : s.served = [])
  | within (prog : s.prog child = some (.op (.leave worker conn) fun _ => close conn))
      (served : s.served = [(child, conn)])

/-- The processes other than the original one: there are none, or there is one child, at
work. -/
inductive Family (worker : Worker) (pid : ℤ) (root : ℕ) (s : Procs) : Prop
  | alone (forked : s.forked = []) (served : s.served = [])
      (others : ∀ p, p ≠ root → s.prog p = none)
  | parent (conn : ℤ) (child : ℕ) (hchild : child = pid) (hne : child ≠ root)
      (forked : s.forked = [(conn, child)]) (work : AtWork worker conn child s)
      (others : ∀ p, p ≠ root → p ≠ child → s.prog p = none)

/-- What holds as long as every step is calm. -/
structure CalmInv (worker : Worker) (pid : ℤ) (root : ℕ) (s : Procs) : Prop where
  loop : ∃ q, s.prog root = some q ∧ AtLoop worker pid (s.current root) q
  family : Family worker pid root s
  acceptor : ∀ p ∈ s.acceptors, p = root

/-- The family takes no notice of what the original process does. -/
theorem Family.of_eq (hs : Family worker pid root s) (hprog : ∀ p, p ≠ root → s'.prog p = s.prog p)
    (hforked : s'.forked = s.forked) (hserved : s'.served = s.served) :
    Family worker pid root s' := by
  cases hs with
  | alone forked served others =>
    refine .alone (hforked.trans forked) (hserved.trans served) fun p hp => ?_
    rw [hprog p hp]
    exact others p hp
  | parent conn child hchild hne forked work others =>
    refine .parent conn child hchild hne (hforked.trans forked) ?_ fun p hp hq => ?_
    · cases work with
      | before prog served => exact .before ((hprog child hne).trans prog) (hserved.trans served)
      | within prog served => exact .within ((hprog child hne).trans prog) (hserved.trans served)
    · rw [hprog p hp]
      exact others p hp hq

theorem acceptStep_of_ret {body : AcceptM Unit} {u : Unit} (hprog : s.prog a.proc = some (.ret u)) :
    acceptStep body s a = some (s.goOn a.proc body) := by
  unfold acceptStep
  rw [hprog]

theorem acceptStep_of_op {body : AcceptM Unit} {o : Op} {k : Ans o → AcceptM Unit}
    (hprog : s.prog a.proc = some (.op o k)) :
    acceptStep body s a = s.exec a.proc a.event o k := by
  unfold acceptStep
  rw [hprog]

theorem Procs.next_of_op {p : ℕ} {o : Op} {k : Ans o → AcceptM Unit}
    (hprog : s.prog p = some (.op o k)) : s.next p = some o := by
  unfold Procs.next
  rw [hprog]

theorem Procs.goOn_self (s : Procs) (p : ℕ) (q : AcceptM Unit) : (s.goOn p q).prog p = some q :=
  Function.update_self ..

theorem Procs.goOn_other (s : Procs) {p r : ℕ} (q : AcceptM Unit) (hr : r ≠ p) :
    (s.goOn p q).prog r = s.prog r :=
  Function.update_of_ne hr ..

/-- The original process goes on, and the others do not notice. -/
theorem CalmInv.goOn (hi : CalmInv worker pid root s) {q : AcceptM Unit}
    (hq : AtLoop worker pid (s.current root) q) : CalmInv worker pid root (s.goOn root q) where
  loop := ⟨q, s.goOn_self root q, hq⟩
  family := hi.family.of_eq (fun _ hp => s.goOn_other q hp) rfl rfl
  acceptor := hi.acceptor

/-- The original process calls `accept`. -/
theorem CalmInv.accept (hi : CalmInv worker pid root s) {e : Event}
    (hs : s.exec root e .accept (afterAccept worker pid) = some s') :
    CalmInv worker pid root s' := by
  have hacceptor : ∀ p ∈ root :: s.acceptors, p = root :=
    List.forall_mem_cons.2 ⟨rfl, hi.acceptor⟩
  cases e with
  | fail =>
    cases hs
    have hgo := hi.goOn .done
    refine ⟨?_, hgo.family.of_eq (fun _ hp => ?_) rfl rfl, hacceptor⟩
    · rw [afterAccept_of_neg (by decide)]
      exact hgo.loop
    · exact (s.goOn_other _ hp).trans (s.goOn_other _ hp).symm
  | connection =>
    cases hs
    refine ⟨⟨_, s.goOn_self root _, ?_⟩, ?_, hacceptor⟩
    · rw [afterAccept_of_nonneg (Int.natCast_nonneg _)]
      show AtLoop worker pid (Function.update s.current root _ root) _
      rw [Function.update_self]
      exact .forking
    · exact hi.family.of_eq (fun _ hp => s.goOn_other _ hp) rfl rfl
  | child q => cases hs
  | none => cases hs

/-- The original process forks, and finds the value of `pid` in the result. -/
theorem CalmInv.fork (hi : CalmInv worker pid root s) {e : Event}
    (hprog : s.prog root = some (.op .fork (afterFork worker pid (s.current root))))
    (hchild : e.IsChild pid)
    (hs : s.exec root e .fork (afterFork worker pid (s.current root)) = some s') :
    CalmInv worker pid root s' := by
  cases e with
  | child q =>
    have hpid : pid = q := hchild
    change (if 0 < q ∧ s.prog q = none then _ else none) = some s' at hs
    by_cases hq : 0 < q ∧ s.prog q = none
    · rw [if_pos hq] at hs
      cases hs
      obtain ⟨hpos, hfree⟩ := hq
      have hne : root ≠ q := by
        intro heq
        rw [← heq, hprog] at hfree
        cases hfree
      refine ⟨⟨close (s.current root), ?_, ?_⟩, ?_, hi.acceptor⟩
      · show ((s.goOn root _).goOn q _).prog root = _
        rw [Procs.goOn_other _ _ hne, Procs.goOn_self, afterFork_of_eq hpid]
      · show AtLoop worker pid (Function.update s.current q _ root) _
        rw [Function.update_of_ne hne]
        exact .closing
      · cases hi.family with
        | alone forked served others =>
          refine .parent (s.current root) q hpid.symm hne.symm (congrArg _ forked)
            (.before ?_ served) fun p hp hpq => ?_
          · show ((s.goOn root _).goOn q _).prog q = _
            rw [Procs.goOn_self, afterFork_of_ne (by omega)]
          · show ((s.goOn root _).goOn q _).prog p = _
            rw [Procs.goOn_other _ _ hpq, Procs.goOn_other _ _ hp]
            exact others p hp
        | parent conn child hc hcne forked work others =>
          -- the process with the id `pid` is there already
          have hqc : q = child := by omega
          rw [hqc] at hfree
          cases work with
          | before prog served =>
            rw [prog] at hfree
            cases hfree
          | within prog served =>
            rw [prog] at hfree
            cases hfree
    · rw [if_neg hq] at hs
      cases hs
  | fail => cases hs
  | connection => cases hs
  | none => cases hs

/-- **A step of the original process.** -/
theorem CalmInv.rootStep (hi : CalmInv worker pid root s) (hcalm : Calm pid ⟨s, a, s'⟩)
    (hs : AcceptStep (acceptBody worker pid) s a s') (ha : a.proc = root) :
    CalmInv worker pid root s' := by
  obtain ⟨q, hq, hat⟩ := hi.loop
  unfold AcceptStep at hs
  rw [← ha] at hq
  cases hat with
  | done =>
    rw [acceptStep_of_ret hq, ha] at hs
    cases hs
    exact hi.goOn .accepting
  | accepting =>
    rw [acceptStep_of_op hq, ha] at hs
    exact hi.accept hs
  | forking =>
    rw [acceptStep_of_op hq] at hs
    have hchild := hcalm.1 (Procs.next_of_op hq)
    rw [ha] at hs hq
    exact hi.fork hq hchild hs
  | closing =>
    rw [acceptStep_of_op hq, ha] at hs
    cases hs
    exact hi.goOn .done

/-- **A step of the child.** -/
theorem CalmInv.childStep (hi : CalmInv worker pid root s) (hcalm : Calm pid ⟨s, a, s'⟩)
    (hs : AcceptStep (acceptBody worker pid) s a s') (ha : a.proc ≠ root) :
    CalmInv worker pid root s' := by
  obtain ⟨hloop, hfamily, hacceptor⟩ := hi
  have hlives : s.prog a.proc ≠ none := by
    intro hnone
    unfold AcceptStep acceptStep at hs
    rw [hnone] at hs
    cases hs
  unfold AcceptStep at hs
  cases hfamily with
  | alone forked served others => exact absurd (others _ ha) hlives
  | parent conn child hchild hne forked work others =>
    obtain rfl : a.proc = child := by
      by_contra hother
      exact hlives (others _ ha hother)
    cases work with
    | before prog served =>
      rw [acceptStep_of_op prog] at hs
      cases hs
      refine ⟨?_, .parent conn a.proc hchild ha forked (.within ?_ ?_) ?_, hacceptor⟩
      · obtain ⟨q, hq, hat⟩ := hloop
        exact ⟨q, (s.goOn_other _ ha.symm).trans hq, hat⟩
      · exact s.goOn_self ..
      · exact congrArg _ served
      · intro p hp hpq
        exact (s.goOn_other _ hpq).trans (others p hp hpq)
    | within prog served =>
      -- the worker would return
      have hleaves := hcalm.2
      rw [Procs.next_of_op prog] at hleaves
      cases hleaves

theorem CalmInv.step (hi : CalmInv worker pid root s) (hcalm : Calm pid ⟨s, a, s'⟩)
    (hs : AcceptStep (acceptBody worker pid) s a s') : CalmInv worker pid root s' := by
  by_cases ha : a.proc = root
  · exact hi.rootStep hcalm hs ha
  · exact hi.childStep hcalm hs ha

theorem acceptStart_calm : CalmInv worker pid root (acceptStart root) where
  loop := by
    refine ⟨.ret (), ?_, .done⟩
    simp only [acceptStart, Function.update_self]
  family := by
    refine .alone rfl rfl fun p hp => ?_
    simp only [acceptStart, Function.update_of_ne hp]
  acceptor := by
    intro p hp
    cases hp

/-! ## The law in these runs -/

theorem Procs.next_of_none {p : ℕ} (hprog : s.prog p = none) : s.next p = none := by
  unfold Procs.next
  rw [hprog]

/-- The original process is never about to serve. -/
theorem CalmInv.root_idle (hi : CalmInv worker pid root s) :
    s.next root ≠ some (.enter worker conn) := by
  obtain ⟨q, hq, hat⟩ := hi.loop
  intro hnext
  unfold Procs.next at hnext
  rw [hq] at hnext
  cases hat with
  | done => cases hnext
  | accepting => cases hnext
  | forking => cases hnext
  | closing => cases hnext

/-- A child at work serves its connection and no other. -/
theorem AtWork.serves_iff {child p : ℕ} {conn' : ℤ} (hw : AtWork worker conn child s)
    (hother : p ≠ child → s.next p ≠ some (.enter worker conn')) :
    s.Serves worker p conn' ↔ p = child ∧ conn' = conn := by
  have hchild : s.next p = some (.enter worker conn') → p = child := by
    intro hnext
    by_contra hp
    exact hother hp hnext
  cases hw with
  | before prog served =>
    unfold Procs.Serves
    rw [served]
    constructor
    · rintro (hmem | hnext)
      · cases hmem
      · have hp := hchild hnext
        rw [hp, Procs.next_of_op prog] at hnext
        cases hnext
        exact ⟨hp, rfl⟩
    · rintro ⟨rfl, rfl⟩
      exact Or.inr (Procs.next_of_op prog)
  | within prog served =>
    unfold Procs.Serves
    rw [served, List.mem_singleton, Prod.mk.injEq]
    constructor
    · rintro (hmem | hnext)
      · exact hmem
      · have hp := hchild hnext
        rw [hp, Procs.next_of_op prog] at hnext
        cases hnext
    · exact Or.inl

theorem CalmInv.onePerConnection (hi : CalmInv worker pid root s) :
    OnePerConnection worker root s := by
  cases hi.family with
  | alone forked served others =>
    have hnobody : ∀ p conn, ¬ s.Serves worker p conn := by
      rintro p conn (hmem | hnext)
      · rw [served] at hmem
        cases hmem
      · by_cases hp : p = root
        · exact hi.root_idle (hp ▸ hnext)
        · rw [Procs.next_of_none (others p hp)] at hnext
          cases hnext
    refine ⟨hi.acceptor, fun p conn hserves => absurd hserves (hnobody p conn), ?_, ?_⟩
    · rw [forked]
      exact nofun
    · rw [forked]
      exact nofun
  | parent conn child hchild hne forked work others =>
    have hserves : ∀ p conn', s.Serves worker p conn' ↔ p = child ∧ conn' = conn := by
      intro p conn'
      apply work.serves_iff
      intro hp
      by_cases hroot : p = root
      · rw [hroot]
        exact hi.root_idle
      · rw [Procs.next_of_none (others p hroot hp)]
        exact nofun
    have hforked : ∀ conn' p, (conn', p) ∈ s.forked ↔ conn' = conn ∧ p = child := by
      intro conn' p
      rw [forked, List.mem_singleton, Prod.mk.injEq]
    refine ⟨hi.acceptor, fun p conn' hs => ?_, fun conn' p hf => ?_, fun conn' p q hp hq => ?_⟩
    · exact (hforked conn' p).2 ((hserves p conn').1 hs).symm
    · exact (hserves p conn').2 ((hforked conn' p).1 hf).symm
    · exact ((hforked conn' p).1 hp).2.trans ((hforked conn' q).1 hq).2.symm

/-- **One worker for each connection**, in all states of a run in which `fork` always gives
its parent the value of `pid` and no worker returns. -/
theorem onePerConnection_of_calm
    (hp : Path (AcceptStep (acceptBody worker pid)) (acceptStart root) h s)
    (hcalm : ∀ m ∈ h, Calm pid m) : ∀ m ∈ h, OnePerConnection worker root m.post := by
  intro m hm
  obtain ⟨hstep, earlier, hsuffix, hbefore⟩ := hp.mem_step hm
  have hinv : CalmInv worker pid root m.pre :=
    hbefore.invariant_of (CalmInv worker pid root)
      (fun m' hm' => hcalm m' (hsuffix.subset (List.mem_cons_of_mem _ hm'))) acceptStart_calm
      fun _ _ _ hi hc hs => hi.step hc hs
  exact (hinv.step (hcalm m hm) hstep).onePerConnection

end

/-! ## Two runs -/

/-- A connection comes, and the process `root` forks the process `child` for it. -/
def forkFor (root child : ℕ) : List AcceptAct :=
  [⟨root, .none⟩, ⟨root, .connection⟩, ⟨root, .child child⟩]

/-- `fork` finds the process with the id that is in `pid` anyhow: the child begins to serve,
and the parent waits for the next connection. -/
theorem onePerConnection_of_calm_once : ∃ h s,
    Path (AcceptStep (relayServerMain 7)) (acceptStart 1) h s ∧
      (∀ m ∈ h, OnePerConnection .threadClientWorker 1 m.post) ∧
      s.served = [(7, 0)] ∧ s.next 1 = some .accept := by
  obtain ⟨h, s, hp, hcalm, hserved⟩ : ∃ h s,
      Path (AcceptStep (relayServerMain 7)) (acceptStart 1) h s ∧ (∀ m ∈ h, Calm 7 m) ∧
        s.served = [(7, 0)] ∧ s.next 1 = some .accept :=
    exists_replay (fun _ _ _ => acceptStep_eq)
      (forkFor 1 7 ++ [⟨1, .none⟩, ⟨7, .none⟩, ⟨1, .none⟩])
      (fun r => (∀ m ∈ r.1, Calm 7 m) ∧ r.2.served = [(7, 0)] ∧ r.2.next 1 = some .accept)
      (by decide +kernel)
  exact ⟨h, s, hp, onePerConnection_of_calm hp hcalm, hserved⟩

/-- Any other value of `pid`, and the parent serves the connection as well as the child; and
when a worker returns, the child calls `accept`. -/
theorem two_workers : ∃ h s, Path (AcceptStep (relayServerMain 5)) (acceptStart 1) h s ∧
    (1, 0) ∈ s.served ∧ (7, 0) ∈ s.served ∧ s.acceptors = [7, 1] ∧
      ¬ ∀ m ∈ h, OnePerConnection .threadClientWorker 1 m.post := by
  obtain ⟨h, s, hp, hserved⟩ : ∃ h s, Path (AcceptStep (relayServerMain 5)) (acceptStart 1) h s ∧
      (1, 0) ∈ s.served ∧ (7, 0) ∈ s.served ∧ s.acceptors = [7, 1] ∧
        h.any (fun m => decide (m.post.acceptors = [7, 1])) = true :=
    exists_replay (fun _ _ _ => acceptStep_eq)
      (forkFor 1 7 ++ [⟨1, .none⟩, ⟨7, .none⟩, ⟨7, .none⟩, ⟨7, .none⟩, ⟨7, .none⟩, ⟨7, .fail⟩])
      (fun r => (1, 0) ∈ r.2.served ∧ (7, 0) ∈ r.2.served ∧ r.2.acceptors = [7, 1] ∧
        r.1.any (fun m => decide (m.post.acceptors = [7, 1])) = true)
      (by decide +kernel)
  obtain ⟨hroot, hchild, haccept, hany⟩ := hserved
  refine ⟨h, s, hp, hroot, hchild, haccept, ?_⟩
  intro hlaw
  obtain ⟨m, hm, hlast⟩ := List.any_eq_true.1 hany
  have hmem : 7 ∈ m.post.acceptors := by
    rw [of_decide_eq_true hlast]
    exact List.mem_cons_self ..
  exact absurd ((hlaw m hm).acceptor 7 hmem) (by decide)

end Accepting
