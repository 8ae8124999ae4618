import Lpt.Base.Paths
import Lpt.Cloud.Phrases
import Lpt.Cloud.Run
import Lpt.Cloud.Trace

/-!
# The lock discipline

`cloud.lock` is a plain mutex: a thread that takes it a second time waits for itself.  It
is taken inside `cloud_get_status` and `cloud_set_status`, which are called everywhere, so
a function that holds it must not call them.

* `lockRule` — the discipline: take the mutex only when it is not held, give it back only
  when it is, and return without it.
* `Clean` — a path, finished or not, on which that was so.
* `Entry.LockSafe` — the paths that keep to it: all those of every entry point, except that
  a `swCloudBind` must find the device unbound, and its `BINDEV` must not be answered with
  `OK`.
* `clean_iff` — the two agree.
-/

namespace SwCloud

open CLib Effect

variable {P : CldProtocol}

/-! ## The discipline -/

/-- The discipline of a plain mutex; in the state `true` the thread holds it. -/
def lockRule (P : CldProtocol) : Discipline (Op P) (Ans P) Bool
  | held, .lock => if held then none else some fun _ => true
  | held, .unlock => if held then some fun _ => false else none
  | held, _ => some fun _ => held

/-- The entry points of the module. -/
inductive Entry where
  /-- An iteration of the daemon, a handler, or one of the calls with I/O. -/
  | action (a : Action)
  /-- `network_device_control`. -/
  | deviceControl
  /-- `swCloudGetStatus`. -/
  | getStatus

/-- The program of an entry point. -/
def Entry.prog (P : CldProtocol) : Entry → CloudM P Unit
  | .action a => a.prog P
  | .deviceControl => do
      let _ ← networkDeviceControl
      return ()
  | .getStatus => do
      let _ ← swCloudGetStatus
      return ()

/-- On the path `cs`, after which `q` is left to do, the mutex was never taken while it was
held or given back while it was not, and if nothing is left to do it is not held. -/
def Clean (cs : List (Call (Op P) (Ans P))) (q : CloudM P Unit) : Prop :=
  ∃ held, Discipline.run (lockRule P) false cs = some held ∧ (q.next = none → held = false)

/-- The number of `BINDEV` requests that have been answered with `OK`. -/
def World.bindevOks (w : World P) : ℕ := (okReplies P P.cldcmdBindev w.trace).length

/-- The paths from `w` to `w'` on which the mutex is used as it should be. -/
def Entry.LockSafe : Entry → World P → World P → Prop
  | .action (.bind (some _) (some _) (some _)), w, w' =>
      w.cloud.binded = false ∧ w'.bindevOks = w.bindevOks
  | _, _, _ => True

/-! ## The functions that keep to it -/

theorem lockRule_neutral (b : Bool) (o : Op P) (h : o.neutral) :
    lockRule P b o = some fun _ => b := by
  cases o <;> first | exact h.elim | rfl

/-- What is done between taking the mutex and giving it back. -/
theorem plain_lockRule (b : Bool) :
    Plain fun α (p : CloudM P α) => p.Obeys (lockRule P) b b :=
  plain_of_neutral (lockRule_neutral b)

/-- **The functions that take the mutex give it back.** -/
theorem calling_lockRule : Calling fun α (p : CloudM P α) => p.Obeys (lockRule P) false false where
  toPlain := plain_lockRule false
  setStatus _ := ⟨_, rfl, fun _ => ⟨_, rfl, fun _ => ⟨_, rfl, fun _ => rfl⟩⟩⟩
  receive := by
    intro _ buf _ hk
    refine ⟨_, rfl, ?_⟩
    intro _
    exact ((plain_lockRule true).receiveControl buf).bind fun r => ⟨_, rfl, fun _ => hk r⟩
  getStatus := ⟨_, rfl, fun _ => ⟨_, rfl, fun _ => ⟨_, rfl, fun _ => rfl⟩⟩⟩

theorem handling_lockRule :
    Handling fun α (p : CloudM P α) => p.Obeys (lockRule P) false false where
  pure _ := rfl
  bind hp hf := hp.bind hf
  setInfo _ := obeys_perform rfl
  getStatus := calling_lockRule.getStatus
  setRestart := ⟨_, rfl, fun _ => ⟨_, rfl, fun _ => ⟨_, rfl, fun _ => rfl⟩⟩⟩
  markUpdate := ⟨_, rfl, fun _ => ⟨_, rfl, fun _ => ⟨_, rfl, fun _ => rfl⟩⟩⟩
  upnpUpdate _ := ⟨_, rfl, fun _ => ⟨_, rfl, fun _ => ⟨_, rfl, fun _ => ⟨_, rfl, fun _ => rfl⟩⟩⟩⟩

theorem obeys_daemon : (cloudDaemon : CloudM P Unit).Obeys (lockRule P) false false := by
  have h := calling_lockRule (P := P)
  refine h.cloudDaemon (h.daemonConnected ?_)
  unfold cloudNeedUpdate
  refine h.bind h.getCloud fun _ => obeys_ite (h.pure _) ?_
  exact .bind (obeys_perform rfl) fun _ => .bind (obeys_perform rfl) fun _ => rfl

/-- Every entry point but `swCloudBind` keeps to the discipline, whatever happens. -/
theorem obeys_entry (e : Entry)
    (he : ∀ u p d, e ≠ .action (.bind (some u) (some p) (some d))) :
    (e.prog P).Obeys (lockRule P) false false := by
  have h := calling_lockRule (P := P)
  have hm := handling_lockRule (P := P)
  cases e with
  | deviceControl => exact h.bind h.networkDeviceControl fun _ => rfl
  | getStatus => exact h.bind h.getStatus fun _ => rfl
  | action a =>
    cases a with
    | daemon => exact obeys_daemon
    | sysnameChange arg => exact hm.msgSysnameChange arg
    | networkChange arg => exact hm.msgNetworkChange arg
    | passwordChange arg => exact hm.msgPasswordChange arg
    | upnpChange arg => exact hm.msgUpnpChange arg
    | regUsr a u p => exact h.bind (h.swCloudRegUsr a u p) fun _ => rfl
    | ubind => exact h.bind h.swCloudUBind fun _ => rfl
    | ping => exact h.bind h.swCloudPing fun _ => rfl
    | bind user password devicename =>
      -- a call without all its arguments returns at once
      rcases user with _ | u
      · rfl
      rcases password with _ | p
      · rfl
      rcases devicename with _ | d
      · rfl
      exact absurd rfl (he u p d)

/-! ## `swCloudBind` -/

section Bind

variable {w w' : World P} {r : CommonStatus} {user password devicename : CStr}

theorem bindevOks_le (h : w.trace <:+ w'.trace) : w.bindevOks ≤ w'.bindevOks := by
  obtain ⟨es, htr⟩ := h
  unfold World.bindevOks
  rw [← htr, okReplies_append, List.length_append]
  omega

/-- Once a `BINDEV` has been answered with `OK` it stays so. -/
theorem lasting_bindevOks (w : World P) :
    Prog.Lasting (handle P) fun w' => w.bindevOks < w'.bindevOks :=
  fun _ _ _ _ _ hlt hH => lt_of_lt_of_le hlt (bindevOks_le (handle_suffix hH))

/-- The requests made on the way from `w` to `w'` that bind the device. -/
theorem Asks.bindevOks_eq {fd : ℤ} {qs : List Asked} (h : Asks w w' fd qs) :
    w'.bindevOks = w.bindevOks +
      (qs.filter fun q => q.cmd = P.cldcmdBindev ∧ q.result = .succeed).length := by
  obtain ⟨es, htr, hes⟩ := h
  unfold World.bindevOks
  rw [htr, okReplies_append, List.length_append, hes.okReplies_eq, List.length_map, Nat.add_comm]

theorem Binds.bindevOks_eq (h : Binds w r w') :
    w'.bindevOks = w.bindevOks + if r = .succeed then 1 else 0 := by
  obtain ⟨code, hq⟩ := h
  rw [hq.asks.bindevOks_eq]
  by_cases hr : r = .succeed <;> simp [hr]

theorem Auths.bindevOks_eq (h : Auths w r w') : w'.bindevOks = w.bindevOks := by
  have hne : P.cldcmdAuth ≠ P.cldcmdBindev := P.cmds_ne.2.1.2.1
  rw [h.asks.bindevOks_eq]
  simp [hne]

theorem runs_bindevOks_le {α : Type} {p : CloudM P α} {a : α} (h : Runs p w a w') :
    w.bindevOks ≤ w'.bindevOks := by
  induction p generalizing w with
  | ret b =>
    obtain ⟨-, rfl⟩ := h
    exact le_rfl
  | op o k ih =>
    obtain ⟨i, x, w₁, hH, hk⟩ := h
    exact (bindevOks_le (handle_suffix hH)).trans (ih x hk)

/-- On a new connection the mutex is held all the time, up to a `BINDEV` that is answered with
`OK`: what follows would take it again. -/
theorem guards_bindConnected {w₀ w : World P} (hle : w₀.bindevOks ≤ w.bindevOks) :
    (bindConnected user password devicename : CloudM P _).Guards (handle P) (lockRule P)
      (fun w' => w₀.bindevOks < w'.bindevOks) true w fun _ held _ => held = true := by
  have hp := plain_lockRule (P := P) true
  have hfailed : ∀ (err : CommonStatus) (w₁ : World P),
      (bindFailed err).Guards (handle P) (lockRule P)
        (fun w' => w₀.bindevOks < w'.bindevOks) true w₁ fun _ held _ => held = true := by
    intro err w₁
    unfold bindFailed
    exact (hp.bind hp.cloudDoDisconnect fun _ => hp.pure err).guards.mono fun _ _ _ h => h.1
  unfold bindConnected
  refine Prog.Guards.bind (hp.modify ?_).guards fun _ held w₁ h₁ => ?_
  · exact fun _ => ⟨rfl, rfl⟩
  obtain ⟨rfl, h₁⟩ := h₁
  refine Prog.Guards.bind (hp.modify ?_).guards fun _ held w₂ h₂ => ?_
  · exact fun _ => ⟨rfl, rfl⟩
  obtain ⟨rfl, h₂⟩ := h₂
  refine Prog.Guards.bind (hp.modify ?_).guards fun _ held w₃ h₃ => ?_
  · exact fun _ => ⟨rfl, rfl⟩
  obtain ⟨rfl, h₃⟩ := h₃
  apply hp.cloudDoAuth.guards.bind
  intro err held w₄ h₄
  obtain ⟨rfl, h₄⟩ := h₄
  by_cases hauth : err = .succeed
  · rw [if_pos hauth]
    apply hp.cloudDoBind.guards.bind
    intro err held w₅ h₅
    obtain ⟨rfl, h₅⟩ := h₅
    by_cases hbind : err = .succeed
    · have hle₄ := hle.trans <| (runs_bindevOks_le h₁).trans <| (runs_bindevOks_le h₂).trans <|
        (runs_bindevOks_le h₃).trans (runs_bindevOks_le h₄)
      have hok := (runs_cloudDoBind h₅).bindevOks_eq
      rw [if_pos hbind] at hok
      exact Prog.Guards.of_excused (show w₀.bindevOks < w₅.bindevOks by omega)
    · rw [if_neg hbind]
      exact hfailed err w₅
  · rw [if_neg hauth]
    exact hfailed err w₄

/-- **A `swCloudBind` that finds the device unbound** uses the mutex as it should until a
`BINDEV` has been answered with `OK`. -/
theorem guards_swCloudBind (hb : w.cloud.binded = false) :
    (swCloudBind (some user) (some password) (some devicename) : CloudM P _).Guards (handle P)
      (lockRule P) (fun w' => w.bindevOks < w'.bindevOks) false w fun _ held _ => held = false := by
  have hp := plain_lockRule (P := P) true
  have hunlock : ∀ (err : CommonStatus) (w₁ : World P),
      (unlock >>= fun _ => pure err : CloudM P CommonStatus).Guards (handle P) (lockRule P)
        (fun w' => w.bindevOks < w'.bindevOks) true w₁ fun _ held _ => held = false :=
    fun err w₁ => Or.inr ⟨_, rfl, fun _ _ _ _ => Or.inr rfl⟩
  -- the mutex is taken, and the device is not bound
  refine Or.inr ⟨_, rfl, fun i _ w₁ hH => ?_⟩
  cases hH
  refine Or.inr ⟨_, rfl, fun i c w₁ hH => ?_⟩
  cases hH
  show Prog.Guards _ _ _ (if w.cloud.binded = true then _ else _) _ _ _
  rw [if_neg (by simp [hb])]
  unfold bindConnect
  apply hp.cloudDoDisconnect.guards.bind
  intro _ held w₁ h₁
  obtain ⟨rfl, h₁⟩ := h₁
  apply hp.cloudDoConnect.guards.bind
  intro err held w₂ h₂
  obtain ⟨rfl, h₂⟩ := h₂
  by_cases herr : err = .succeed
  · rw [if_pos herr]
    have hle := (runs_bindevOks_le h₁).trans (runs_bindevOks_le h₂)
    apply (guards_bindConnected hle).bind
    intro err held w₃ hheld
    rw [hheld]
    exact hunlock err w₃
  · rw [if_neg herr]
    apply hp.cloudDoDisconnect.guards.bind
    intro _ held w₃ h₃
    obtain ⟨rfl, -⟩ := h₃
    exact hunlock err w₃

/-- The handler that refuses a use of the mutex that the discipline forbids. -/
abbrev lockHandle (P : CldProtocol) : Handler (Op P) (Ans P) Input (Bool × World P) :=
  guard (handle P) (lockRule P)

/-- A part of the program that is done under the mutex. -/
theorem outcome_under {α : Type} {p : CloudM P α} {a : α} {hw hw' : Bool × World P}
    (hp : p.Obeys (lockRule P) true true) (hheld : hw.1 = true)
    (h : p.Outcome (lockHandle P) hw a hw') : hw'.1 = true ∧ Runs p hw.2 a hw'.2 := by
  obtain ⟨hrun, hstate⟩ := h.of_guard
  exact ⟨hstate true (hheld ▸ hp), hrun⟩

/-- Under the mutex it cannot be taken again. -/
theorem not_outcome_lock {α : Type} {f : Unit → CloudM P α} {a : α} {hw hw' : Bool × World P}
    (hheld : hw.1 = true) : ¬ (lock >>= f).Outcome (lockHandle P) hw a hw' := by
  rintro ⟨i, x, hw₁, hH, -⟩
  obtain ⟨g, w₁, hg, -⟩ := guard_eq_some.1 hH
  rw [hheld] at hg
  cases hg

/-- If the mutex is not taken again after `cloud_do_connect`, no `BINDEV` has been answered
with `OK`. -/
theorem bindConnected_bindevOks {hw hw' : Bool × World P} (hheld : hw.1 = true)
    (h : (bindConnected user password devicename).Outcome (lockHandle P) hw r hw') :
    hw'.1 = true ∧ hw'.2.bindevOks = hw.2.bindevOks := by
  have hp := plain_lockRule (P := P) true
  have hfailed : ∀ {err : CommonStatus} {hw hw' : Bool × World P}, hw.1 = true →
      (bindFailed err).Outcome (lockHandle P) hw r hw' →
        hw'.1 = true ∧ hw'.2.bindevOks = hw.2.bindevOks := by
    intro err hw hw' hheld h
    obtain ⟨hheld', hrun⟩ := outcome_under (hp.bind hp.cloudDoDisconnect fun _ => hp.pure _) hheld h
    obtain ⟨-, heq⟩ := runs_bindFailed hrun
    exact ⟨hheld', by rw [heq, (World.disconnect_asks hw.2 0).bindevOks_eq]; rfl⟩
  have hstore : ∀ {f : Cloud P → Cloud P} {u : Unit} {hw hw' : Bool × World P}, hw.1 = true →
      (modifyCloud f).Outcome (lockHandle P) hw u hw' → KeepsFlags f →
        hw'.1 = true ∧ hw'.2.bindevOks = hw.2.bindevOks := by
    intro f u hw hw' hheld h hf
    obtain ⟨hheld', hrun⟩ := outcome_under (hp.modify hf) hheld h
    exact ⟨hheld', by rw [runs_modifyCloud.1 hrun]; rfl⟩
  unfold bindConnected at h
  obtain ⟨_, hw₁, h₁, h⟩ := Prog.outcome_bind.1 h
  obtain ⟨_, hw₂, h₂, h⟩ := Prog.outcome_bind.1 h
  obtain ⟨_, hw₃, h₃, h⟩ := Prog.outcome_bind.1 h
  obtain ⟨err, hw₄, h₄, h⟩ := Prog.outcome_bind.1 h
  obtain ⟨hheld₁, heq₁⟩ := hstore hheld h₁ fun _ => ⟨rfl, rfl⟩
  obtain ⟨hheld₂, heq₂⟩ := hstore hheld₁ h₂ fun _ => ⟨rfl, rfl⟩
  obtain ⟨hheld₃, heq₃⟩ := hstore hheld₂ h₃ fun _ => ⟨rfl, rfl⟩
  obtain ⟨hheld₄, hauth⟩ := outcome_under hp.cloudDoAuth hheld₃ h₄
  have heq₄ := (runs_cloudDoAuth hauth).bindevOks_eq
  by_cases herr : err = .succeed
  · rw [if_pos herr] at h
    obtain ⟨err', hw₅, h₅, h⟩ := Prog.outcome_bind.1 h
    obtain ⟨hheld₅, hbind⟩ := outcome_under hp.cloudDoBind hheld₄ h₅
    have heq₅ := (runs_cloudDoBind hbind).bindevOks_eq
    by_cases herr' : err' = .succeed
    · -- `cloud_set_status` comes next but one
      rw [if_pos herr'] at h
      unfold bindSucceeded at h
      obtain ⟨_, hw₆, h₆, h⟩ := Prog.outcome_bind.1 h
      obtain ⟨hheld₆, -⟩ := outcome_under hp.cloudDoUpdate hheld₅ h₆
      obtain ⟨_, hw₇, h₇, -⟩ := Prog.outcome_bind.1 h
      exact absurd h₇ (not_outcome_lock hheld₆)
    · rw [if_neg herr'] at h heq₅
      obtain ⟨hheld', heq'⟩ := hfailed hheld₅ h
      exact ⟨hheld', by omega⟩
  · rw [if_neg herr] at h
    obtain ⟨hheld', heq'⟩ := hfailed hheld₄ h
    exact ⟨hheld', by omega⟩

/-- **A `swCloudBind` that returns without having taken the mutex twice** has found the
device unbound, and no `BINDEV` has been answered with `OK`. -/
theorem swCloudBind_lockSafe {hw' : Bool × World P}
    (h : (swCloudBind (some user) (some password) (some devicename)).Outcome (lockHandle P)
      (false, w) r hw') : w.cloud.binded = false ∧ hw'.2.bindevOks = w.bindevOks := by
  have hp := plain_lockRule (P := P) true
  obtain ⟨i, _, hw₁, hH, h⟩ := h
  obtain ⟨f, w₁, hf, hH, rfl⟩ := guard_eq_some.1 hH
  cases hf
  cases hH
  obtain ⟨i, c, hw₁, hH, h⟩ := h
  obtain ⟨f, w₁, hf, hH, rfl⟩ := guard_eq_some.1 hH
  cases hf
  cases hH
  change Prog.Outcome (lockHandle P) (if w.cloud.binded = true then _ else _) (true, w) r hw' at h
  by_cases hb : w.cloud.binded = true
  · -- `cloud_get_status` under the mutex
    rw [if_pos hb] at h
    obtain ⟨_, hw₁, h₁, -⟩ := Prog.outcome_bind.1 h
    exact absurd h₁ (not_outcome_lock rfl)
  rw [if_neg hb] at h
  refine ⟨by simpa using hb, ?_⟩
  have hunlock : ∀ {err : CommonStatus} {hw hw' : Bool × World P},
      (unlock >>= fun _ => pure err : CloudM P _).Outcome (lockHandle P) hw r hw' →
        hw'.2 = hw.2 := by
    intro err hw hw' h
    obtain ⟨_, _, h₁, h₂⟩ := runs_bind.1 h.of_guard.1
    exact (runs_pure.1 h₂).2.trans (runs_unlock.1 h₁)
  unfold bindConnect at h
  obtain ⟨_, hw₁, h₁, h⟩ := Prog.outcome_bind.1 h
  obtain ⟨err, hw₂, h₂, h⟩ := Prog.outcome_bind.1 h
  obtain ⟨hheld₁, hdisc⟩ := outcome_under hp.cloudDoDisconnect rfl h₁
  obtain ⟨hheld₂, hconn⟩ := outcome_under hp.cloudDoConnect hheld₁ h₂
  have heq₁ : hw₁.2.bindevOks = w.bindevOks := by
    rw [runs_cloudDoDisconnect.1 hdisc, (World.disconnect_asks w 0).bindevOks_eq]
    rfl
  have heq₂ : hw₂.2.bindevOks = hw₁.2.bindevOks :=
    ((runs_cloudDoConnect hconn).asks 0).bindevOks_eq
  by_cases herr : err = .succeed
  · rw [if_pos herr] at h
    obtain ⟨err', hw₃, h₃, h⟩ := Prog.outcome_bind.1 h
    obtain ⟨-, heq₃⟩ := bindConnected_bindevOks hheld₂ h₃
    rw [hunlock h]
    omega
  · rw [if_neg herr] at h
    obtain ⟨_, hw₃, h₃, h⟩ := Prog.outcome_bind.1 h
    obtain ⟨-, hdisc'⟩ := outcome_under hp.cloudDoDisconnect hheld₂ h₃
    have heq₃ : hw₃.2.bindevOks = hw₂.2.bindevOks := by
      rw [runs_cloudDoDisconnect.1 hdisc', (World.disconnect_asks hw₂.2 0).bindevOks_eq]
      rfl
    rw [hunlock h]
    omega

end Bind

/-! ## The law -/

section Law

variable {w w' : World P} {e : Entry} {q : CloudM P Unit} {cs : List (Call (Op P) (Ans P))}

/-- A path of a guarded program is clean. -/
theorem clean_of_guards {E : World P → Prop} {p : CloudM P Unit} (hE : Prog.Lasting (handle P) E)
    (hp : p.Guards (handle P) (lockRule P) E false w fun _ held _ => held = false)
    (hs : Steps (handle P) p w cs q w') (hn : ¬ E w') : Clean cs q := by
  obtain ⟨held, hrun, hq⟩ := hp.steps hE hs hn
  refine ⟨held, hrun, ?_⟩
  intro hnext
  cases q with
  | ret a => exact hq.resolve_left hn
  | op o k => cases hnext

/-- **When the mutex is used as it should be.**  A path of an entry point on which the
condition holds is clean, whether it has come to the end or not; and on a path that has come
to the end and is clean the condition holds. -/
theorem clean_iff (e : Entry) (hs : Steps (handle P) (e.prog P) w cs q w') :
    (e.LockSafe w w' → Clean cs q) ∧ (q.next = none → Clean cs q → e.LockSafe w w') := by
  by_cases he : ∃ u p d, e = .action (.bind (some u) (some p) (some d))
  · obtain ⟨u, p, d, rfl⟩ := he
    refine ⟨fun hsafe => ?_, fun hnext hclean => ?_⟩
    · refine clean_of_guards (lasting_bindevOks w) ?_ hs (by rw [hsafe.2]; exact lt_irrefl _)
      exact (guards_swCloudBind hsafe.1).bind fun _ _ _ h => Or.inr h
    · obtain ⟨held, hrun, hheld⟩ := hclean
      cases q with
      | op o k => cases hnext
      | ret a =>
        obtain ⟨r, hw₁, hbind, -, heq⟩ := Prog.outcome_bind.1 (hs.outcome_guard hrun)
        obtain ⟨hb, hoks⟩ := swCloudBind_lockSafe hbind
        rw [← heq] at hoks
        exact ⟨hb, hoks⟩
  · have hno : ∀ u p d, e ≠ .action (.bind (some u) (some p) (some d)) := fun u p d h =>
      he ⟨u, p, d, h⟩
    constructor
    · intro _
      refine clean_of_guards (E := fun _ => False) (fun _ _ _ _ _ h _ => h) ?_ hs not_false
      exact (obeys_entry e hno).guards.mono fun _ _ _ h => h.1
    · intro _ _
      unfold Entry.LockSafe
      split
      · exact absurd rfl (hno _ _ _)
      · trivial

end Law

/-- A path to which the law applies: a `swCloudBind` from beginning to end, of a device that is
not bound; the server accepts the pair, and refuses the binding. -/
theorem clean_iff_bind : ∃ cs w', Steps (handle sampleProtocol)
    ((Entry.action (.bind (some (CStr.lit "u")) (some (CStr.lit "p")) (some (CStr.lit "n")))).prog
      sampleProtocol) (start (sampleConf (CStr.lit "") (CStr.lit "")) sampleInfo) cs (.ret ()) w' ∧
    okReplies sampleProtocol sampleProtocol.cldcmdAuth w'.trace ≠ [] ∧
    w'.bindevOks = 0 ∧
    Clean cs (.ret () : CloudM sampleProtocol Unit) := by
  obtain ⟨r, w', hrun, hoks, hauth⟩ := exists_outcome
    ((Entry.action (.bind (some (CStr.lit "u")) (some (CStr.lit "p")) (some (CStr.lit "n")))).prog
      sampleProtocol) (start (sampleConf (CStr.lit "") (CStr.lit "")) sampleInfo)
    (connectInputs 3 ++ replyInputs (CStr.lit "OK") ++ .bytes (List.replicate 36 0) ::
      replyInputs (CStr.lit "ER"))
    (fun r => r.2.bindevOks = 0 ∧
      okReplies sampleProtocol sampleProtocol.cldcmdAuth r.2.trace ≠ []) (by decide +kernel)
  obtain ⟨cs, hs⟩ := hrun.exists_steps
  exact ⟨cs, w', hs, hauth, hoks, (clean_iff _ hs).1 ⟨rfl, hoks⟩⟩

/-- A `swCloudBind` of a device that is bound takes the mutex twice. -/
theorem swCloudBind_locks_twice : ∃ q w', Steps (handle sampleProtocol)
    ((Entry.action (.bind (some (CStr.lit "u")) (some (CStr.lit "p")) (some (CStr.lit "n")))).prog
      sampleProtocol) (start (sampleConf (CStr.lit "u") (CStr.lit "p")) sampleInfo)
    [⟨.lock, ()⟩, ⟨.get, (start (sampleConf (CStr.lit "u") (CStr.lit "p")) sampleInfo).cloud⟩,
      ⟨.lock, ()⟩] q w' ∧
    ¬ Clean [⟨.lock, ()⟩,
      ⟨.get, (start (sampleConf (CStr.lit "u") (CStr.lit "p")) sampleInfo).cloud⟩, ⟨.lock, ()⟩]
        q := by
  refine ⟨_, _, .call (i := .none) rfl (.call (i := .none) rfl (.call (i := .none) rfl .refl)), ?_⟩
  rintro ⟨held, hrun, -⟩
  cases hrun

end SwCloud
