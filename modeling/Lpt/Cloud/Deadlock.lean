import Lpt.Base.Mutex
import Lpt.Cloud.Duo
import Lpt.Cloud.Locks

/-!
# Any number of threads and `cloud.lock`

The daemon, the thread of the messages and the threads that call the module take turns at one
mutex, operation by operation.  Without `swCloudBind` they never block each other for good.  With
it a thread can come to wait for itself, and then the module stands still: nobody gets the mutex
any more, and the status stays what it is.

* `PoolRun` — any threads with any entry points, in any interleaving.
* `no_deadlock` — as long as nobody calls `swCloudBind`, every thread can be brought to its end.
* `stopped_forever` — what becomes of the module when a thread waits for itself.
-/

namespace SwCloud

open CLib Effect Mutex Trans

variable {P : CldProtocol}

/-! ## The threads -/

/-- What the operations have to do with `cloud.lock`: the status is written by its holder only,
and nobody survives a `memcpy` of a negative length. -/
def mutexPolicy (P : CldProtocol) : Policy (Op P) where
  use
    | .lock => .take
    | .unlock => .give
    | _ => .neither
  inside
    | .setStatus _ => True
    | .modify f => ¬ KeepsFlags f
    | _ => False
  fatal
    | .crash => True
    | _ => False

/-- The threads, and the mutex. -/
abbrev Pool (P : CldProtocol) (T : Type) : Type :=
  Threads T (Op P) (Ans P) (Guarded T (World P))

/-- Some thread begins with an entry point, or goes on. -/
abbrev ThreadStep {T : Type} [DecidableEq T] : Pool P T → PoolAct T Entry Input → Pool P T → Prop :=
  PoolStep (mutexPolicy P) (handle P) (Entry.prog P)

/-- A run of the threads. -/
abbrev PoolRun {T : Type} [DecidableEq T] (w : World P)
    (h : List (Move (Pool P T) (PoolAct T Entry Input))) (c : Pool P T) : Prop :=
  Path ThreadStep (poolStart w) h c

/-- No thread begins a `swCloudBind` with all its arguments. -/
def NoBind {T : Type} (m : Move (Pool P T) (PoolAct T Entry Input)) : Prop :=
  match m.label with
  | .begins _ (.action (.bind (some _) (some _) (some _))) => False
  | _ => True

instance {T : Type} : DecidablePred (NoBind (P := P) (T := T)) := fun m => by
  unfold NoBind
  split <;> infer_instance

/-- The operation is one on the mutex, or writes the status. -/
def Op.Locks (o : Op P) : Prop := (mutexPolicy P).use o ≠ .neither ∨ (mutexPolicy P).inside o

/-! ## The disciplines -/

section Disciplines

variable {T : (α : Type) → CloudM P α → Prop} {D : Discipline (Op P) (Ans P) ℕ} {n : ℕ}

/-- **What holds of the phrases** holds of every entry point but `swCloudBind`. -/
theorem Calling.entry (h : Calling T) (hm : Handling T) (hu : T _ cloudNeedUpdate) (e : Entry)
    (he : ∀ u p d, e ≠ .action (.bind (some u) (some p) (some d))) : T _ (e.prog P) := by
  cases e with
  | deviceControl => exact h.bind h.networkDeviceControl fun _ => h.pure _
  | getStatus => exact h.bind h.getStatus fun _ => h.pure _
  | action a =>
    cases a with
    | daemon => exact h.cloudDaemon (h.daemonConnected hu)
    | sysnameChange arg => exact hm.msgSysnameChange arg
    | networkChange arg => exact hm.msgNetworkChange arg
    | passwordChange arg => exact hm.msgPasswordChange arg
    | upnpChange arg => exact hm.msgUpnpChange arg
    | regUsr a u p => exact h.bind (h.swCloudRegUsr a u p) fun _ => h.pure _
    | ubind => exact h.bind h.swCloudUBind fun _ => h.pure _
    | ping => exact h.bind h.swCloudPing fun _ => h.pure _
    | bind user password devicename =>
      rcases user with _ | u
      · exact h.pure _
      rcases password with _ | p
      · exact h.pure _
      rcases devicename with _ | d
      · exact h.pure _
      exact absurd rfl (he u p d)

/-- The operations that are done under the mutex by everyone but `swCloudBind`. -/
def Op.underLock : Op P → Prop
  | .get | .getStatus | .setStatus _ | .setUpdate _ | .recvPacket .. | .select .. | .sleep _ => True
  | .modify f => KeepsFlags f
  | _ => False

/-- A discipline that counts how often the mutex has been taken. -/
structure Counts (D : Discipline (Op P) (Ans P) ℕ) (n : ℕ) : Prop where
  neutral : ∀ o : Op P, o.neutral → D n o = some fun _ => n
  getUpdate : D n .getUpdate = some fun _ => n
  setUpdate : ∀ b, D n (.setUpdate b) = some fun _ => n
  lock : D n .lock = some fun _ => n + 1
  unlock : D (n + 1) .unlock = some fun _ => n
  under : ∀ o : Op P, o.underLock → D (n + 1) o = some fun _ => n + 1

namespace Counts

variable (h : Counts D n)

include h

theorem receiveControl (buf : List UInt8) : (receiveControl buf).Obeys D (n + 1) (n + 1) := by
  have hread : (networkReadEvent 1 : CloudM P Bool).Obeys D (n + 1) (n + 1) := by
    unfold networkReadEvent
    refine .bind (obeys_perform (h.under .get trivial)) fun c => obeys_ite ?_ ?_
    · exact .bind (obeys_perform (h.under (.sleep _) trivial)) fun _ => rfl
    · refine .bind (obeys_perform (h.under (.select ..) trivial)) fun ret => ?_
      cases ret <;> rfl
  unfold SwCloud.receiveControl
  refine hread.bind fun _ => obeys_ite ?_ rfl
  exact .bind (obeys_perform (h.under .get trivial)) fun _ =>
    obeys_perform (h.under (.recvPacket ..) trivial)

theorem calling : Calling fun α (p : CloudM P α) => p.Obeys D n n where
  toPlain := plain_of_neutral h.neutral
  setStatus _ := ⟨_, h.lock, fun _ => ⟨_, h.under (.setStatus _) trivial, fun _ => ⟨_, h.unlock,
    fun _ => rfl⟩⟩⟩
  receive := by
    intro _ buf _ hk
    refine ⟨_, h.lock, ?_⟩
    intro _
    exact (h.receiveControl buf).bind fun r => ⟨_, h.unlock, fun _ => hk r⟩
  getStatus := ⟨_, h.lock, fun _ => ⟨_, h.under .getStatus trivial, fun _ => ⟨_, h.unlock,
    fun _ => rfl⟩⟩⟩

theorem handling : Handling fun α (p : CloudM P α) => p.Obeys D n n where
  pure _ := rfl
  bind hp hf := hp.bind hf
  setInfo f := obeys_perform (h.neutral (.modify fun c => { c with devinfo := f c.devinfo })
    fun _ => ⟨rfl, rfl⟩)
  getStatus := h.calling.getStatus
  setRestart := ⟨_, h.lock, fun _ => ⟨_, h.under (.setStatus _) trivial, fun _ => ⟨_, h.unlock,
    fun _ => rfl⟩⟩⟩
  markUpdate := ⟨_, h.lock, fun _ => ⟨_, h.under (.setUpdate _) trivial, fun _ => ⟨_, h.unlock,
    fun _ => rfl⟩⟩⟩
  upnpUpdate buf := ⟨_, h.lock, fun _ =>
    ⟨_, h.under (.modify fun c => { c with devinfo := upnpInfo buf c.devinfo })
      (fun _ => ⟨rfl, rfl⟩), fun _ =>
    ⟨_, h.under (.setUpdate _) trivial, fun _ => ⟨_, h.unlock, fun _ => rfl⟩⟩⟩⟩

theorem needUpdate : (cloudNeedUpdate : CloudM P Bool).Obeys D n n := by
  unfold cloudNeedUpdate
  refine h.calling.bind h.calling.getCloud fun _ => obeys_ite rfl ?_
  exact .bind (obeys_perform h.getUpdate) fun _ =>
    .bind (obeys_perform (h.setUpdate _)) fun _ => rfl

/-- The entry points but `swCloudBind`. -/
theorem entry (e : Entry) (he : ∀ u p d, e ≠ .action (.bind (some u) (some p) (some d))) :
    (e.prog P).Obeys D n n := h.calling.entry h.handling h.needUpdate e he

end Counts

theorem counts_balanced (n : ℕ) : Counts (balanced (mutexPolicy P)) n where
  neutral o ho := by
    refine Discipline.ofRule_eq_some.2 ⟨?_, ?_⟩
    · cases o <;> first | exact ho.elim | exact fun h => h.elim nofun fun h => absurd ho h |
        exact fun h => h.elim nofun False.elim
    · cases o <;> first | exact ho.elim | rfl
  getUpdate := Discipline.ofRule_eq_some.2 ⟨fun h => h.elim nofun False.elim, rfl⟩
  setUpdate _ := Discipline.ofRule_eq_some.2 ⟨fun h => h.elim nofun False.elim, rfl⟩
  lock := Discipline.ofRule_eq_some.2 ⟨fun h => h.elim nofun False.elim, rfl⟩
  unlock := Discipline.ofRule_eq_some.2 ⟨fun _ => Nat.succ_pos _, rfl⟩
  under o ho := by
    refine Discipline.ofRule_eq_some.2 ⟨fun _ => Nat.succ_pos _, ?_⟩
    cases o <;> first | exact ho.elim | rfl

theorem counts_strict : Counts (strict (mutexPolicy P)) 0 where
  neutral o ho := by
    refine Discipline.ofRule_eq_some.2 ⟨⟨?_, fun _ => rfl⟩, ?_⟩
    · cases o <;> first | exact ho.elim | exact fun h => h.elim nofun fun h => absurd ho h |
        exact fun h => h.elim nofun False.elim
    · cases o <;> first | exact ho.elim | rfl
  getUpdate := Discipline.ofRule_eq_some.2
    ⟨⟨fun h => h.elim nofun False.elim, fun _ => rfl⟩, rfl⟩
  setUpdate _ := Discipline.ofRule_eq_some.2
    ⟨⟨fun h => h.elim nofun False.elim, fun _ => rfl⟩, rfl⟩
  lock := Discipline.ofRule_eq_some.2 ⟨⟨fun h => h.elim nofun False.elim, fun _ => rfl⟩, rfl⟩
  unlock := Discipline.ofRule_eq_some.2
    ⟨⟨fun _ => Nat.succ_pos _, fun h => h.elim nofun False.elim⟩, rfl⟩
  under o ho := by
    refine Discipline.ofRule_eq_some.2 ⟨⟨fun _ => Nat.succ_pos _, ?_⟩, ?_⟩
    · cases o <;> first | exact ho.elim | exact fun h => h.elim nofun False.elim
    · cases o <;> first | exact ho.elim | rfl

/-- **`swCloudBind` gives back what it takes**: it takes the mutex once more under the mutex. -/
theorem balanced_bind (user password devicename : CStr) :
    (swCloudBind (some user) (some password) (some devicename) : CloudM P _).Obeys
      (balanced (mutexPolicy P)) 0 0 := by
  have h := (counts_balanced (P := P) 1).calling
  have hunlock : ∀ err : CommonStatus, (unlock >>= fun _ => pure err : CloudM P _).Obeys
      (balanced (mutexPolicy P)) 1 0 :=
    fun err => ⟨_, (counts_balanced 0).unlock, fun _ => rfl⟩
  have hconnect : (bindConnect user password devicename : CloudM P _).Obeys
      (balanced (mutexPolicy P)) 1 0 := by
    unfold bindConnect
    refine h.cloudDoDisconnect.bind fun _ => h.cloudDoConnect.bind fun _ => ?_
    refine .ite (fun _ => ?_) fun _ => ?_
    · exact (h.bindConnected user password devicename).bind fun err => hunlock err
    · exact h.cloudDoDisconnect.bind fun _ => hunlock _
  refine ⟨_, (counts_balanced 0).lock, fun _ => ?_⟩
  refine h.getCloud.bind fun c => .ite (fun _ => ?_) fun _ => hconnect
  refine h.getStatus.bind fun status => .ite (fun _ => ?_) fun _ => hconnect
  exact hunlock _

theorem balanced_entry (e : Entry) : (e.prog P).Obeys (balanced (mutexPolicy P)) 0 0 := by
  by_cases he : ∃ u p d, e = .action (.bind (some u) (some p) (some d))
  · obtain ⟨u, p, d, rfl⟩ := he
    exact (balanced_bind u p d).bind fun _ => rfl
  · exact (counts_balanced 0).entry e fun u p d h => he ⟨u, p, d, h⟩

end Disciplines

/-! ## The operations -/

theorem total_handle (P : CldProtocol) : Total (mutexPolicy P) (handle P) := by
  intro o w ho
  cases o with
  | crash => exact absurd trivial ho
  | socket => exact ⟨.int (-1), -1, w.log (.socket (-1)), rfl⟩
  | tcpWrite fd hdr payload =>
    refine ⟨.writes [.err], ?_⟩
    by_cases hfd : fd ∈ w.sockets
    · exact ⟨-1, _, if_pos hfd⟩
    · exact ⟨-1, _, if_neg hfd⟩
  | recvPacket rc fd res =>
    refine ⟨.reads [] [.err], ?_⟩
    by_cases hfd : fd ∈ w.sockets
    · refine ⟨(-1, store res 0 []), w.log (.received rc fd (-1) (store res 0 [])),
        (if_pos hfd).trans ?_⟩
      rw [cloudRecvPacket_err]
      rfl
    · exact ⟨(-1, res), _, if_neg hfd⟩
  | connect fd => exact ⟨.int 0, 0, _, rfl⟩
  | readGreeting fd => exact ⟨.int 0, 0, _, rfl⟩
  | select fd mwait => exact ⟨.select .timeout, .timeout, _, rfl⟩
  | stack n => exact ⟨.bytes (List.replicate n 0), _, _, if_pos List.length_replicate⟩
  | swSystemSetProductName name => exact ⟨.status .succeed, .succeed, _, rfl⟩
  | swSystemSetProductNameCheck name => exact ⟨.status .succeed, .succeed, _, rfl⟩
  | swVideoCtrlGetResolution => exact ⟨.ints 0 0, (0, 0), _, rfl⟩
  | swVideoCtrlSetResolution width height => exact ⟨.int 0, 0, _, rfl⟩
  | _ => exact ⟨.none, _, _, rfl⟩

/-- An operation that neither is one on the mutex nor writes the status leaves the status. -/
theorem handle_status_of_not_locks {o : Op P} {i : Input} {x : Ans P o} {w w' : World P}
    (h : handle P o i w = some (x, w')) (ho : ¬ o.Locks) :
    w'.cloud.status = w.cloud.status := by
  have hspare : o.SparesFlags := by
    cases o with
    | modify f => exact not_not.1 fun hf => ho (Or.inr hf)
    | _ => trivial
  rw [handle_status h hspare]
  cases o with
  | setStatus s => exact absurd (Or.inr trivial) ho
  | _ => rfl

/-! ## The laws -/

section Laws

variable {T : Type} [DecidableEq T] {w₀ : World P} {c c' : Pool P T} {t : T}
  {h : List (Move (Pool P T) (PoolAct T Entry Input))}

theorem PoolRun.exclusive (hp : PoolRun w₀ h c) : Exclusive (balanced (mutexPolicy P)) c :=
  hp.invariant _ (poolStart_exclusive w₀) fun _ _ _ he hs =>
    he.step id (fun _ e _ => balanced_entry e) hs

/-- Without `swCloudBind` all threads keep to the strict discipline. -/
theorem PoolRun.strict (hp : PoolRun w₀ h c) (hbind : ∀ m ∈ h, NoBind m) :
    Exclusive (Mutex.strict (mutexPolicy P)) c := by
  refine hp.invariant_of _ hbind (poolStart_exclusive w₀) fun s a s' he hno hs => ?_
  refine he.step strict_balanced (fun t e ha => counts_strict.entry e fun u p d hbind => ?_) hs
  rw [ha, hbind] at hno
  exact hno

/-- **No deadlock.**  In every run of any number of threads in which nobody calls `swCloudBind`,
every thread can be brought to its end, with at most the present holder of the mutex going on
before, and nobody holds the mutex then. -/
theorem no_deadlock (hp : PoolRun w₀ h c) (hbind : ∀ m ∈ h, NoBind m) (t : T) :
    ∃ h' c', Path ThreadStep c h' c' ∧ Ended (mutexPolicy P) (c'.prog t) ∧
      c'.shared.holder = none ∧
      ∀ m ∈ h', ∃ u i, m.label = .exec u i ∧ (u = t ∨ c.shared.holder = some u) :=
  (hp.strict hbind).exists_end (total_handle P) t

/-- The status is what it was if nobody writes it. -/
theorem status_eq_of_not_locks (hp : Path ThreadStep c h c')
    (hno : ∀ m ∈ h, ∀ u, ¬ Does Op.Locks m u) :
    c'.shared.world.cloud.status = c.shared.world.cloud.status := by
  refine hp.invariant_of (fun s => s.shared.world.cloud.status = c.shared.world.cloud.status)
    hno rfl fun s a s' hi hdoes hs => ?_
  rw [← hi]
  cases a with
  | begins u e => rw [Threads.begin_shared hs]
  | exec u i =>
    obtain ⟨o, k, x, r, hprog, hH, rfl⟩ := Threads.exec_eq hs
    obtain ⟨holder, w, -, hw, rfl⟩ := guarded_eq hH
    refine handle_status_of_not_locks hw fun ho => hdoes u ⟨i, rfl, o, ?_, ho⟩
    rw [hprog]
    rfl

/-- **A thread that waits for itself.**  In every run of any number of threads, `swCloudBind`
included, only the holder of the mutex gives it back or writes the status.  If the holder asks for
the mutex again, somebody has called `swCloudBind`; and whatever is done from then on, it waits,
nobody gets the mutex, the status stays what it is, and whoever asks for the mutex is not heard. -/
theorem stopped_forever (hp : PoolRun w₀ h c) :
    (∀ m ∈ h, ∀ u, Does (fun o => (mutexPolicy P).use o = .give ∨ (mutexPolicy P).inside o) m u →
      m.pre.shared.holder = some u) ∧
    ∀ t, Stopped (mutexPolicy P) c t → (∃ m ∈ h, ¬ NoBind m) ∧
      ∀ h' c', Path ThreadStep c h' c' → Stopped (mutexPolicy P) c' t ∧
        (∀ m ∈ h', ∀ u, ¬ Does Op.Locks m u) ∧
        c'.shared.world.cloud.status = c.shared.world.cloud.status ∧
        ∀ u, (c.prog u).Asks (fun o => (mutexPolicy P).use o = .take) → c'.prog u = c.prog u := by
  refine ⟨?_, fun t hs => ⟨?_, fun h' c' hp' => ?_⟩⟩
  · rintro m hm u ⟨i, -, o, hnext, ho⟩
    obtain ⟨-, before, -, hpre⟩ := hp.mem_step hm
    exact (PoolRun.exclusive hpre).allows id hnext ho
  · by_contra hno
    have hbind : ∀ m ∈ h, NoBind m := fun m hm => not_not.1 fun hn => hno ⟨m, hm, hn⟩
    obtain ⟨h₁, c₁, hp₁, -, hnone, -⟩ := no_deadlock hp hbind t
    -- it can be brought to its end, but it stays where it is
    obtain ⟨hheld, -⟩ := (hs.run balanced_entry hp.exclusive hp₁).1
    rw [hnone] at hheld
    cases hheld
  · obtain ⟨hstop, hno, hsame⟩ := hs.run balanced_entry hp.exclusive hp'
    exact ⟨hstop, hno, status_eq_of_not_locks hp' hno, hsame⟩

end Laws

/-! ## Two runs -/

/-- A device that is bound. -/
def boundWorld : World sampleProtocol :=
  start (sampleConf (CStr.lit "u") (CStr.lit "p")) sampleInfo

/-- The daemon has to wait for a `swCloudPing`, and comes to the end of its iteration. -/
theorem no_deadlock_ping : ∃ (h : List (Move (Pool sampleProtocol ℕ) (PoolAct ℕ Entry Input)))
    (c : Pool sampleProtocol ℕ), PoolRun boundWorld h c ∧ c.shared.holder = some 1 ∧
      (c.prog 0).Asks (fun o => (mutexPolicy sampleProtocol).use o = .take) ∧
      ∃ h' c', Path ThreadStep c h' c' ∧ Ended (mutexPolicy sampleProtocol) (c'.prog 0) := by
  obtain ⟨h, c, hp, hbind, hheld, hasks⟩ : ∃ h c, PoolRun boundWorld h c ∧ (∀ m ∈ h, NoBind m) ∧
      c.shared.holder = some 1 ∧
      (c.prog 0).Asks (fun o => (mutexPolicy sampleProtocol).use o = .take) :=
    exists_replay (fun _ _ _ hs => hs)
      [.begins 0 (.action .daemon), .begins 1 (.action .ping), .exec 1 .none]
      (fun r => (∀ m ∈ r.1, NoBind m) ∧ r.2.shared.holder = some 1 ∧
        (r.2.prog 0).Asks (fun o => (mutexPolicy sampleProtocol).use o = .take))
      (by decide +kernel)
  obtain ⟨h', c', hp', hend, -⟩ := no_deadlock hp hbind 0
  exact ⟨h, c, hp, hheld, hasks, h', c', hp', hend⟩

/-- A `swCloudBind` of a device that is bound waits for itself, and the daemon never goes on. -/
theorem stopped_forever_bind :
    ∃ (h : List (Move (Pool sampleProtocol ℕ) (PoolAct ℕ Entry Input)))
      (c : Pool sampleProtocol ℕ), PoolRun boundWorld h c ∧
      Stopped (mutexPolicy sampleProtocol) c 1 ∧
      ∀ h' c', Path ThreadStep c h' c' → c'.prog 0 = c.prog 0 ∧
        c'.shared.world.cloud.status = c.shared.world.cloud.status := by
  obtain ⟨h, c, hp, hs, hasks⟩ : ∃ h c, PoolRun boundWorld h c ∧
      Stopped (mutexPolicy sampleProtocol) c 1 ∧
      (c.prog 0).Asks (fun o => (mutexPolicy sampleProtocol).use o = .take) :=
    exists_replay (fun _ _ _ hs => hs)
      [.begins 1 (.action (.bind (some (CStr.lit "u")) (some (CStr.lit "p"))
          (some (CStr.lit "n")))),
        .begins 0 (.action .daemon), .exec 1 .none, .exec 1 .none]
      (fun r => Stopped (mutexPolicy sampleProtocol) r.2 1 ∧
        (r.2.prog 0).Asks (fun o => (mutexPolicy sampleProtocol).use o = .take))
      (by decide +kernel)
  refine ⟨h, c, hp, hs, fun h' c' hp' => ?_⟩
  obtain ⟨-, -, hstatus, hsame⟩ := ((stopped_forever hp).2 1 hs).2 h' c' hp'
  exact ⟨hsame 0 hasks, hstatus⟩

end SwCloud
