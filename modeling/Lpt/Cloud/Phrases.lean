import Lpt.Base.Threads
import Lpt.Cloud.Api

/-!
# What the functions of the module are made of

Several of the laws of this development are about the order of certain operations: when
the mutex is taken, when a reply is read, when the update flag is cleared.  For each of
them the functions of the module are looked at as texts made of a few phrases, and only
these phrases have to be inspected again for the next law.

* `Plain T` — the property `T` of programs holds of the phrases that do not take the
  mutex, and of everything composed of them.
* `Locking T` — and of those that take it to write a status other than `RESTART` or to
  receive a request.
* `Calling T` — and of those that read the status.
* `Handling T` — of the phrases of the message handlers, which set the update flag.
* `plain_of_neutral`, `calling_of_neutral`, `handling_of_neutral` — what has to be looked at
  for a discipline: single operations.
-/

namespace SwCloud

open CLib Effect

variable {P : CldProtocol}

/-- The operations that neither touch the mutex, the status or the update flag, nor change
the struct, nor exchange packets. -/
def Op.plain : Op P → Prop
  | .lock | .unlock | .getStatus | .setStatus _ | .getUpdate | .setUpdate _ => False
  | .modify _ | .tcpWrite .. | .recvPacket .. => False
  | _ => True

/-- A change of the struct that leaves the status and the update flag as they are. -/
def KeepsFlags (f : Cloud P → Cloud P) : Prop :=
  ∀ c, (f c).status = c.status ∧ (f c).update = c.update

/-- A property of programs that holds of the phrases outside the mutex. -/
structure Plain (T : (α : Type) → CloudM P α → Prop) : Prop where
  pure {α : Type} (a : α) : T α (pure a)
  bind {α β : Type} {p : CloudM P α} {f : α → CloudM P β} :
    T α p → (∀ a, T β (f a)) → T β (p >>= f)
  perform (o : Op P) : o.plain → T _ (perform o)
  modify {f : Cloud P → Cloud P} : KeepsFlags f → T _ (modifyCloud f)
  sendPacket (cmd : ℕ) (data : CStr) (flags : ℕ) (res : List UInt8) :
    T _ (cloudSendPacket cmd data flags res)
  recvControl (fd : ℤ) (res : List UInt8) : T _ (recvPacket .control fd res)

/-- And of those that take it to write a status other than `RESTART`, which only a handler
writes, or to receive a request. -/
structure Locking (T : (α : Type) → CloudM P α → Prop) : Prop extends Plain T where
  setStatus {s : Status} : s ≠ .restart → T _ (cloudSetStatus s)
  receive {α : Type} (buf : List UInt8) {k : ℤ × List UInt8 → CloudM P α} : (∀ r, T α (k r)) →
    T α (do
      lock
      let r ← receiveControl buf
      unlock
      k r)

/-- And of those that read the status. -/
structure Calling (T : (α : Type) → CloudM P α → Prop) : Prop extends Locking T where
  getStatus : T _ cloudGetStatus

/-- A property that holds of the phrases of the message handlers. -/
structure Handling (T : (α : Type) → CloudM P α → Prop) : Prop where
  pure {α : Type} (a : α) : T α (pure a)
  bind {α β : Type} {p : CloudM P α} {f : α → CloudM P β} :
    T α p → (∀ a, T β (f a)) → T β (p >>= f)
  setInfo (f : DevInfo P → DevInfo P) :
    T _ (modifyCloud fun c => { c with devinfo := f c.devinfo })
  getStatus : T _ cloudGetStatus
  setRestart : T _ (cloudSetStatus .restart)
  markUpdate : T _ markUpdate
  upnpUpdate (buf : List UInt8) : T _ (do
    lock
    modifyCloud fun c => { c with devinfo := upnpInfo buf c.devinfo }
    setUpdate true
    unlock)

variable {T : (α : Type) → CloudM P α → Prop} {α : Type}

/-- What holds of both branches holds of the test. -/
theorem holds_ite {c : Prop} [Decidable c] {p q : CloudM P α} (hp : T α p) (hq : T α q) :
    T α (if c then p else q) := by
  by_cases hc : c
  · rw [if_pos hc]
    exact hp
  · rw [if_neg hc]
    exact hq

/-! ## Requests and connections -/

namespace Plain

variable (h : Plain T)

include h

theorem getCloud : T _ getCloud := h.perform .get trivial

theorem cloudRequest (cmd : ℕ) (t : CStr) (other : List UInt8 → CommonStatus) :
    T _ (cloudRequest cmd t other) := by
  unfold SwCloud.cloudRequest
  exact h.bind (h.sendPacket ..) fun _ => holds_ite (h.pure _) (holds_ite (h.pure _) (h.pure _))

theorem cloudDoRegusr (account username password : CStr) :
    T _ (cloudDoRegusr account username password) := by
  unfold SwCloud.cloudDoRegusr
  exact h.bind (h.perform (.stack _) trivial) fun _ => h.cloudRequest ..

theorem cloudDoAuth : T _ cloudDoAuth := by
  unfold SwCloud.cloudDoAuth
  exact h.bind h.getCloud fun _ => h.cloudRequest ..

theorem cloudDoUbind : T _ cloudDoUbind := h.cloudRequest ..

theorem cloudDoBind : T _ cloudDoBind := by
  unfold SwCloud.cloudDoBind
  exact h.bind (h.perform (.stack _) trivial) fun _ => h.bind h.getCloud fun _ => h.cloudRequest ..

/-- What follows the reading of the struct in `cloud_do_update`. -/
theorem updateRest (c : Cloud P) : T _ (do
    let ret ← SwCloud.cloudRequest P.cldcmdUpdev (updateText c.devinfo) fun _ => .error
    if ret = .cloudNetwork then do
      modifyCloud fun c => { c with reachable := .no }
      return ret
    else return ret) := by
  refine h.bind (h.cloudRequest ..) fun _ => holds_ite ?_ (h.pure _)
  exact h.bind (h.modify fun _ => ⟨rfl, rfl⟩) fun _ => h.pure _

theorem cloudDoUpdate : T _ cloudDoUpdate := h.bind h.getCloud h.updateRest

theorem cloudDoDisconnect : T _ cloudDoDisconnect := by
  unfold SwCloud.cloudDoDisconnect
  refine h.bind h.getCloud fun _ => holds_ite ?_ (h.pure _)
  exact h.bind (h.perform (.close _) trivial) fun _ => h.modify fun _ => ⟨rfl, rfl⟩

theorem connectFailed : T _ connectFailed := by
  unfold SwCloud.connectFailed
  exact h.bind (h.modify fun _ => ⟨rfl, rfl⟩) fun _ => h.pure _

theorem cloudDoConnect : T _ cloudDoConnect := by
  unfold SwCloud.cloudDoConnect
  apply h.bind (h.perform .socket trivial)
  intro _
  refine h.bind (h.modify fun _ => ⟨rfl, rfl⟩) fun _ => ?_
  refine h.bind h.getCloud fun _ => holds_ite h.connectFailed ?_
  refine h.bind (h.perform (.connect _) trivial) fun _ => holds_ite h.connectFailed ?_
  refine h.bind h.getCloud fun _ => h.bind (h.perform (.readGreeting _) trivial) fun _ => ?_
  exact holds_ite h.connectFailed (h.bind (h.modify fun _ => ⟨rfl, rfl⟩) fun _ => h.pure _)

theorem networkReadEvent (mwait : ℤ) : T _ (networkReadEvent mwait) := by
  unfold SwCloud.networkReadEvent
  refine h.bind h.getCloud fun _ => holds_ite ?_ ?_
  · exact h.bind (h.perform (.sleep _) trivial) fun _ => h.pure _
  · apply h.bind (h.perform (.select _ _) trivial)
    intro ret
    cases ret <;> exact h.pure _

theorem cloudClearCounter : T _ cloudClearCounter := by
  unfold SwCloud.cloudClearCounter
  refine h.bind (h.modify fun _ => ⟨rfl, rfl⟩) fun _ => h.bind (h.modify fun _ => ⟨rfl, rfl⟩)
    fun _ => ?_
  exact h.bind (h.perform (.sysConfGetLong _) trivial) fun _ => h.modify fun _ => ⟨rfl, rfl⟩

theorem receiveControl (buf : List UInt8) : T _ (receiveControl buf) := by
  unfold SwCloud.receiveControl
  refine h.bind (h.networkReadEvent _) fun _ => holds_ite ?_ (h.pure _)
  exact h.bind h.getCloud fun _ => h.recvControl ..

theorem sendControl (buf : List UInt8) : T _ (sendControl buf) := by
  unfold SwCloud.sendControl
  exact h.bind (h.sendPacket ..) fun _ => holds_ite (h.pure _) (h.pure _)

theorem controlResolution (buf : List UInt8) : T _ (controlResolution buf) := by
  unfold SwCloud.controlResolution
  dsimp only
  split
  · exact h.bind (h.perform (.swVideoCtrlSetResolution _ _) trivial) fun _ => h.sendControl _
  · exact h.sendControl _

theorem addPace : T _ addPace := h.modify fun _ => ⟨rfl, rfl⟩

end Plain

/-! ## Device control and the daemon -/

namespace Locking

variable (h : Locking T)

include h

theorem controlUnbind (buf : List UInt8) : T _ (controlUnbind buf) := by
  unfold SwCloud.controlUnbind
  refine h.bind h.cloudDoUbind fun _ => holds_ite ?_ (h.sendControl _)
  refine h.bind (h.modify fun _ => ⟨rfl, rfl⟩) fun _ => h.bind (h.setStatus nofun) fun _ => ?_
  apply h.bind (h.perform (.sysConfSetString _ _) trivial)
  intro _
  exact h.bind (h.perform (.sysConfSetString _ _) trivial) fun _ => h.sendControl _

theorem networkDeviceControl : T _ networkDeviceControl := by
  unfold SwCloud.networkDeviceControl
  refine h.bind (h.perform (.stack _) trivial) fun buf => h.receive buf fun r => ?_
  refine holds_ite (h.pure _) (holds_ite (h.pure _) (holds_ite (h.sendControl _) (holds_ite ?_ ?_)))
  · exact h.bind (h.perform (.swSystemSetProductName _) trivial) fun _ => h.sendControl _
  refine holds_ite (h.controlUnbind _) (holds_ite ?_ (holds_ite (h.controlResolution _) (h.pure _)))
  exact h.bind (h.perform .swVideoCtrlGetResolution trivial) fun _ => h.sendControl _

theorem pollControl : T _ pollControl := by
  unfold SwCloud.pollControl
  refine h.bind (h.networkReadEvent _) fun _ => holds_ite ?_ (h.pure _)
  refine h.bind h.networkDeviceControl fun _ => holds_ite ?_ (h.pure _)
  exact h.bind h.cloudDoDisconnect fun _ => h.setStatus nofun

theorem daemonUpdate {next : CloudM P Unit} (hn : T _ next) : T _ (daemonUpdate next) := by
  unfold SwCloud.daemonUpdate
  refine h.bind h.cloudDoUpdate fun _ => holds_ite (h.setStatus nofun) ?_
  exact holds_ite (h.setStatus nofun) hn

theorem daemonInit : T _ daemonInit := by
  unfold SwCloud.daemonInit
  exact h.bind h.getCloud fun _ => holds_ite h.pollControl (h.setStatus nofun)

theorem daemonConnecting : T _ daemonConnecting := by
  unfold SwCloud.daemonConnecting
  refine h.bind h.cloudDoConnect fun _ => holds_ite (h.setStatus nofun) ?_
  refine h.bind h.getCloud fun _ => ?_
  refine holds_ite ?_ (h.bind (h.setStatus nofun) fun _ => h.cloudClearCounter)
  refine h.bind h.cloudDoAuth fun _ => holds_ite (h.setStatus nofun) ?_
  exact holds_ite (h.setStatus nofun) (h.daemonUpdate (h.setStatus nofun))

theorem daemonDisconnected : T _ daemonDisconnected := by
  have hretry : T _ (retryConnect : CloudM P _) := by
    unfold retryConnect
    refine h.bind (h.modify fun _ => ⟨rfl, rfl⟩) fun _ => h.bind (h.modify fun _ => ⟨rfl, rfl⟩)
      fun _ => ?_
    exact h.bind (h.modify fun _ => ⟨rfl, rfl⟩) fun _ => h.setStatus nofun
  unfold SwCloud.daemonDisconnected
  refine h.bind h.cloudDoDisconnect fun _ => h.bind h.getCloud fun _ => ?_
  refine holds_ite (holds_ite ?_ ?_) h.pollControl
  · exact h.bind hretry fun _ => h.bind h.addPace fun _ => h.pollControl
  · exact h.bind h.addPace fun _ => h.pollControl

theorem daemonBroken : T _ daemonBroken := by
  unfold SwCloud.daemonBroken
  exact h.bind h.cloudDoDisconnect fun _ => h.pollControl

theorem daemonRestart : T _ daemonRestart := by
  unfold SwCloud.daemonRestart
  refine h.bind h.cloudDoDisconnect fun _ => h.bind (h.modify fun _ => ⟨rfl, rfl⟩) fun _ => ?_
  exact h.bind h.cloudClearCounter fun _ => h.setStatus nofun

/-- The case of `CONNECTED`, where the update flag is taken. -/
theorem daemonConnected (hu : T _ cloudNeedUpdate) : T _ daemonConnected := by
  unfold SwCloud.daemonConnected
  refine h.bind h.getCloud fun _ => holds_ite ?_ (h.setStatus nofun)
  exact h.bind hu fun _ => holds_ite (h.daemonUpdate h.pollControl) h.pollControl

end Locking

/-! ## The calls -/

namespace Calling

variable (h : Calling T)

include h

/-- One iteration of the daemon. -/
theorem cloudDaemon (hconn : T _ daemonConnected) : T _ cloudDaemon := by
  unfold SwCloud.cloudDaemon
  apply h.bind h.getStatus
  intro status
  cases status with
  | init => exact h.daemonInit
  | connecting => exact h.daemonConnecting
  | connected => exact hconn
  | disconnected => exact h.daemonDisconnected
  | broken => exact h.daemonBroken
  | restart => exact h.daemonRestart

theorem regUsrReturn (err : CommonStatus) : T _ (regUsrReturn err) := by
  unfold SwCloud.regUsrReturn
  refine h.bind h.getCloud fun _ => holds_ite ?_ (h.pure _)
  refine h.bind h.getStatus fun _ => holds_ite ?_ (h.pure _)
  exact h.bind h.cloudDoDisconnect fun _ => h.bind (h.setStatus nofun) fun _ => h.pure _

theorem swCloudRegUsr (account username password : Option CStr) :
    T _ (swCloudRegUsr account username password) := by
  unfold SwCloud.swCloudRegUsr
  split
  · rename_i a u p
    have hreg : T _ (SwCloud.cloudDoRegusr a u p >>= SwCloud.regUsrReturn) :=
      h.bind (h.cloudDoRegusr a u p) h.regUsrReturn
    refine h.bind h.getStatus fun _ => holds_ite ?_ hreg
    exact h.bind h.cloudDoConnect fun _ => holds_ite (h.regUsrReturn _) hreg
  · exact h.pure _

theorem ubindConnected : T _ ubindConnected := by
  unfold SwCloud.ubindConnected
  refine h.bind h.cloudDoUbind fun _ => holds_ite ?_ ?_
  · refine h.bind (h.modify fun _ => ⟨rfl, rfl⟩) fun _ => h.bind (h.setStatus nofun) fun _ => ?_
    apply h.bind (h.perform (.sysConfSetString _ _) trivial)
    intro _
    apply h.bind (h.perform (.sysConfSetString _ _) trivial)
    intro _
    exact h.bind h.cloudDoDisconnect fun _ => h.pure _
  · exact h.bind (h.setStatus nofun) fun _ => h.bind h.cloudDoDisconnect fun _ => h.pure _

theorem swCloudUBind : T _ swCloudUBind := by
  have hleave : ∀ {s} err, s ≠ .restart → T _ (do
      cloudSetStatus s
      SwCloud.cloudDoDisconnect
      return err : CloudM P CommonStatus) := fun err hs =>
    h.bind (h.setStatus hs) fun _ => h.bind h.cloudDoDisconnect fun _ => h.pure err
  unfold SwCloud.swCloudUBind
  refine h.bind h.getCloud fun _ => holds_ite (h.pure _) ?_
  refine h.bind h.getStatus fun _ => holds_ite ?_ h.ubindConnected
  unfold SwCloud.ubindOffline
  refine h.bind h.cloudDoConnect fun _ => holds_ite ?_ (hleave _ nofun)
  exact h.bind h.cloudDoAuth fun _ => holds_ite (hleave _ nofun) h.ubindConnected

theorem bindFailed (err : CommonStatus) : T _ (bindFailed err) := by
  unfold SwCloud.bindFailed
  exact h.bind h.cloudDoDisconnect fun _ => h.pure err

theorem bindSucceeded : T _ bindSucceeded := by
  unfold SwCloud.bindSucceeded
  refine h.bind h.cloudDoUpdate fun _ => h.bind (h.setStatus nofun) fun _ => ?_
  refine h.bind (h.modify fun _ => ⟨rfl, rfl⟩) fun _ => h.bind h.getCloud fun _ => ?_
  refine h.bind (h.perform (.sysConfSetString ..) trivial) fun _ => h.bind h.getCloud fun _ => ?_
  exact h.bind (h.perform (.sysConfSetString ..) trivial) fun _ => h.pure _

/-- What `swCloudBind` does on its connection. -/
theorem bindConnected (user password devicename : CStr) :
    T _ (bindConnected user password devicename) := by
  unfold SwCloud.bindConnected
  refine h.bind (h.modify fun _ => ⟨rfl, rfl⟩) fun _ => ?_
  refine h.bind (h.modify fun _ => ⟨rfl, rfl⟩) fun _ => ?_
  refine h.bind (h.modify fun _ => ⟨rfl, rfl⟩) fun _ => h.bind h.cloudDoAuth fun _ => ?_
  refine holds_ite ?_ (h.bindFailed _)
  exact h.bind h.cloudDoBind fun _ => holds_ite h.bindSucceeded (h.bindFailed _)

theorem swCloudPing : T _ swCloudPing := by
  have hread : T _ (do
      let c ← SwCloud.getCloud
      return c.reachable : CloudM P Reachable) := h.bind h.getCloud fun _ => h.pure _
  unfold SwCloud.swCloudPing
  refine h.bind h.getStatus fun _ => holds_ite ?_ hread
  refine h.bind h.getStatus fun _ => holds_ite ?_ hread
  exact h.bind h.cloudClearCounter fun _ => h.bind (h.setStatus nofun) fun _ => hread

end Calling

/-! ## The handlers -/

namespace Handling

variable (h : Handling T)

include h

theorem whenConnected (arg : Option CStr) {body : CStr → CloudM P Unit}
    (hb : ∀ arg, T _ (body arg)) : T _ (whenConnected arg body) := by
  cases arg with
  | none => exact h.pure _
  | some arg => exact h.bind h.getStatus fun _ => holds_ite (h.pure _) (hb arg)

theorem msgSysnameChange (arg : Option CStr) : T _ (msgSysnameChange arg) :=
  h.whenConnected arg fun _ => h.bind (h.setInfo _) fun _ => h.markUpdate

theorem msgNetworkChange (arg : Option CStr) : T _ (msgNetworkChange arg) :=
  h.whenConnected arg fun _ => h.bind h.markUpdate fun _ => h.setRestart

theorem msgPasswordChange (arg : Option CStr) : T _ (msgPasswordChange arg) :=
  h.whenConnected arg fun _ => h.bind (h.setInfo _) fun _ => h.markUpdate

theorem msgUpnpChange (arg : Option CStr) : T _ (msgUpnpChange arg) :=
  h.whenConnected arg fun arg => h.upnpUpdate (upnpBuf arg)

end Handling

/-! ## Disciplines -/

section Disciplines

variable {S : Type} {D : Discipline (Op P) (Ans P) S} {s : S}

/-- The operations that have to do neither with the mutex nor with the status or the update
flag. -/
def Op.neutral : Op P → Prop
  | .lock | .unlock | .getStatus | .setStatus _ | .getUpdate | .setUpdate _ => False
  | .modify f => KeepsFlags f
  | _ => True

theorem Op.neutral_of_plain {o : Op P} (h : o.plain) : o.neutral := by
  cases o <;> first | exact h.elim | exact h

theorem obeys_perform {o : Op P} (h : D s o = some fun _ => s) : (perform o).Obeys D s s :=
  ⟨_, h, fun _ => rfl⟩

theorem obeys_ite {c : Prop} [Decidable c] {p q : CloudM P α} (hp : p.Obeys D s s)
    (hq : q.Obeys D s s) : (if c then p else q).Obeys D s s :=
  Prog.Obeys.ite (fun _ => hp) fun _ => hq

/-- The operations of `cloud_send_packet`. -/
def Op.sending : Op P → Prop
  | .logTooLarge _ | .stack _ | .get | .tcpWrite .. | .recvPacket (.reply ..) .. | .crash => True
  | _ => False

theorem Op.neutral_of_sending {o : Op P} (h : o.sending) : o.neutral := by
  cases o <;> first | exact h.elim | trivial

/-- A discipline that is not concerned with the exchange of packets. -/
theorem obeys_cloudSendPacket (h : ∀ o : Op P, o.sending → D s o = some fun _ => s) (cmd : ℕ)
    (data : CStr) (flags : ℕ) (res : List UInt8) :
    (cloudSendPacket cmd data flags res : CloudM P _).Obeys D s s := by
  have hop : ∀ o : Op P, o.sending → (perform o).Obeys D s s := fun o ho => obeys_perform (h o ho)
  have hpure : ∀ r : ℤ × List UInt8, (pure r : CloudM P _).Obeys D s s := fun _ => rfl
  unfold cloudSendPacket
  refine obeys_ite (.bind (hop (.logTooLarge _) trivial) fun _ => hpure _) ?_
  refine .bind (hop (.stack _) trivial) fun _ => .bind (hop .get trivial) fun _ => ?_
  refine .bind (hop (.tcpWrite ..) trivial) fun _ => obeys_ite (hpure _) (obeys_ite (hpure _) ?_)
  refine .bind (hop .get trivial) fun _ => .bind (hop (.recvPacket ..) trivial) fun _ => ?_
  exact obeys_ite (hpure _) (obeys_ite (.bind (hop .crash trivial) fun _ => hpure _) (hpure _))

/-- **A discipline that is concerned with the mutex, the status and the update flag only.** -/
theorem plain_of_neutral (h : ∀ o : Op P, o.neutral → D s o = some fun _ => s) :
    Plain fun α (p : CloudM P α) => p.Obeys D s s where
  pure _ := rfl
  bind hp hf := hp.bind hf
  perform o ho := obeys_perform (h o (Op.neutral_of_plain ho))
  modify hf := obeys_perform (h (.modify _) hf)
  sendPacket := obeys_cloudSendPacket fun o ho => h o (Op.neutral_of_sending ho)
  recvControl _ _ := obeys_perform (h (.recvPacket ..) trivial)

/-- And the mutex and the writing of the status do not matter to it. -/
theorem locking_of_neutral (h : ∀ o : Op P, o.neutral → D s o = some fun _ => s)
    (hlock : D s .lock = some fun _ => s) (hunlock : D s .unlock = some fun _ => s)
    (hset : ∀ st, st ≠ .restart → D s (.setStatus st) = some fun _ => s) :
    Locking fun α (p : CloudM P α) => p.Obeys D s s where
  toPlain := plain_of_neutral h
  setStatus hst := (obeys_perform hlock).bind fun _ =>
    (obeys_perform (hset _ hst)).bind fun _ => obeys_perform hunlock
  receive := by
    intro _ buf _ hk
    exact (obeys_perform hlock).bind fun _ => ((plain_of_neutral h).receiveControl buf).bind
      fun r => (obeys_perform hunlock).bind fun _ => hk r

/-- The reading of the status does not matter either. -/
theorem calling_of_neutral (h : ∀ o : Op P, o.neutral → D s o = some fun _ => s)
    (hlock : D s .lock = some fun _ => s) (hunlock : D s .unlock = some fun _ => s)
    (hset : ∀ st, st ≠ .restart → D s (.setStatus st) = some fun _ => s)
    (hget : D s .getStatus = some fun _ => s) :
    Calling fun α (p : CloudM P α) => p.Obeys D s s where
  toLocking := locking_of_neutral h hlock hunlock hset
  getStatus := (obeys_perform hlock).bind fun _ => (obeys_perform hget).bind fun _ =>
    (obeys_perform hunlock).bind fun _ => rfl

/-- A discipline to which nothing matters that a handler does. -/
theorem handling_of_neutral
    (hinfo : ∀ f : DevInfo P → DevInfo P,
      D s (.modify fun c => { c with devinfo := f c.devinfo }) = some fun _ => s)
    (hlock : D s .lock = some fun _ => s) (hunlock : D s .unlock = some fun _ => s)
    (hset : D s (.setStatus .restart) = some fun _ => s)
    (hget : D s .getStatus = some fun _ => s) (hmark : D s (.setUpdate true) = some fun _ => s) :
    Handling fun α (p : CloudM P α) => p.Obeys D s s where
  pure _ := rfl
  bind hp hf := hp.bind hf
  setInfo f := obeys_perform (hinfo f)
  getStatus := (obeys_perform hlock).bind fun _ => (obeys_perform hget).bind fun _ =>
    (obeys_perform hunlock).bind fun _ => rfl
  setRestart := (obeys_perform hlock).bind fun _ => (obeys_perform hset).bind fun _ =>
    obeys_perform hunlock
  markUpdate := (obeys_perform hlock).bind fun _ => (obeys_perform hmark).bind fun _ =>
    obeys_perform hunlock
  upnpUpdate buf := (obeys_perform hlock).bind fun _ =>
    (obeys_perform (hinfo (upnpInfo buf))).bind fun _ =>
    (obeys_perform hmark).bind fun _ => obeys_perform hunlock

end Disciplines

end SwCloud
