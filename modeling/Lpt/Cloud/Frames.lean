import Lpt.Cloud.Phrases
import Lpt.Cloud.Run

/-!
# Every packet is a frame

A reader of the stream has nothing to go by but the headers.  Whatever function of the module
writes a packet, its header belongs to the protocol and gives the length of what follows.

* `Framed` — such a header and its payload.
* `Frames` — a program writes nothing else.  It holds of the phrases that the module is made of,
  and so of every action.
-/

namespace SwCloud

open CLib Effect Trans

variable {P : CldProtocol}

/-- The header belongs to the protocol and gives the length of the payload, in words. -/
structure Framed (P : CldProtocol) (hdr : CldHdr) (payload : List UInt8) : Prop where
  magic_eq : hdr.magic = P.cldMagic
  ver_eq : hdr.ver = P.cldVer
  size_eq : hdr.size * 4 = payload.length
  /-- The rounding can go past the end of a packet by up to three bytes. -/
  length_le : P.sizeofCldhdr + payload.length ≤ P.cldMaxPktsize + 3

/-- All packets that the program writes are frames. -/
def Frames (α : Type) (p : CloudM P α) : Prop :=
  ∀ w a w', Runs p w a w' → Writes (fun _ _ hdr payload => Framed P hdr payload) w.trace w'.trace

/-- The operation writes no packet. -/
def Op.silent : Op P → Prop
  | .tcpWrite .. => False
  | _ => True

section Operations

variable {R : List Event → ℤ → CldHdr → List UInt8 → Prop} {w w' : World P}

theorem handle_writes {o : Op P} {i : Input} {x : Ans P o} (h : handle P o i w = some (x, w'))
    (ho : o.silent) : Writes R w.trace w'.trace := by
  have hr : Runs (perform o) w x w' := runs_perform.2 ⟨i, h⟩
  have hsame : w' = w → Writes R w.trace w'.trace := by
    rintro rfl
    exact .refl
  cases o with
  | get => exact hsame (runs_getCloud.1 hr).2
  | modify f => exact runs_modifyCloud.1 hr ▸ .refl
  | getStatus => exact hsame (runs_getStatus.1 hr).2
  | setStatus s => exact runs_setStatus.1 hr ▸ .refl
  | getUpdate => exact hsame (runs_getUpdate.1 hr).2
  | setUpdate b => exact runs_setUpdate.1 hr ▸ .refl
  | lock => exact hsame (runs_lock.1 hr)
  | unlock => exact hsame (runs_unlock.1 hr)
  | socket =>
    rcases runs_socket.1 hr with ⟨-, rfl⟩ | ⟨-, -, rfl⟩
    · exact .other .refl nofun
    · exact .other .refl nofun
  | connect fd => exact runs_connect.1 hr ▸ .other .refl nofun
  | readGreeting fd => exact runs_readGreeting.1 hr ▸ .other .refl nofun
  | close fd => exact runs_close.1 hr ▸ .other .refl nofun
  | tcpWrite fd hdr payload => exact ho.elim
  | recvPacket rc fd res => exact (runs_recvPacket hr).1 ▸ .other .refl nofun
  | select fd t => exact hsame (runs_select.1 hr)
  | sleep t => exact hsame (runs_sleep.1 hr)
  | stack n => exact hsame (runs_stack.1 hr).2
  | logTooLarge cmd => exact runs_logTooLarge.1 hr ▸ .other .refl nofun
  | crash => exact absurd hr not_runs_crash
  | sysConfGetLong key => exact hsame (runs_sysConfGetLong.1 hr).2
  | sysConfSetString key v =>
    rw [runs_sysConfSetString.1 hr, World.trace_setConf]
    exact .refl
  | swSystemSetProductName name => exact hsame (runs_swSystemSetProductName.1 hr)
  | swSystemSetProductNameCheck name => exact hsame (runs_swSystemSetProductNameCheck.1 hr)
  | swVideoCtrlGetResolution => exact hsame (runs_swVideoCtrlGetResolution.1 hr)
  | swVideoCtrlSetResolution a b => exact hsame (runs_swVideoCtrlSetResolution.1 hr)

theorem frames_perform (o : Op P) (ho : o.silent) : Frames _ (perform o) := by
  intro w a w' h
  obtain ⟨i, h⟩ := runs_perform.1 h
  exact handle_writes h ho

theorem frames_pure {α : Type} (a : α) : Frames α (pure a : CloudM P α) := by
  intro w b w' h
  obtain ⟨-, rfl⟩ := runs_pure.1 h
  exact .refl

theorem frames_bind {α β : Type} {p : CloudM P α} {f : α → CloudM P β} (hp : Frames α p)
    (hf : ∀ a, Frames β (f a)) : Frames β (p >>= f) := by
  intro w b w' h
  obtain ⟨a, w₁, h₁, h₂⟩ := runs_bind.1 h
  exact (hp _ _ _ h₁).trans (hf a _ _ _ h₂)

/-- The payload is as long as it has been rounded, with what lies behind the buffer. -/
theorem framed_packet {data : CStr} {past : List UInt8} (cmd flags : ℕ)
    (hfits : P.sizeofCldhdr + data.length < P.cldMaxPktsize)
    (hpast : past.length = P.sizeofCldhdr + padded data.length - P.cldMaxPktsize) :
    Framed P (packetHdr P cmd flags data) (packetPayload P data past) := by
  have hlen : (packetPayload P data past).length = padded data.length := by
    unfold packetPayload payloadOf
    rw [List.length_take, List.length_append, length_store, List.length_replicate, hpast]
    unfold CStr.length at hfits ⊢
    omega
  have hpad : padded data.length ≤ data.length + 4 ∧ padded data.length % 4 = 0 := by
    unfold padded
    omega
  refine ⟨rfl, rfl, ?_, ?_⟩
  · rw [hlen]
    show ((padded data.length : ℤ) / 4) * 4 = _
    omega
  · omega

/-- What `cloud_send_packet` writes is a frame. -/
theorem frames_cloudSendPacket (cmd : ℕ) (data : CStr) (flags : ℕ) (res : List UInt8) :
    Frames _ (cloudSendPacket cmd data flags res : CloudM P _) := by
  have hpure : ∀ r : ℤ × List UInt8, Frames _ (pure r : CloudM P _) := frames_pure
  unfold cloudSendPacket
  by_cases hbig : P.cldMaxPktsize ≤ P.sizeofCldhdr + data.length
  · rw [if_pos hbig]
    exact frames_bind (frames_perform (.logTooLarge cmd) trivial) fun _ => hpure _
  rw [if_neg hbig]
  intro w a w' h
  simp only [runs_bind, runs_stack, runs_getCloud] at h
  obtain ⟨past, _, ⟨hpast, rfl⟩, _, w, ⟨rfl, rfl⟩, ret, w₁, hw, h⟩ := h
  have hframe := framed_packet cmd flags (not_le.1 hbig) hpast
  have hwrote : Writes (fun _ _ hdr payload => Framed P hdr payload) w.trace w₁.trace := by
    rw [runs_tcpWritePacket hw]
    exact .wrote .refl hframe
  refine hwrote.trans ?_
  -- nothing is written behind it
  refine holds_ite (T := Frames) (hpure _) (holds_ite (hpure _) ?_) _ _ _ h
  refine frames_bind (frames_perform .get trivial) fun _ => ?_
  refine frames_bind (frames_perform (.recvPacket ..) trivial) fun _ => holds_ite (hpure _) ?_
  exact holds_ite (frames_bind (frames_perform .crash trivial) fun _ => hpure _) (hpure _)

end Operations

/-! ## The functions -/

section Functions

theorem frames_plain : Plain (Frames (P := P)) where
  pure := frames_pure
  bind := frames_bind
  perform o ho := frames_perform o (by cases o <;> first | exact ho.elim | trivial)
  modify _ := frames_perform (.modify _) trivial
  sendPacket := frames_cloudSendPacket
  recvControl _ _ := frames_perform (.recvPacket ..) trivial

/-- An operation under the mutex. -/
theorem frames_locked {α : Type} {o : Op P} (ho : o.silent) {k : Ans P o → CloudM P α}
    (hk : ∀ x, Frames α (k x)) : Frames α (do
      lock
      let x ← perform o
      unlock
      k x) := by
  refine frames_bind (frames_perform .lock trivial) fun _ => ?_
  refine frames_bind (frames_perform o ho) fun x => ?_
  exact frames_bind (frames_perform .unlock trivial) fun _ => hk x

theorem frames_setStatus (s : Status) : Frames Unit (cloudSetStatus s : CloudM P Unit) :=
  frames_locked (o := .setStatus s) trivial frames_pure

theorem frames_getStatus : Frames Status (cloudGetStatus : CloudM P Status) :=
  frames_locked (o := .getStatus) trivial frames_pure

theorem frames_calling : Calling (Frames (P := P)) where
  toPlain := frames_plain
  setStatus _ := frames_setStatus _
  getStatus := frames_getStatus
  receive := by
    intro _ buf _ hk
    refine frames_bind (frames_perform .lock trivial) fun _ => ?_
    refine frames_bind (frames_plain.receiveControl buf) fun r => ?_
    exact frames_bind (frames_perform .unlock trivial) fun _ => hk r

theorem frames_handling : Handling (Frames (P := P)) where
  pure := frames_pure
  bind := frames_bind
  setInfo _ := frames_perform (.modify _) trivial
  getStatus := frames_getStatus
  setRestart := frames_setStatus .restart
  markUpdate := frames_locked (o := .setUpdate true) trivial frames_pure
  upnpUpdate _ := frames_bind (frames_perform .lock trivial) fun _ =>
    frames_bind (frames_perform (.modify _) trivial) fun _ =>
    frames_bind (frames_perform (.setUpdate true) trivial) fun _ => frames_perform .unlock trivial

theorem frames_swCloudBind (user password devicename : Option CStr) :
    Frames _ (swCloudBind user password devicename : CloudM P CommonStatus) := by
  have h := frames_calling (P := P)
  have hreturn : ∀ err : CommonStatus, Frames _ (unlock >>= fun _ => pure err : CloudM P _) :=
    fun err => frames_bind (frames_perform .unlock trivial) fun _ => frames_pure err
  have hconnect : ∀ u p d : CStr, Frames _ (bindConnect u p d : CloudM P CommonStatus) := by
    intro u p d
    unfold bindConnect
    refine frames_bind h.cloudDoDisconnect fun _ => frames_bind h.cloudDoConnect fun _ => ?_
    refine holds_ite (frames_bind (h.bindConnected u p d) hreturn) ?_
    exact frames_bind h.cloudDoDisconnect fun _ => hreturn _
  unfold swCloudBind
  split
  · rename_i u p d
    refine frames_bind (frames_perform .lock trivial) fun _ => frames_bind h.getCloud fun _ => ?_
    refine holds_ite (frames_bind h.getStatus fun _ => ?_) (hconnect u p d)
    exact holds_ite (hreturn _) (hconnect u p d)
  · exact frames_pure _

theorem frames_cloudNeedUpdate : Frames Bool (cloudNeedUpdate : CloudM P Bool) := by
  unfold cloudNeedUpdate
  refine frames_bind (frames_perform .get trivial) fun _ => holds_ite (frames_pure _) ?_
  refine frames_bind (frames_perform .getUpdate trivial) fun _ => ?_
  exact frames_bind (frames_perform (.setUpdate false) trivial) fun _ => frames_pure _

/-- **Every action** writes nothing but frames. -/
theorem Action.frames (a : Action) : Frames Unit (a.prog P) := by
  have h := frames_calling (P := P)
  have hm := frames_handling (P := P)
  cases a with
  | daemon => exact h.cloudDaemon (h.daemonConnected frames_cloudNeedUpdate)
  | sysnameChange arg => exact hm.msgSysnameChange arg
  | networkChange arg => exact hm.msgNetworkChange arg
  | passwordChange arg => exact hm.msgPasswordChange arg
  | upnpChange arg => exact hm.msgUpnpChange arg
  | regUsr a u p => exact frames_bind (h.swCloudRegUsr a u p) fun _ => frames_pure _
  | bind u p d => exact frames_bind (frames_swCloudBind u p d) fun _ => frames_pure _
  | ubind => exact frames_bind h.swCloudUBind fun _ => frames_pure _
  | ping => exact frames_bind h.swCloudPing fun _ => frames_pure _

end Functions

end SwCloud
