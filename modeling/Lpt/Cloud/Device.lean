import Lpt.Cloud.Connection

/-!
# Device control: `network_device_control`

A packet that arrives outside any exchange is taken as a device-control request:
a route, one more byte, and a command.  The reply is built in the buffer of the
request, which is on the stack and not initialised.  `Control` lists everything a
call can come to.
-/

namespace SwCloud

open CLib Effect

variable {P : CldProtocol}

/-- The offset of `content` in the buffer. -/
def contentOff (P : CldProtocol) : ℕ := P.sizeofCldhdr + P.cldRtsize + 1

/-- The reply that every command sends: the text from the route on. -/
def sendControl (buf : List UInt8) : CloudM P ℤ := do
  let (ret, _) ← cloudSendPacket P.cldcmdDevctl (CStr.read (buf.drop P.sizeofCldhdr))
    P.pktflgResponse []
  if ret ≠ 0 then return -1
  else return 0

/-- `sprintf(content, ...)` of a text. -/
def putContent (P : CldProtocol) (buf t : List UInt8) : List UInt8 :=
  store buf (contentOff P) (t ++ [0])

/-- `ECHO\nWhat_ever_you_want`. -/
def controlEcho (buf : List UInt8) : CloudM P ℤ :=
  let request := contentOff P + 5
  -- memmove(content, request, strlen(request)+1)
  sendControl (putContent P buf (CStr.read (buf.drop request)).bytes)

/-- `RENAME\nNEWNAME\n`. -/
def controlRename (buf : List UInt8) : CloudM P ℤ := do
  let request := contentOff P + 7
  let t := strtokR buf request 10
  let ret ← swSystemSetProductName (CStr.read (t.mem.drop request))
  sendControl (putContent P t.mem (text (if ret = .succeed then "OK\n" else "ER\n")))

/-- `UNBIND\n`. -/
def controlUnbind (buf : List UInt8) : CloudM P ℤ := do
  let ret ← cloudDoUbind
  if ret = .succeed then do
    modifyCloud fun c => { c with binded := false }
    cloudSetStatus .connected
    sysConfSetString .account Field.zero
    sysConfSetString .password Field.zero
    sendControl (putContent P buf (text "OK\n"))
  else sendControl (putContent P buf (text "ER\n"))

/-- `GET_RESOLUTION\n`. -/
def controlGetResolution (buf : List UInt8) : CloudM P ℤ := do
  let (width, height) ← swVideoCtrlGetResolution
  sendControl (putContent P buf (decimal width ++ text "*" ++ decimal height))

/-- `RESOLUTION\nWIDTH\nHEIGHT\n`. -/
def controlResolution (buf : List UInt8) : CloudM P ℤ := do
  let w := strtokR buf (contentOff P + 11) 10
  let h := strtokR w.mem w.save 10
  match w.tok, h.tok with
  | some width, some height => do
      let ret ← swVideoCtrlSetResolution (atoi (CStr.read (h.mem.drop width)))
        (atoi (CStr.read (h.mem.drop height)))
      sendControl (putContent P h.mem (text (if ret = 0 then "OK\n" else "ER\n")))
  | _, _ => sendControl (putContent P h.mem (text "ER\n"))

/-- The part of `network_device_control` under the lock: the packet, if there is one. -/
def receiveControl (buf : List UInt8) : CloudM P (ℤ × List UInt8) := do
  let event ← networkReadEvent 1
  if event then do
    let c ← getCloud
    recvPacket .control c.fd buf
  else return (0, buf)

/-- `network_device_control`. -/
def networkDeviceControl : CloudM P ℤ := do
  let buf ← stack P.cldMaxPktsize
  lock
  let (ret, buf) ← receiveControl buf
  unlock
  if ret = 0 then return 0
  else if ret < 0 then return -1
  else if startsWith buf (contentOff P) (text "ECHO\n") then controlEcho buf
  else if startsWith buf (contentOff P) (text "RENAME\n") then controlRename buf
  else if startsWith buf (contentOff P) (text "UNBIND\n") then controlUnbind buf
  else if startsWith buf (contentOff P) (text "GET_RESOLUTION\n") then controlGetResolution buf
  else if startsWith buf (contentOff P) (text "RESOLUTION\n") then controlResolution buf
  else return 0

/-! ## What a call comes to -/

namespace World

/-- The world after an unbind that the server has acknowledged, with the status `s`
the caller goes to. -/
def unbound (w : World P) (s : Status) : World P :=
  (((w.modify fun c => { c with binded := false }).setStatus s).setConf
    .account Field.zero).setConf .password Field.zero

@[simp] theorem cloud_unbound (w : World P) (s : Status) :
    (w.unbound s).cloud = { w.cloud with binded := false, status := s } := rfl
@[simp] theorem conf_unbound (w : World P) (s : Status) :
    (w.unbound s).conf = { w.conf with account := Field.zero, password := Field.zero } := rfl
@[simp] theorem sockets_unbound (w : World P) (s : Status) :
    (w.unbound s).sockets = w.sockets := rfl
@[simp] theorem trace_unbound (w : World P) (s : Status) : (w.unbound s).trace = w.trace := rfl

end World

/-- What a command does before its reply is sent. -/
inductive Served (w : World P) : World P → Prop
  /-- Nothing that concerns the cloud. -/
  | other : Served w w
  /-- An unbind the server does not acknowledge. -/
  | refused {r : CommonStatus} {w₁ : World P} : Ubinds w r w₁ → r ≠ .succeed → Served w w₁
  /-- An unbind the server acknowledges. -/
  | unbound {w₁ : World P} : Ubinds w .succeed w₁ → Served w (w₁.unbound .connected)

/-- What the sending of a reply comes to. -/
inductive Responds (w : World P) : ℤ → World P → Prop
  | tooLarge : Responds w (-1) (w.log (.tooLarge P.cldcmdDevctl))
  | wrote {hdr : CldHdr} {payload : List UInt8} {t : CStr} {ret : ℤ} :
      Carries P P.cldcmdDevctl t hdr payload →
      Responds w (if ret = 0 then 0 else -1) (w.log (.wrote w.cloud.fd hdr payload ret))

/-- Everything that can become of `network_device_control`. -/
inductive Control (w : World P) : ℤ → World P → Prop
  /-- There is nothing to read after all. -/
  | idle : Control w 0 w
  /-- No packet can be read. -/
  | lost {ret : ℤ} {mem : List UInt8} : ret < 0 →
      Control w (-1) (w.log (.received .control w.cloud.fd ret mem))
  /-- A packet without a known command. -/
  | ignored {ret : ℤ} {mem : List UInt8} : 0 ≤ ret →
      Control w 0 (w.log (.received .control w.cloud.fd ret mem))
  /-- A command, and its reply. -/
  | replied {ret r : ℤ} {mem : List UInt8} {w₁ w₂ : World P} : 0 < ret →
      Served (w.log (.received .control w.cloud.fd ret mem)) w₁ → Responds w₁ r w₂ → Control w r w₂

/-- A response is not a request. -/
theorem CldProtocol.pktflgResponse_and (P : CldProtocol) :
    P.pktflgResponse &&& (P.pktflgNotify ||| P.pktflgResponse) ≠ 0 := by
  intro h0
  apply P.pktflgResponse_ne_zero
  apply Nat.eq_of_testBit_eq
  intro i
  have hbit := congrArg (Nat.testBit · i) h0
  simp only [Nat.testBit_and, Nat.testBit_or, Nat.zero_testBit] at hbit ⊢
  cases hb : P.pktflgResponse.testBit i <;> simp_all

section Lemmas

variable {w w' : World P}

theorem runs_sendControl {buf : List UInt8} {r : ℤ} (h : Runs (sendControl buf) w r w') :
    Responds w r w' := by
  simp only [sendControl, runs_bind] at h
  obtain ⟨⟨ret, res⟩, w₁, hs, h⟩ := h
  rcases runs_cloudSendPacket_response P.pktflgResponse_and hs with
    ⟨hret, rfl⟩ | ⟨hdr, payload, ret', hc, rfl, hret⟩
  · obtain rfl : ret = -1 := hret
    obtain ⟨rfl, rfl⟩ := h
    exact .tooLarge
  · simp only at hret
    rw [runs_ite, runs_pure, runs_pure] at h
    have hr : r = if ret' = 0 then 0 else -1 := by
      split_ifs at hret ⊢ <;> omega
    obtain rfl : w' = _ := h.elim (·.2.2) (·.2.2)
    rw [hr]
    exact .wrote hc

theorem runs_controlUnbind {buf : List UInt8} {r : ℤ} (h : Runs (controlUnbind buf) w r w') :
    ∃ w₁, Served w w₁ ∧ Responds w₁ r w' := by
  simp only [controlUnbind, runs_bind, runs_ite, runs_modifyCloud, runs_cloudSetStatus,
    runs_sysConfSetString] at h
  obtain ⟨ret, w₁, hu, h⟩ := h
  have hu := runs_cloudDoUbind hu
  rcases h with ⟨rfl, _, _, rfl, _, _, rfl, _, _, rfl, _, _, rfl, hs⟩ | ⟨hne, hs⟩
  · exact ⟨_, .unbound hu, runs_sendControl hs⟩
  · exact ⟨w₁, .refused hu hne, runs_sendControl hs⟩

/-- **Everything that can become of `network_device_control`.** -/
theorem runs_networkDeviceControl {r : ℤ} (h : Runs networkDeviceControl w r w') :
    Control w r w' := by
  simp only [networkDeviceControl, receiveControl, runs_bind, runs_stack, runs_lock,
    runs_unlock] at h
  obtain ⟨buf, _, ⟨-, rfl⟩, _, _, rfl, ⟨ret, mem⟩, w₂, ⟨event, w₁, he, hrecv⟩, _, _, rfl, h⟩ := h
  obtain ⟨rfl, -⟩ := runs_networkReadEvent he
  cases event with
  | false =>
    obtain ⟨heq, rfl⟩ := hrecv
    cases heq
    obtain ⟨rfl, rfl⟩ := h
    exact .idle
  | true =>
    simp only [if_true, runs_bind, runs_getCloud] at hrecv
    obtain ⟨_, _, ⟨rfl, rfl⟩, hrecv⟩ := hrecv
    obtain ⟨rfl, -⟩ := runs_recvPacket hrecv
    simp only [runs_ite, runs_pure] at h
    rcases h with ⟨rfl, rfl, rfl⟩ | ⟨hne, ⟨hneg, rfl, rfl⟩ | ⟨hpos, h⟩⟩
    · exact .ignored le_rfl
    · exact .lost hneg
    · have hret : 0 < ret := by omega
      rcases h with ⟨-, h⟩ | ⟨-, ⟨-, h⟩ | ⟨-, ⟨-, h⟩ | ⟨-, ⟨-, h⟩ | ⟨-, ⟨-, h⟩ | ⟨-, rfl, rfl⟩⟩⟩⟩⟩
      · exact .replied hret .other (runs_sendControl h)
      · simp only [controlRename, runs_bind, runs_swSystemSetProductName] at h
        obtain ⟨_, _, rfl, h⟩ := h
        exact .replied hret .other (runs_sendControl h)
      · obtain ⟨w₁, hs, hr⟩ := runs_controlUnbind h
        exact .replied hret hs hr
      · simp only [controlGetResolution, runs_bind, runs_swVideoCtrlGetResolution] at h
        obtain ⟨_, _, rfl, h⟩ := h
        exact .replied hret .other (runs_sendControl h)
      · simp only [controlResolution] at h
        split at h
        · simp only [runs_bind, runs_swVideoCtrlSetResolution] at h
          obtain ⟨_, _, rfl, h⟩ := h
          exact .replied hret .other (runs_sendControl h)
        · exact .replied hret .other (runs_sendControl h)
      · exact .ignored hret.le

end Lemmas

end SwCloud
