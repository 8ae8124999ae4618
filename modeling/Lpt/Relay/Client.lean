import Lpt.Relay.Socket

/-!
# The relay client

`relay_client` takes the answer of a camera and sends it on to the relay server.  The head
of the answer is replaced by the head of a `POST` request; what follows it is sent as it
was received, as far as a text goes.

One iteration of the loop of `process_relay` is one definition, and a `Round` is what the
operating system gives to the calls in it.
-/

namespace HttpRelay

open CLib

/-- `MAXLINE`. -/
abbrev maxLine : ℕ := 4096

namespace Client

/-- `MAXSUB`. -/
abbrev maxSub : ℕ := 200

/-- `REMOTE_IP`. -/
def remoteIp : CStr := CStr.lit "192.168.1.1"

/-- What the head of a response is known by. -/
def httpVersion : List UInt8 := text "HTTP/1.0"

/-- The text in `headline` after `snprintf`. -/
def headline : CStr :=
  (CStr.lit "POST /setaudio HTTP/1.0\r\n" ++ CStr.lit "Host: " ++ remoteIp ++
    CStr.lit ":8080\r\n" ++ CStr.lit "Content-Type: audio/x-wav\r\n" ++
    CStr.lit "Content-length: 115200000\r\n\r\n" ++ CStr.lit "RIFF2WAVEfmt ").take (maxSub - 1)

/-- `tcp_send`: its result, and the bytes that have been sent. -/
def tcpSend (buf : List UInt8) (es : List SendEv) : Option (ℤ × List UInt8) :=
  (sendLoop buf es).map fun r => (if r.2 = true then -1 else 0, r.1)

/-- `process_local`: its result, and the bytes that have been sent to the relay server.
`recvline` is the uninitialised buffer. -/
def processLocal (recvline : Frame (maxLine + 1)) (r : Recv) (es : List SendEv) :
    Option (ℤ × List UInt8) :=
  match r with
  | .wouldBlock => some (1, [])
  | .error | .closed => some (-1, [])
  | .data bs =>
      let mem := recvline.stored bs
      if startsWith mem 0 httpVersion = true then tcpSend headline.bytes es
      else tcpSend (CStr.read mem).bytes es

/-- `process_remote`.  What it receives is only printed. -/
def processRemote : Recv → ℤ
  | .wouldBlock => 1
  | .error | .closed => -1
  | .data _ => 0

/-- What an iteration of the loop of `process_relay` is given. -/
structure Round where
  /-- The result of the first `select`. -/
  selectRead : ℤ
  localReadable : Bool
  remoteReadable : Bool
  /-- The result of the second. -/
  selectWrite : ℤ
  remoteWritable : Bool
  /-- For `process_local`. -/
  recvline : Frame (maxLine + 1)
  recvLocal : Recv
  sends : List SendEv
  /-- For `process_remote`. -/
  recvRemote : Recv

/-- `process_local` is called. -/
def Round.CallsLocal (c : Round) : Prop :=
  0 ≤ c.selectRead ∧ 0 ≤ c.selectWrite ∧ c.localReadable = true ∧ c.remoteWritable = true

instance (c : Round) : Decidable c.CallsLocal := inferInstanceAs (Decidable (_ ∧ _))

/-- One iteration of the loop of `process_relay`: whether it goes on, and what has been
sent to the relay server.  The result of `process_remote` takes the place of the one of
`process_local`. -/
def processRelay (c : Round) : Option (Bool × List UInt8) :=
  if c.selectRead < 0 then some (false, [])
  else if c.selectWrite < 0 then some (false, [])
  else
    (if c.localReadable = true ∧ c.remoteWritable = true then
      processLocal c.recvline c.recvLocal c.sends
    else some (c.selectWrite, [])).map fun r =>
      let ret := if c.remoteReadable = true then processRemote c.recvRemote else r.1
      (ret ≠ -1, r.2)

/-! ## What is sent -/

/-- The text that is sent for the bytes `bs`. -/
def relayed (recvline : Frame (maxLine + 1)) (bs : List UInt8) : List UInt8 :=
  if startsWith (recvline.stored bs) 0 httpVersion = true then headline.bytes
  else (CStr.read (recvline.stored bs)).bytes

section Sent

variable {c : Round} {go : Bool} {out : List UInt8}

theorem tcpSend_eq {buf wire : List UInt8} {es : List SendEv} {ret : ℤ}
    (h : tcpSend buf es = some (ret, wire)) (he : .error ∉ es) : wire = buf := by
  obtain ⟨⟨w, failed⟩, hloop, heq⟩ := Option.map_eq_some_iff.1 h
  cases heq
  exact (sendLoop_eq hloop he).1

/-- `process_local` passes the text for what it has received to `tcp_send`. -/
theorem processLocal_of_data (recvline : Frame (maxLine + 1)) (bs : List UInt8)
    (es : List SendEv) :
    processLocal recvline (.data bs) es = tcpSend (relayed recvline bs) es := by
  unfold processLocal relayed
  dsimp only
  split
  · rfl
  · rfl

/-- It sends all of it, if no `send` fails. -/
theorem processLocal_data {recvline : Frame (maxLine + 1)} {bs : List UInt8} {es : List SendEv}
    {ret : ℤ} (h : processLocal recvline (.data bs) es = some (ret, out)) (he : .error ∉ es) :
    out = relayed recvline bs := by
  rw [processLocal_of_data] at h
  exact tcpSend_eq h he

/-- And nothing if it has received nothing. -/
theorem processLocal_sent {recvline : Frame (maxLine + 1)} {r : Recv} {es : List SendEv} {ret : ℤ}
    (h : processLocal recvline r es = some (ret, out)) (he : .error ∉ es) :
    (∃ bs, r = .data bs ∧ out = relayed recvline bs) ∨ (r.bytes = [] ∧ out = []) := by
  cases r with
  | data bs => exact Or.inl ⟨bs, rfl, processLocal_data h he⟩
  | wouldBlock =>
    cases h
    exact Or.inr ⟨rfl, rfl⟩
  | error =>
    cases h
    exact Or.inr ⟨rfl, rfl⟩
  | closed =>
    cases h
    exact Or.inr ⟨rfl, rfl⟩

/-- **What an iteration sends**, if no `send` fails: the text for what `process_local` has
received, or nothing. -/
theorem processRelay_sent (h : processRelay c = some (go, out)) (he : .error ∉ c.sends) :
    (∃ bs, c.CallsLocal ∧ c.recvLocal = .data bs ∧ out = relayed c.recvline bs) ∨
      ((¬ c.CallsLocal ∨ c.recvLocal.bytes = []) ∧ out = []) := by
  unfold processRelay at h
  by_cases h₁ : c.selectRead < 0
  · rw [if_pos h₁] at h
    cases h
    exact Or.inr ⟨Or.inl fun hc => by have := hc.1; omega, rfl⟩
  rw [if_neg h₁] at h
  by_cases h₂ : c.selectWrite < 0
  · rw [if_pos h₂] at h
    cases h
    exact Or.inr ⟨Or.inl fun hc => by have := hc.2.1; omega, rfl⟩
  rw [if_neg h₂] at h
  obtain ⟨⟨ret, sent⟩, hlocal, heq⟩ := Option.map_eq_some_iff.1 h
  cases heq
  by_cases h₃ : c.localReadable = true ∧ c.remoteWritable = true
  · rw [if_pos h₃] at hlocal
    rcases processLocal_sent hlocal he with ⟨bs, hr, hsent⟩ | ⟨hr, hsent⟩
    · exact Or.inl ⟨bs, ⟨by omega, by omega, h₃⟩, hr, hsent⟩
    · exact Or.inr ⟨Or.inr hr, hsent⟩
  · rw [if_neg h₃] at hlocal
    cases hlocal
    exact Or.inr ⟨Or.inl fun hc => h₃ hc.2.2, rfl⟩

end Sent

end Client

end HttpRelay
