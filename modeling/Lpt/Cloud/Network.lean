import Mathlib.Logic.Function.Basic
import Lpt.Cloud.Exchange
import Lpt.Cloud.Framing
import Lpt.Cloud.Run

/-!
# The daemon, a caller and the server on one connection

Two threads run over one `Net`: the daemon, and a caller of `swCloudRegUsr` or
`swCloudUBind`.  A step is one operation of one of them, so that a packet is written
or read in one piece and everything else can be interleaved, or a packet the server
sends: a reply to a request it has received, or a DEVCTL request of its own.

Every connection has the bytes the server has sent on it and the device has not read,
each marked with what it belongs to.  The device does not see the marks: what it reads is
decided by `cloudRecvPacket` alone, and the record `taken` tells afterwards what the
bytes were.
-/

namespace SwCloud

open CLib Effect Trans

variable {P : CldProtocol}

/-! ## Packets of the server -/

/-- A packet as the server sends it: the header gives the length of the payload, and the
packet fits the device's buffers. -/
structure ServerPacket (P : CldProtocol) where
  hdr : CldHdr
  payload : List UInt8
  holds : P.Holds hdr
  size_eq : (payload.length : ℤ) = hdr.size * 4
  fits : P.sizeofCldhdr + payload.length ≤ P.cldMaxPktsize

/-- The bytes of the packet. -/
def ServerPacket.bytes (q : ServerPacket P) : List UInt8 := P.enc q.hdr ++ q.payload

/-- What `cloud_send_packet` copies to its caller when `cloud_recv_packet` has returned
`ret` and left `mem`, if it does not fail. -/
def acceptedPayload (P : CldProtocol) (ret : ℤ) (mem : List UInt8) : Option (List UInt8) :=
  if ret < 0 then none
  else some ((mem.drop P.sizeofCldhdr).take (sizeBytes P mem).toNat)

section Receiving

variable {res rest : List UInt8} {es : List ReadEv} {r : RecvResult}

/-- Nothing is received from an empty stream. -/
theorem cloudRecvPacket_nil (h : cloudRecvPacket P res [] es = some r) :
    r.ret = -1 ∧ r.stream = [] := by
  cases cloudRecvPacket_iff.1 h with
  | @noHeader r₁ h₁ _ => exact ⟨rfl, (List.append_eq_nil_iff.1 (tcpReadFrom_append h₁)).2⟩
  | @payload r₁ r₂ h₁ _ hlen _ =>
    have hpos := P.sizeofCldhdr_pos
    rw [(List.append_eq_nil_iff.1 (tcpReadFrom_append h₁)).1, List.length_nil] at hlen
    omega

/-- **The packet at the front of the stream.**  A call of `cloud_recv_packet` takes bytes
of this packet only; if it succeeds it has taken all of them, and the payload it has
stored is the payload of the packet. -/
theorem cloudRecvPacket_front (q : ServerPacket P)
    (h : cloudRecvPacket P res (q.bytes ++ rest) es = some r) :
    ∃ k ≤ q.bytes.length, r.stream = (q.bytes ++ rest).drop k ∧
      (0 ≤ r.ret → acceptedPayload P r.ret r.mem = some q.payload) := by
  have hmax := P.cldMaxPktsize_lt
  have hfits := q.fits
  have henc := P.enc_length q.hdr
  have hbytes : q.bytes.length = P.sizeofCldhdr + q.payload.length := by
    rw [ServerPacket.bytes, List.length_append, henc]
  cases cloudRecvPacket_iff.1 h with
  | @noHeader r₁ h₁ _ =>
    have hlen₁ := tcpReadFrom_length_le (Int.natCast_nonneg _) h₁
    refine ⟨r₁.bytes.length, by omega, ?_, fun h0 => absurd h0 (show ¬ (0 : ℤ) ≤ -1 by decide)⟩
    rw [← tcpReadFrom_append h₁, List.drop_left]
  | @payload r₁ r₂ h₁ _ hlen h₂ =>
    have hs₁ := tcpReadFrom_append h₁
    rw [ServerPacket.bytes, List.append_assoc] at hs₁
    obtain ⟨hb₁, hst₁⟩ := List.append_inj hs₁ (hlen.trans henc.symm)
    have hsize : sizeBytes P (P.enc q.hdr) = q.payload.length := by
      rw [sizeBytes, List.take_of_length_le henc.le, P.dec_enc _ q.holds,
        toInt32_eq (by have := q.size_eq; omega) (by have := q.size_eq; omega), q.size_eq]
    rw [hb₁, hsize] at h₂ ⊢
    have hs₂ := tcpReadFrom_append h₂
    have hlen₂ := tcpReadFrom_length_le (Int.natCast_nonneg _) h₂
    rw [Nat.cast_zero, zero_add] at hlen₂
    refine ⟨P.sizeofCldhdr + r₂.bytes.length, by omega, ?_, ?_⟩
    · rw [ServerPacket.bytes, List.append_assoc, ← hst₁, ← hs₂, ← List.drop_drop,
        List.drop_left' henc, List.drop_left]
    · intro h0
      have hret₂ : r₂.ret = 0 := by
        by_contra hret₂
        rw [if_neg hret₂] at h0
        exact absurd h0 (show ¬ (0 : ℤ) ≤ -1 by decide)
      have hpay : r₂.bytes = q.payload := by
        have hne : 0 < q.payload.length := by
          rcases Nat.eq_zero_or_pos q.payload.length with hz | hz
          · rw [hz] at h₂
            have := tcpRead_zero h₂
            omega
          · exact hz
        have hl := tcpReadFrom_length (by exact_mod_cast hne) h₂ hret₂
        rw [hst₁] at hs₂
        exact (List.append_inj hs₂ (by omega)).1
      have hmem := store_store res q.payload henc
      rw [acceptedPayload, if_neg (not_lt.2 h0), hpay, hmem, List.append_assoc,
        sizeBytes_append henc, hsize, List.drop_left' henc, Int.toNat_natCast, List.take_left]

end Receiving

/-! ## The network -/

/-- What a byte on a connection belongs to. -/
inductive Source where
  /-- The greeting of the connection. -/
  | greeting
  /-- The reply to the request with this number. -/
  | reply (id : ℕ)
  /-- A DEVCTL request of the server. -/
  | devctl
  deriving DecidableEq

/-- One connection, as the server and the kernel see it. -/
structure Conn where
  /-- The requests that have been received and not answered. -/
  owed : List ℕ
  /-- The bytes sent to the device and not read by it. -/
  inbox : List (UInt8 × Source)
  deriving DecidableEq

/-- What the device can read. -/
def Conn.stream (c : Conn) : List UInt8 := c.inbox.map Prod.fst

/-- The two threads. -/
inductive Tid where
  | daemon
  /-- A caller of `swCloudRegUsr` or `swCloudUBind`. -/
  | caller
  deriving DecidableEq

/-- The other thread. -/
def Tid.other : Tid → Tid
  | .daemon => .caller
  | .caller => .daemon

/-- Who has taken bytes from a connection. -/
inductive Reader where
  /-- `cloud_send_packet`, for the reply to this request. -/
  | request (id : Option ℕ)
  /-- `network_device_control`. -/
  | control
  /-- `cloud_do_connect`. -/
  | greeting
  deriving DecidableEq

/-- One read from a connection: who made it, what was consumed, and for
`cloud_send_packet` what it hands to its caller if it returns 0. -/
structure Taken where
  reader : Reader
  bytes : List (UInt8 × Source)
  accepted : Option (List UInt8)
  deriving DecidableEq

/-- What the threads share, and the record of what went wrong or right. -/
structure Net (P : CldProtocol) where
  world : World P
  /-- The connections, by their descriptors on the device. -/
  conns : ℤ → Conn
  /-- The thread that holds `cloud.lock`. -/
  holder : Option Tid
  /-- The request each thread waits for a reply to, and where it was sent. -/
  waiting : Tid → Option (ℤ × ℕ)
  /-- The number of requests sent, which is the number of the next one. -/
  sent : ℕ
  /-- The payloads of the replies that the server has sent. -/
  answers : List (ℕ × List UInt8)
  /-- Every read so far, newest first. -/
  taken : List Taken
  /-- What the server sends first on every connection. -/
  greeting : List UInt8

namespace Net

/-- The server sends `bs`, which belong to `src`. -/
def arrive (n : Net P) (fd : ℤ) (src : Source) (bs : List UInt8) : Net P :=
  { n with
    conns := Function.update n.conns fd
      ⟨(n.conns fd).owed, (n.conns fd).inbox ++ bs.map fun b => (b, src)⟩ }

/-- The server answers the request `id`. -/
def answered (n : Net P) (fd : ℤ) (id : ℕ) (q : ServerPacket P) : Net P :=
  { n with
    conns := Function.update n.conns fd
      ⟨(n.conns fd).owed.erase id, (n.conns fd).inbox ++ q.bytes.map fun b => (b, .reply id)⟩
    answers := (id, q.payload) :: n.answers }

/-- The thread `t` has sent a request. -/
def asked (n : Net P) (t : Tid) (fd : ℤ) : Net P :=
  { n with
    conns := Function.update n.conns fd
      ⟨(n.conns fd).owed ++ [n.sent], (n.conns fd).inbox⟩
    waiting := Function.update n.waiting t (some (fd, n.sent))
    sent := n.sent + 1 }

/-- The first `k` bytes of a connection are consumed. -/
def take (n : Net P) (fd : ℤ) (k : ℕ) (rd : Reader) (accepted : Option (List UInt8)) : Net P :=
  { n with
    conns := Function.update n.conns fd ⟨(n.conns fd).owed, (n.conns fd).inbox.drop k⟩
    taken := ⟨rd, (n.conns fd).inbox.take k, accepted⟩ :: n.taken }

/-- A new connection, nothing sent on it yet. -/
def opened (n : Net P) (fd : ℤ) : Net P :=
  { n with conns := Function.update n.conns fd ⟨[], []⟩ }

/-- `cloud_recv_packet` has returned, for the thread `t`. -/
def received (n : Net P) (t : Tid) (rc : Receiver) (fd : ℤ) (r : RecvResult) : Net P :=
  let k := (n.conns fd).inbox.length - r.stream.length
  match rc with
  | .reply _ _ =>
      { n.take fd k (.request ((n.waiting t).map Prod.snd)) (acceptedPayload P r.ret r.mem) with
        waiting := Function.update n.waiting t none }
  | .control => n.take fd k .control none

/-- `cloud_recv_packet` on the connection `fd`; a descriptor that is not open gives an
error. -/
def recv (n : Net P) (fd : ℤ) (res : List UInt8) (es : List ReadEv) : Option RecvResult :=
  if fd ∈ n.world.sockets then cloudRecvPacket P res (n.conns fd).stream es
  else some ⟨-1, res, (n.conns fd).stream, es⟩

end Net

/-- What an operation other than `cloud_recv_packet`, answered with `x`, does to what the
threads share besides the world. -/
def Net.effect (t : Tid) : (o : Op P) → Ans P o → Net P → Net P
  | .lock, _, n => { n with holder := some t }
  | .unlock, _, n => { n with holder := none }
  | .socket, r, n => if r = -1 then n else n.opened r
  | .connect fd, r, n => if r = 0 then n.arrive fd .greeting n.greeting else n
  | .readGreeting fd, r, n => n.take fd r.toNat .greeting none
  | .tcpWrite fd hdr _, r, n => if r = 0 ∧ IsRequest P hdr then n.asked t fd else n
  | _, _, n => n

/-- What the lock and the network allow: `cloud.lock` is held by one thread at a time
(none of the programs run here takes it twice), and the greeting is read with one call for
at most 32 bytes. -/
def Net.Allows (n : Net P) : (o : Op P) → Ans P o → Prop
  | .lock, _ => n.holder = none
  | .readGreeting fd, r =>
      0 < r → fd ∈ n.world.sockets ∧ r ≤ 32 ∧ r ≤ (n.conns fd).inbox.length
  | _, _ => True

instance (n : Net P) : (o : Op P) → (x : Ans P o) → Decidable (n.Allows o x)
  | .lock, _ => inferInstanceAs (Decidable (_ = _))
  | .readGreeting _, _ => inferInstanceAs (Decidable (_ → _))
  | .get, _ | .modify _, _ | .getStatus, _ | .setStatus _, _ | .getUpdate, _ | .setUpdate _, _
  | .unlock, _ | .socket, _ | .connect _, _ | .close _, _ | .tcpWrite .., _ | .recvPacket .., _
  | .select .., _ | .sleep _, _ | .stack _, _ | .logTooLarge _, _ | .crash, _
  | .sysConfGetLong _, _ | .sysConfSetString .., _ | .swSystemSetProductName _, _
  | .swSystemSetProductNameCheck _, _ | .swVideoCtrlGetResolution, _
  | .swVideoCtrlSetResolution .., _ => .isTrue trivial

/-- What one operation of the thread `t` does.  `cloud_recv_packet` reads what has arrived
on the connection; every other operation does to the world what `handle` says. -/
def handleNet (P : CldProtocol) (t : Tid) : Handler (Op P) (Ans P) Input (Net P)
  | .recvPacket rc fd res, i, n =>
      match i with
      | .reads _ es =>
          (n.recv fd res es).map fun r =>
            ((r.ret, r.mem),
              { n.received t rc fd r with world := n.world.log (.received rc fd r.ret r.mem) })
      | _ => none
  | o, i, n =>
      (handle P o i n.world).bind fun r =>
        if n.Allows o r.1 then some (r.1, { n.effect t o r.1 with world := r.2 }) else none

/-! ## Steps -/

/-- The daemon, the caller and what they share. -/
abbrev Sys (P : CldProtocol) : Type := Threads Tid (Op P) (Ans P) (Net P)

/-- What can happen next. -/
inductive NetAct (P : CldProtocol) where
  /-- The thread begins an iteration or a call. -/
  | begin (t : Tid) (a : Action)
  /-- The thread carries out its next operation. -/
  | exec (t : Tid) (i : Input)
  /-- The server answers a request. -/
  | reply (fd : ℤ) (id : ℕ) (q : ServerPacket P)
  /-- The server sends a DEVCTL request. -/
  | devctl (fd : ℤ) (q : ServerPacket P)

/-- What a thread may be asked to do. -/
def Tid.Runs : Tid → Action → Prop
  | .daemon, .daemon => True
  | .caller, .regUsr _ _ _ | .caller, .ubind => True
  | _, _ => False

instance : (t : Tid) → (a : Action) → Decidable (t.Runs a)
  | .daemon, .daemon | .caller, .regUsr _ _ _ | .caller, .ubind => .isTrue trivial
  | .daemon, .sysnameChange _ | .daemon, .networkChange _ | .daemon, .passwordChange _
  | .daemon, .upnpChange _ | .daemon, .regUsr .. | .daemon, .bind .. | .daemon, .ubind
  | .daemon, .ping | .caller, .daemon | .caller, .sysnameChange _ | .caller, .networkChange _
  | .caller, .passwordChange _ | .caller, .upnpChange _ | .caller, .bind .. | .caller, .ping =>
      .isFalse id

/-- The state after a step, if it is possible. -/
def netStep (c : Sys P) : NetAct P → Option (Sys P)
  | .begin t a => if t.Runs a then c.begin t (a.prog P) else none
  | .exec t i => c.exec (handleNet P) t i
  | .reply fd id q =>
      if id ∈ (c.shared.conns fd).owed then some (c.act (c.shared.answered fd id q)) else none
  | .devctl fd q => some (c.act (c.shared.arrive fd .devctl q.bytes))

/-- One step. -/
def NetStep (c : Sys P) (a : NetAct P) (c' : Sys P) : Prop := netStep c a = some c'

/-- The module after `cloud_init` and `cloud_start`, no thread at work and no connection
made. -/
def netStart (f : Conf P) (s : SysInfo P) (greeting : List UInt8) : Sys P :=
  ⟨⟨start f s, fun _ => ⟨[], []⟩, none, fun _ => none, 0, [], [], greeting⟩, fun _ => pure ()⟩

/-- A run of the threads and the server, newest step first. -/
abbrev NetRun (f : Conf P) (s : SysInfo P) (greeting : List UInt8)
    (h : List (Move (Sys P) (NetAct P))) (c : Sys P) : Prop :=
  Path NetStep (netStart f s greeting) h c

/-! ## Runs against a script -/

/-- A line of a script. -/
inductive Cue (P : CldProtocol) where
  /-- One step. -/
  | step (a : NetAct P)
  /-- The thread goes on until it has returned, or needs an input and there is none left. -/
  | run (t : Tid) (is : List Input)

/-- Let the thread `t` go on, for at most `fuel` operations. -/
def goOn (t : Tid) : ℕ → List Input → Sys P → List (Move (Sys P) (NetAct P)) →
    Option (List (Move (Sys P) (NetAct P)) × Sys P)
  | 0, _, c, h => some (h, c)
  | fuel + 1, is, c, h =>
      match (c.prog t).next.bind fun o => Prog.nextInput (quiet P o) is with
      | none => some (h, c)
      | some (i, is) =>
          (netStep c (.exec t i)).bind fun c' => goOn t fuel is c' (⟨c, .exec t i, c'⟩ :: h)

/-- Follow a script; the steps so far are `h`. -/
def replayNet : List (Cue P) → Sys P → List (Move (Sys P) (NetAct P)) →
    Option (List (Move (Sys P) (NetAct P)) × Sys P)
  | [], c, h => some (h, c)
  | .step a :: cues, c, h => (netStep c a).bind fun c' => replayNet cues c' (⟨c, a, c'⟩ :: h)
  | .run t is :: cues, c, h => (goOn t 100 is c h).bind fun r => replayNet cues r.2 r.1

section Lemmas

variable {t : Tid} {o : Op P} {i : Input} {x : Ans P o} {n n' : Net P}

/-- An operation other than `cloud_recv_packet`. -/
theorem handleNet_other (ho : ∀ rc fd res, o ≠ .recvPacket rc fd res)
    (h : handleNet P t o i n = some (x, n')) :
    ∃ w, handle P o i n.world = some (x, w) ∧ n.Allows o x ∧
      n' = { n.effect t o x with world := w } := by
  have key : ∀ {q : Option (Ans P o × Net P)}, q = some (x, n') →
      (q = (handle P o i n.world).bind fun r =>
        if n.Allows o r.1 then some (r.1, { n.effect t o r.1 with world := r.2 }) else none) →
      ∃ w, handle P o i n.world = some (x, w) ∧ n.Allows o x ∧
        n' = { n.effect t o x with world := w } := by
    intro q hq heq
    rw [hq] at heq
    obtain ⟨r, hr, hif⟩ := Option.bind_eq_some_iff.1 heq.symm
    split_ifs at hif with ha
    cases hif
    exact ⟨r.2, hr, ha, rfl⟩
  cases o with
  | recvPacket rc fd res => exact absurd rfl (ho rc fd res)
  | _ => exact key h rfl

/-- A call of `cloud_recv_packet`. -/
theorem handleNet_recvPacket {rc : Receiver} {fd : ℤ} {res : List UInt8} {x : ℤ × List UInt8}
    (h : handleNet P t (.recvPacket rc fd res) i n = some (x, n')) :
    ∃ s es r, i = .reads s es ∧ n.recv fd res es = some r ∧ x = (r.ret, r.mem) ∧
      n' = { n.received t rc fd r with world := n.world.log (.received rc fd r.ret r.mem) } := by
  cases i with
  | reads s es =>
    obtain ⟨r, hr, heq⟩ := Option.map_eq_some_iff.1 h
    cases heq
    exact ⟨s, es, r, rfl, hr, rfl, rfl⟩
  | _ => cases h

/-- **A thread does to the module what the sequential semantics says.**  Interleaving
changes which operation is next, not what an operation does. -/
theorem handleNet_handle (h : handleNet P t o i n = some (x, n')) :
    ∃ i', handle P o i' n.world = some (x, n'.world) := by
  by_cases ho : ∀ rc fd res, o ≠ .recvPacket rc fd res
  · obtain ⟨w, hw, -, rfl⟩ := handleNet_other ho h
    exact ⟨i, hw⟩
  · simp only [not_forall, not_not] at ho
    obtain ⟨rc, fd, res, rfl⟩ := ho
    obtain ⟨s, es, r, rfl, hr, rfl, rfl⟩ := handleNet_recvPacket h
    refine ⟨.reads (n.conns fd).stream es, ?_⟩
    unfold Net.recv at hr
    change (if fd ∈ n.world.sockets then _ else _) = _
    split_ifs at hr ⊢ with hfd
    · rw [hr]
      rfl
    · cases hr
      rfl

variable {c₀ c c' : Sys P} {h h' : List (Move (Sys P) (NetAct P))}

theorem goOn_path {fuel : ℕ} {is : List Input} (hp : Path NetStep c₀ h c)
    (hr : goOn t fuel is c h = some (h', c')) : Path NetStep c₀ h' c' := by
  induction fuel generalizing is c h with
  | zero =>
    cases hr
    exact hp
  | succ fuel ih =>
    unfold goOn at hr
    split at hr
    · cases hr
      exact hp
    · obtain ⟨c₁, hs, hr⟩ := Option.bind_eq_some_iff.1 hr
      exact ih (hp.snoc hs) hr

/-- What a script shows is a run. -/
theorem replayNet_path {cues : List (Cue P)} (hp : Path NetStep c₀ h c)
    (hr : replayNet cues c h = some (h', c')) : Path NetStep c₀ h' c' := by
  induction cues generalizing c h with
  | nil =>
    cases hr
    exact hp
  | cons cue cues ih =>
    cases cue with
    | step a =>
      obtain ⟨c₁, hs, hr⟩ := Option.bind_eq_some_iff.1 hr
      exact ih (hp.snoc hs) hr
    | run t is =>
      obtain ⟨r, hg, hr⟩ := Option.bind_eq_some_iff.1 hr
      exact ih (goOn_path hp hg) hr

end Lemmas

/-- A script from the start that shows a run with the property `Q`. -/
theorem exists_netRun (f : Conf P) (s : SysInfo P) (greeting : List UInt8) (cues : List (Cue P))
    (Q : List (Move (Sys P) (NetAct P)) × Sys P → Prop) [DecidablePred Q]
    (hq : (replayNet cues (netStart f s greeting) []).any (fun r => decide (Q r)) = true) :
    ∃ h c, NetRun f s greeting h c ∧ Q (h, c) := by
  cases hr : replayNet cues (netStart f s greeting) [] with
  | none =>
    rw [hr] at hq
    cases hq
  | some r =>
    rw [hr] at hq
    exact ⟨r.1, r.2, replayNet_path .start hr, of_decide_eq_true hq⟩

/-! ## A sample -/

/-- A packet of the server with a payload of four bytes. -/
def samplePacket (text : CStr) : ServerPacket sampleProtocol where
  hdr := ⟨77, 1, 0, 2, 1⟩
  payload := (text.bytes ++ [0, 0, 0, 0]).take 4
  holds := by simp [sampleProtocol, SampleHolds]
  size_eq := by simp
  fits := by simp [sampleProtocol]

/-- The first iterations of the daemon of a bound device: the server greets the new
connection, and answers AUTH and UPDEV with `OK`. -/
def connectCues : List (Cue sampleProtocol) :=
  [.step (.begin .daemon .daemon), .run .daemon [],
    .step (.begin .daemon .daemon),
    .run .daemon [.int 3, .int 0, .int 1, .bytes [], .writes [.sent 64]],
    .step (.reply 3 0 (samplePacket (CStr.lit "OK"))),
    .run .daemon [.reads [] [.data 8, .data 4], .bytes [], .writes [.sent 64]],
    .step (.reply 3 1 (samplePacket (CStr.lit "OK"))),
    .run .daemon [.reads [] [.data 8, .data 4]]]

/-- A call of `swCloudRegUsr` on the connection of the daemon, up to its request. -/
def regUsrCues : List (Cue sampleProtocol) :=
  [.step (.begin .caller
      (.regUsr (some (CStr.lit "b")) (some (CStr.lit "c")) (some (CStr.lit "d")))),
    .run .caller [.bytes (List.replicate 36 0), .bytes [], .writes [.sent 64]]]

end SwCloud
