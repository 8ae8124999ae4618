import Lpt.Cloud.Ops

/-!
# `cloud_send_packet`: one request and its reply

`cloud_send_packet` frames a text, writes it, and, unless the packet is flagged as
a notification or a response, reads the next packet of the connection into the
caller's buffer.  `Exchange` lists everything a request can come to: it is too
large for a packet, it cannot be written, no reply can be read, or a packet is
read that is taken as the reply.  The text that went out is always the whole text
(`Carries`).
-/

namespace SwCloud

open CLib Effect

variable {P : CldProtocol}

/-- A zeroed buffer of `CLD_MAX_PKTSIZE` bytes that holds the text `data`. -/
def textBuf (P : CldProtocol) (data : CStr) : List UInt8 :=
  store (List.replicate P.cldMaxPktsize 0) 0 data.bytes

/-- The payload of `cloud_send_packet`: the first `size` bytes of the buffer after the
header, which is zeroed before the text is put in, and of what lies past its end. -/
def payloadOf (P : CldProtocol) (data : CStr) (size : ℕ) (past : List UInt8) : List UInt8 :=
  (store (List.replicate (P.cldMaxPktsize - P.sizeofCldhdr) 0) 0 data.bytes ++ past).take size

/-- `size += 4; size &= ~3`. -/
def padded (size : ℕ) : ℕ := (size + 4) / 4 * 4

/-- `cloud_send_packet`: the return value and the memory from `res` on.  The
parameter `subcmd` of the source is not used by it. -/
def cloudSendPacket (cmd : ℕ) (data : CStr) (flags : ℕ) (res : List UInt8) :
    CloudM P (ℤ × List UInt8) :=
  if P.cldMaxPktsize ≤ P.sizeofCldhdr + data.length then do
    logTooLarge cmd
    return (-1, res)
  else do
    let size := padded data.length
    let hdr : CldHdr := ⟨P.cldMagic, P.cldVer, cmd, flags, size / 4⟩
    -- the rounding can go past the end of the buffer by up to three bytes
    let past ← stack (P.sizeofCldhdr + size - P.cldMaxPktsize)
    let payload := payloadOf P data size past
    let c ← getCloud
    let ret ← tcpWritePacket c.fd hdr payload
    if ret ≠ 0 then return (-1, res)
    else if flags &&& (P.pktflgNotify ||| P.pktflgResponse) ≠ 0 then return (0, res)
    else do
      let c ← getCloud
      let (ret, buf) ← recvPacket (.reply hdr payload) c.fd
        (store (List.replicate P.cldMaxPktsize 0) 0 (P.enc hdr ++ payload))
      if ret < 0 then return (-1, res)
      else if sizeBytes P buf < 0 then do
        -- `memcpy` of a negative length
        crash
        return (-1, res)
      else
        return (0, store res 0 ((buf.drop P.sizeofCldhdr).take (sizeBytes P buf).toNat))

/-! ## What a request comes to -/

/-- A packet of the command `cmd` whose payload, read as a string, is `t`. -/
structure Carries (P : CldProtocol) (cmd : ℕ) (t : CStr) (hdr : CldHdr) (payload : List UInt8) :
    Prop where
  cmd_eq : hdr.cmd = cmd
  text_eq : CStr.read payload = t
  fits : P.sizeofCldhdr + t.length < P.cldMaxPktsize

/-- Everything that can become of a request: the packet read in reply, if there is
one, and the next world. -/
inductive Exchange (cmd : ℕ) (t : CStr) (w : World P) : Option (List UInt8) → World P → Prop
  | tooLarge : P.cldMaxPktsize ≤ P.sizeofCldhdr + t.length →
      Exchange cmd t w none (w.log (.tooLarge cmd))
  | writeFailed {hdr : CldHdr} {payload : List UInt8} {ret : ℤ} : Carries P cmd t hdr payload →
      ret ≠ 0 → Exchange cmd t w none (w.log (.wrote w.cloud.fd hdr payload ret))
  | noReply {hdr : CldHdr} {payload mem : List UInt8} {ret : ℤ} : Carries P cmd t hdr payload →
      ret < 0 → Exchange cmd t w none
        ((w.log (.wrote w.cloud.fd hdr payload 0)).log
          (.received (.reply hdr payload) w.cloud.fd ret mem))
  | answered {hdr : CldHdr} {payload mem : List UInt8} {ret : ℤ} : Carries P cmd t hdr payload →
      0 ≤ ret → w.cloud.fd ∈ w.sockets → Exchange cmd t w (some mem)
        ((w.log (.wrote w.cloud.fd hdr payload 0)).log
          (.received (.reply hdr payload) w.cloud.fd ret mem))

/-- The payload of the packet in `mem`. -/
def replyPayload (P : CldProtocol) (mem : List UInt8) : List UInt8 :=
  (mem.drop P.sizeofCldhdr).take (sizeBytes P mem).toNat

/-- The header of a packet with the text `t`. -/
def packetHdr (P : CldProtocol) (cmd flags : ℕ) (t : CStr) : CldHdr :=
  ⟨P.cldMagic, P.cldVer, cmd, flags, padded t.length / 4⟩

/-- The payload of a packet with the text `t`, when `past` lies behind the buffer. -/
def packetPayload (P : CldProtocol) (t : CStr) (past : List UInt8) : List UInt8 :=
  payloadOf P t (padded t.length) past

/-- Everything that can become of a request, byte by byte: what `cloud_send_packet` returns
and leaves in `res`, and the next world. -/
inductive Transmits (cmd : ℕ) (t : CStr) (res : List UInt8) (w : World P) :
    ℤ × List UInt8 → World P → Prop
  | tooLarge : P.cldMaxPktsize ≤ P.sizeofCldhdr + t.length →
      Transmits cmd t res w (-1, res) (w.log (.tooLarge cmd))
  | writeFailed {past : List UInt8} {ret : ℤ} :
      P.sizeofCldhdr + t.length < P.cldMaxPktsize → ret ≠ 0 →
      Transmits cmd t res w (-1, res)
        (w.log (.wrote w.cloud.fd (packetHdr P cmd 0 t) (packetPayload P t past) ret))
  | noReply {past mem : List UInt8} {ret : ℤ} :
      P.sizeofCldhdr + t.length < P.cldMaxPktsize → ret < 0 →
      Transmits cmd t res w (-1, res)
        ((w.log (.wrote w.cloud.fd (packetHdr P cmd 0 t) (packetPayload P t past) 0)).log
          (.received (.reply (packetHdr P cmd 0 t) (packetPayload P t past)) w.cloud.fd ret mem))
  | answered {past : List UInt8} {r : RecvResult} :
      P.sizeofCldhdr + t.length < P.cldMaxPktsize → 0 ≤ r.ret → w.cloud.fd ∈ w.sockets →
      Received P r → 0 ≤ sizeBytes P r.mem →
      Transmits cmd t res w (0, store res 0 (replyPayload P r.mem))
        ((w.log (.wrote w.cloud.fd (packetHdr P cmd 0 t) (packetPayload P t past) 0)).log
          (.received (.reply (packetHdr P cmd 0 t) (packetPayload P t past)) w.cloud.fd
            r.ret r.mem))

/-- The packet in `mem` begins its payload with `OK`, in any case. -/
def ReplyOk (P : CldProtocol) (mem : List UInt8) : Prop :=
  strncaseEq (mem.drop P.sizeofCldhdr) (text "OK") 2 = true

instance (mem : List UInt8) : Decidable (ReplyOk P mem) := inferInstanceAs (Decidable (_ = true))

section Lemmas

variable {w w' : World P}

theorem runs_tcpWritePacket {fd : ℤ} {hdr : CldHdr} {payload : List UInt8} {r : ℤ}
    (h : Runs (tcpWritePacket fd hdr payload) w r w') : w' = w.log (.wrote fd hdr payload r) := by
  obtain ⟨i, h⟩ := runs_perform.1 h
  cases i with
  | writes es =>
    change (if fd ∈ w.sockets then (tcpWrite (P.enc hdr ++ payload) es).map fun r =>
        (r.ret, w.log (.wrote fd hdr payload r.ret))
      else some (-1, w.log (.wrote fd hdr payload (-1)))) = _ at h
    split_ifs at h
    · obtain ⟨r', -, hr'⟩ := Option.map_eq_some_iff.1 h
      cases hr'
      rfl
    · cases h
      rfl
  | _ => cases h

theorem runs_recvPacket {rc : Receiver} {fd : ℤ} {res : List UInt8} {r : ℤ × List UInt8}
    (h : Runs (recvPacket rc fd res) w r w') :
    w' = w.log (.received rc fd r.1 r.2) ∧ (0 ≤ r.1 → fd ∈ w.sockets ∧
      ∃ r', Received P r' ∧ r = (r'.ret, r'.mem)) := by
  obtain ⟨i, h⟩ := runs_perform.1 h
  cases i with
  | reads s es =>
    change (if fd ∈ w.sockets then (cloudRecvPacket P res s es).map fun r =>
        ((r.ret, r.mem), w.log (.received rc fd r.ret r.mem))
      else some ((-1, res), w.log (.received rc fd (-1) res))) = _ at h
    split_ifs at h with hfd
    · obtain ⟨r', hr', heq⟩ := Option.map_eq_some_iff.1 h
      cases heq
      exact ⟨rfl, fun h0 => ⟨hfd, r', cloudRecvPacket_received hr' h0, rfl⟩⟩
    · cases h
      exact ⟨rfl, fun h0 => absurd h0 (by simp)⟩
  | _ => cases h

theorem lt_padded (n : ℕ) : n < padded n := by
  rw [padded]
  omega

/-- The text is followed by a zero inside the buffer, so it is what a reader of the
payload finds. -/
theorem read_payloadOf {data : CStr} (h : P.sizeofCldhdr + data.length < P.cldMaxPktsize)
    (past : List UInt8) : CStr.read (payloadOf P data (padded data.length) past) = data := by
  obtain ⟨k, hk⟩ : ∃ k, P.cldMaxPktsize - P.sizeofCldhdr = data.length + (k + 1) :=
    ⟨P.cldMaxPktsize - P.sizeofCldhdr - data.length - 1, by omega⟩
  obtain ⟨n, hn⟩ : ∃ n, padded data.length = data.bytes.length + (n + 1) :=
    ⟨padded data.length - data.length - 1, by
      have := lt_padded data.length
      rw [CStr.length] at *
      omega⟩
  rw [payloadOf, hk, hn, store_zero, List.drop_replicate, CStr.length, Nat.add_sub_cancel_left,
    List.replicate_succ, List.append_assoc, List.take_length_add_append, List.cons_append,
    List.take_succ_cons]
  exact CStr.read_append_nul _ _

/-- What `cloud_send_packet` writes carries its text. -/
theorem carries_packet {cmd : ℕ} {data : CStr} (flags : ℕ)
    (h : P.sizeofCldhdr + data.length < P.cldMaxPktsize) (past : List UInt8) :
    Carries P cmd data (packetHdr P cmd flags data) (packetPayload P data past) :=
  ⟨rfl, read_payloadOf h past, h⟩

/-- A string comparison of the first `n` characters looks at the first `n` bytes only. -/
theorem strncaseEq_take {m m' key : List UInt8} {n : ℕ} (h : m.take n = m'.take n) :
    strncaseEq m key n = strncaseEq m' key n := by
  have key' : ∀ (m : List UInt8) (n : ℕ),
      (CStr.read m).bytes.take n = (CStr.read (m.take n)).bytes := by
    intro m
    induction m with
    | nil => intro n; simp [CStr.read]
    | cons c m ih =>
      intro n
      cases n with
      | zero => simp [CStr.read]
      | succ n =>
        simp only [CStr.read, List.take_succ_cons, List.takeWhile_cons] at ih ⊢
        split
        · rw [List.take_succ_cons, ih]
        · rfl
  rw [strncaseEq, strncaseEq, key' m, key' m', h]

/-- What is copied to the caller begins like the payload of the packet received. -/
theorem strncaseEq_store {r : RecvResult} (hr : Received P r) (h0 : 0 ≤ sizeBytes P r.mem)
    (res : List UInt8) :
    strncaseEq (store res 0 ((r.mem.drop P.sizeofCldhdr).take (sizeBytes P r.mem).toNat))
      (text "OK") 2 = strncaseEq (r.mem.drop P.sizeofCldhdr) (text "OK") 2 := by
  have hpos := hr.size_pos
  have hlen := hr.length_le
  -- a length is at least one word
  have h4 : 2 ≤ (sizeBytes P r.mem).toNat := by
    rw [sizeBytes, toInt32, Int.bmod_def] at *
    split_ifs at * <;> omega
  apply strncaseEq_take
  have hle : 2 ≤ ((r.mem.drop P.sizeofCldhdr).take (sizeBytes P r.mem).toNat).length := by
    simp only [List.length_take, List.length_drop]
    omega
  rw [store_zero, List.take_append_of_le_length hle, List.take_take, Nat.min_eq_left h4]

/-- **Everything a call of `cloud_send_packet` can do.** -/
inductive SendCase (cmd : ℕ) (data : CStr) (flags : ℕ) (res : List UInt8) (w : World P) :
    ℤ × List UInt8 → World P → Prop
  | tooLarge : P.cldMaxPktsize ≤ P.sizeofCldhdr + data.length →
      SendCase cmd data flags res w (-1, res) (w.log (.tooLarge cmd))
  | writeFailed {past : List UInt8} {ret : ℤ} :
      P.sizeofCldhdr + data.length < P.cldMaxPktsize → ret ≠ 0 →
      SendCase cmd data flags res w (-1, res)
        (w.log (.wrote w.cloud.fd (packetHdr P cmd flags data) (packetPayload P data past) ret))
  /-- A packet that is not a request is not answered. -/
  | flagged {past : List UInt8} : P.sizeofCldhdr + data.length < P.cldMaxPktsize →
      flags &&& (P.pktflgNotify ||| P.pktflgResponse) ≠ 0 →
      SendCase cmd data flags res w (0, res)
        (w.log (.wrote w.cloud.fd (packetHdr P cmd flags data) (packetPayload P data past) 0))
  | noReply {past mem : List UInt8} {ret : ℤ} :
      P.sizeofCldhdr + data.length < P.cldMaxPktsize →
      flags &&& (P.pktflgNotify ||| P.pktflgResponse) = 0 → ret < 0 →
      SendCase cmd data flags res w (-1, res)
        ((w.log (.wrote w.cloud.fd (packetHdr P cmd flags data) (packetPayload P data past) 0)).log
          (.received (.reply (packetHdr P cmd flags data) (packetPayload P data past)) w.cloud.fd
            ret mem))
  | answered {past : List UInt8} {r : RecvResult} :
      P.sizeofCldhdr + data.length < P.cldMaxPktsize →
      flags &&& (P.pktflgNotify ||| P.pktflgResponse) = 0 → 0 ≤ r.ret →
      w.cloud.fd ∈ w.sockets → Received P r → 0 ≤ sizeBytes P r.mem →
      SendCase cmd data flags res w (0, store res 0 (replyPayload P r.mem))
        ((w.log (.wrote w.cloud.fd (packetHdr P cmd flags data) (packetPayload P data past) 0)).log
          (.received (.reply (packetHdr P cmd flags data) (packetPayload P data past)) w.cloud.fd
            r.ret r.mem))

theorem runs_cloudSendPacket_cases {cmd flags : ℕ} {data : CStr} {res : List UInt8}
    {r : ℤ × List UInt8} (h : Runs (cloudSendPacket cmd data flags res) w r w') :
    SendCase cmd data flags res w r w' := by
  rw [cloudSendPacket] at h
  by_cases hbig : P.cldMaxPktsize ≤ P.sizeofCldhdr + data.length
  · rw [if_pos hbig] at h
    simp only [runs_bind, runs_logTooLarge, runs_pure] at h
    obtain ⟨_, _, rfl, rfl, rfl⟩ := h
    exact .tooLarge hbig
  · have hfits := not_le.1 hbig
    rw [if_neg hbig] at h
    simp only [runs_bind, runs_stack, runs_getCloud] at h
    obtain ⟨past, _, ⟨-, rfl⟩, _, _, ⟨rfl, rfl⟩, ret, w₁, hw, h⟩ := h
    obtain rfl := runs_tcpWritePacket hw
    by_cases hret : ret ≠ 0
    · rw [if_pos hret, runs_pure] at h
      obtain ⟨rfl, rfl⟩ := h
      exact .writeFailed hfits hret
    · obtain rfl := not_not.1 hret
      rw [if_neg hret] at h
      by_cases hf : flags &&& (P.pktflgNotify ||| P.pktflgResponse) ≠ 0
      · rw [if_pos hf, runs_pure] at h
        obtain ⟨rfl, rfl⟩ := h
        exact .flagged hfits hf
      · rw [if_neg hf] at h
        simp only [runs_bind, runs_getCloud] at h
        obtain ⟨_, _, ⟨rfl, rfl⟩, ⟨ret, buf⟩, w₂, hr, h⟩ := h
        obtain ⟨rfl, hrecv⟩ := runs_recvPacket hr
        simp only at h
        split_ifs at h with hneg hsz
        · obtain ⟨rfl, rfl⟩ := runs_pure.1 h
          exact .noReply hfits (not_not.1 hf) hneg
        · simp at h
        · obtain ⟨rfl, rfl⟩ := runs_pure.1 h
          obtain ⟨hfd, r', hr', heq⟩ := hrecv (by simpa using hneg)
          cases heq
          exact .answered hfits (not_not.1 hf) (by omega) hfd hr' (by omega)

/-- `cloud_send_packet` with a request. -/
theorem runs_cloudSendPacket {cmd : ℕ} {data : CStr} {res : List UInt8} {r : ℤ × List UInt8}
    (h : Runs (cloudSendPacket cmd data 0 res) w r w') : Transmits cmd data res w r w' := by
  cases runs_cloudSendPacket_cases h with
  | tooLarge hbig => exact .tooLarge hbig
  | writeFailed hfits hret => exact .writeFailed hfits hret
  | flagged _ hf => exact absurd (Nat.zero_and _) hf
  | noReply hfits _ hret => exact .noReply hfits hret
  | answered hfits _ hret hfd hrecv hsize => exact .answered hfits hret hfd hrecv hsize

/-- **What `cloud_send_packet` does with a request.**  The memory it leaves in `res` is
the old one exactly if there was no reply; it begins with `OK` exactly if the reply
does. -/
theorem runs_cloudSendPacket_request {cmd : ℕ} {data : CStr} {res : List UInt8}
    {r : ℤ × List UInt8} (h : Runs (cloudSendPacket cmd data 0 res) w r w') :
    ∃ rep, Exchange cmd data w rep w' ∧ ((rep = none ∧ r = (-1, res)) ∨
      ∃ mem, rep = some mem ∧ r.1 = 0 ∧ (strncaseEq r.2 (text "OK") 2 = true ↔ ReplyOk P mem)) := by
  cases runs_cloudSendPacket h with
  | tooLarge hbig => exact ⟨none, .tooLarge hbig, Or.inl ⟨rfl, rfl⟩⟩
  | writeFailed hfits hret =>
    exact ⟨none, .writeFailed (carries_packet 0 hfits _) hret, Or.inl ⟨rfl, rfl⟩⟩
  | noReply hfits hret =>
    exact ⟨none, .noReply (carries_packet 0 hfits _) hret, Or.inl ⟨rfl, rfl⟩⟩
  | @answered past r hfits hret hfd hrecv hsize =>
    refine ⟨some r.mem, .answered (carries_packet 0 hfits past) hret hfd,
      Or.inr ⟨r.mem, rfl, rfl, ?_⟩⟩
    rw [replyPayload, strncaseEq_store hrecv hsize, ReplyOk]

/-- `cloud_send_packet` with a packet that is not a request: it is never answered. -/
theorem runs_cloudSendPacket_flagged {cmd flags : ℕ} {data : CStr} {res : List UInt8}
    {r : ℤ × List UInt8} (hf : flags &&& (P.pktflgNotify ||| P.pktflgResponse) ≠ 0)
    (h : Runs (cloudSendPacket cmd data flags res) w r w') :
    (P.cldMaxPktsize ≤ P.sizeofCldhdr + data.length ∧ r.1 = -1 ∧ w' = w.log (.tooLarge cmd)) ∨
      ∃ past ret, P.sizeofCldhdr + data.length < P.cldMaxPktsize ∧
        w' = w.log
          (.wrote w.cloud.fd (packetHdr P cmd flags data) (packetPayload P data past) ret) ∧
        r.1 = if ret = 0 then 0 else -1 := by
  cases runs_cloudSendPacket_cases h with
  | tooLarge hbig => exact Or.inl ⟨hbig, rfl, rfl⟩
  | @writeFailed past ret hfits hret =>
    exact Or.inr ⟨past, ret, hfits, rfl, (if_neg hret).symm⟩
  | @flagged past hfits _ => exact Or.inr ⟨past, 0, hfits, rfl, rfl⟩
  | noReply _ hrequest _ => exact absurd hrequest hf
  | answered _ hrequest _ _ _ _ => exact absurd hrequest hf

/-- What `cloud_send_packet` does with a response. -/
theorem runs_cloudSendPacket_response {cmd flags : ℕ} {data : CStr} {res : List UInt8}
    {r : ℤ × List UInt8} (hf : flags &&& (P.pktflgNotify ||| P.pktflgResponse) ≠ 0)
    (h : Runs (cloudSendPacket cmd data flags res) w r w') :
    (r.1 = -1 ∧ w' = w.log (.tooLarge cmd)) ∨
      ∃ hdr payload ret, Carries P cmd data hdr payload ∧
        w' = w.log (.wrote w.cloud.fd hdr payload ret) ∧ r.1 = if ret = 0 then 0 else -1 := by
  rcases runs_cloudSendPacket_flagged hf h with ⟨-, hr, hw⟩ | ⟨past, ret, hfits, hw, hr⟩
  · exact Or.inl ⟨hr, hw⟩
  · exact Or.inr ⟨_, _, ret, carries_packet flags hfits past, hw, hr⟩

end Lemmas

end SwCloud
