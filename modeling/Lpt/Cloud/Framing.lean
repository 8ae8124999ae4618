import Lpt.Cloud.Packet

/-!
# Packets on a stream

What `cloud_send_packet` writes and `cloud_recv_packet` reads is the same packet, however
the calls of `write` and `read` cut the stream, and whatever follows it.

* `Wire` — the sending end of a stream: the struct, and the bytes written so far.
* `Sends` — successive calls of `cloud_send_packet`.
* `recvAll` — successive calls of `cloud_recv_packet` on the stream.
* `framing_round_trip` — the calls return the packets sent, in order, and each
  consumes exactly the bytes of its own packet.
-/

namespace SwCloud

open CLib Effect

variable {P : CldProtocol}

/-! ## The loops -/

/-- The results of `read` on a stream that is neither broken nor closed: any number of
bytes but none, or an interruption. -/
def Cuts (es : List ReadEv) : Prop := ReadEv.err ∉ es ∧ ReadEv.data 0 ∉ es

/-- The number of calls that return bytes. -/
def reads (es : List ReadEv) : ℕ := es.countP fun e => decide (e ≠ .eintr)

/-- The number of calls of `write` that take bytes. -/
def writes (es : List WriteEv) : ℕ :=
  es.countP fun e => decide (e ≠ .eintr ∧ e ≠ .sent 0)

section Loops

variable {data : List UInt8}

/-- A `tcp_write` hands over all its bytes, or it has met with an error. -/
theorem tcpWriteFrom_cases {es : List WriteEv} :
    ∀ {off : ℕ} {r : WriteResult}, tcpWriteFrom data off es = some r →
      (r.ret = 0 ∧ r.bytes = data.drop off) ∨ (r.ret = -1 ∧ WriteEv.err ∈ es) := by
  induction es with
  | nil => intro off r h; cases h
  | cons e es ih =>
    intro off r h
    cases e with
    | err =>
      cases h
      exact Or.inr ⟨rfl, List.mem_cons_self ..⟩
    | eintr =>
      rw [tcpWriteFrom] at h
      split_ifs at h with hlt
      · exact (ih h).imp_right fun herr => ⟨herr.1, List.mem_cons_of_mem _ herr.2⟩
      · cases h
        exact Or.inl ⟨rfl, (List.drop_eq_nil_of_le (by omega)).symm⟩
    | sent k =>
      simp only [tcpWriteFrom] at h
      split_ifs at h with hlt
      · obtain ⟨r', hr', rfl⟩ := Option.map_eq_some_iff.1 h
        refine (ih hr').imp (fun hdone => ⟨hdone.1, ?_⟩)
          fun herr => ⟨herr.1, List.mem_cons_of_mem _ herr.2⟩
        -- what one call takes and what the others take
        rw [hdone.2, ← List.drop_drop, List.length_take, List.take_eq_take_min,
          List.take_append_drop]
      · cases h
        refine Or.inl ⟨rfl, List.take_of_length_le ?_⟩
        simp only [List.length_take, List.length_drop] at hlt ⊢
        omega

/-- A `tcp_write` without an error hands over all its bytes. -/
theorem tcpWriteFrom_bytes {es : List WriteEv} (hes : WriteEv.err ∉ es) {off : ℕ}
    {r : WriteResult} (h : tcpWriteFrom data off es = some r) :
    r.ret = 0 ∧ r.bytes = data.drop off :=
  (tcpWriteFrom_cases h).resolve_right fun herr => hes herr.2

/-- A `tcp_write` that is given as many calls as it has bytes returns. -/
theorem tcpWriteFrom_returns {es : List WriteEv} (hes : WriteEv.err ∉ es) :
    ∀ {off : ℕ}, off < data.length → data.length ≤ off + writes es →
      (tcpWriteFrom data off es).isSome := by
  induction es with
  | nil =>
    intro off h₁ h₂
    rw [writes, List.countP_nil] at h₂
    omega
  | cons e es ih =>
    have ih := @ih fun h => hes (List.mem_cons_of_mem _ h)
    intro off h₁ h₂
    cases e with
    | err => exact absurd (List.mem_cons_self ..) hes
    | eintr =>
      rw [tcpWriteFrom, if_pos h₁]
      exact ih h₁ (by simpa [writes] using h₂)
    | sent k =>
      have hlen : ((data.drop off).take k).length = min k (data.length - off) := by
        rw [List.length_take, List.length_drop]
      have hw : writes (.sent k :: es) ≤ writes es + min k 1 := by
        cases k <;> simp [writes]
      rw [tcpWriteFrom, hlen]
      split_ifs with hlt
      · rw [Option.isSome_map]
        exact ih hlt (by omega)
      · rfl

/-- A `tcp_read` that finds all its bytes on the stream takes exactly these; it has not
returned only if there were too few calls. -/
theorem tcpReadFrom_cuts (rest : List UInt8) {es : List ReadEv} (hes : Cuts es) :
    ∀ (off : ℕ) (bs : List UInt8) (size : ℤ), bs ≠ [] → size = off + bs.length →
      size < 2147483648 →
      (tcpReadFrom size off (bs ++ rest) es = none ∧ reads es < bs.length) ∨
        ∃ es', tcpReadFrom size off (bs ++ rest) es = some ⟨0, bs, rest, es'⟩ ∧ es' <:+ es ∧
          reads es ≤ reads es' + bs.length := by
  induction es with
  | nil =>
    intro off bs size hbs _ _
    exact Or.inl ⟨rfl, List.length_pos_of_ne_nil hbs⟩
  | cons e es ih =>
    have ih := ih ⟨fun h => hes.1 (List.mem_cons_of_mem _ h),
      fun h => hes.2 (List.mem_cons_of_mem _ h)⟩
    intro off bs size hbs hsize hmax
    have hpos : 0 < bs.length := List.length_pos_of_ne_nil hbs
    have hn : toSize (size - off) = bs.length := by
      rw [hsize, add_sub_cancel_left, toSize_natCast (by omega)]
    have hcount : bs.length ≤ ssizeMax := by
      rw [ssizeMax]
      omega
    rw [tcpReadFrom, hn]
    cases e with
    | err => exact absurd (List.mem_cons_self ..) hes.1
    | eintr =>
      rw [readCall_of_le hcount]
      simp only
      rw [if_neg hpos.ne']
      simp only
      rw [if_pos (by omega)]
      have hr : reads (.eintr :: es) = reads es := by simp [reads]
      rcases ih off bs size hbs hsize hmax with ⟨h₁, h₂⟩ | ⟨es', h₁, h₂, h₃⟩
      · exact Or.inl ⟨h₁, by omega⟩
      · exact Or.inr ⟨es', h₁, h₂.trans (List.suffix_cons ..), by omega⟩
    | data k =>
      have hk : k ≠ 0 := fun h0 => hes.2 (h0 ▸ List.mem_cons_self ..)
      have hr : reads (.data k :: es) = reads es + 1 := by simp [reads]
      have hgot : (bs ++ rest).take (min k bs.length) = bs.take k := by
        rw [List.take_append_of_le_length (min_le_right _ _), ← List.take_eq_take_min]
      have hlen : (bs.take k).length = min k bs.length := List.length_take
      rw [readCall_of_le hcount]
      simp only [hgot]
      rw [if_neg (fun h0 => by rw [h0, List.length_nil] at hlen; omega), hlen]
      by_cases hlt : k < bs.length
      · -- the rest of the bytes is left for the calls to come
        have hdrop : (bs ++ rest).drop (min k bs.length) = bs.drop k ++ rest := by
          rw [min_eq_left hlt.le, List.drop_append_of_le_length hlt.le]
        have hk' : (bs.drop k).length = bs.length - k := List.length_drop
        rw [if_pos (by push_cast; omega), hdrop]
        rcases ih (off + min k bs.length) (bs.drop k) size (List.ne_nil_of_length_pos (by omega))
          (by push_cast; omega) hmax with ⟨h₁, h₂⟩ | ⟨es', h₁, h₂, h₃⟩
        · exact Or.inl ⟨by rw [h₁]; rfl, by omega⟩
        · refine Or.inr ⟨es', ?_, h₂.trans (List.suffix_cons ..), by omega⟩
          rw [h₁, Option.map_some, List.take_append_drop]
      · rw [if_neg (by push_cast; omega), List.take_of_length_le (by omega),
          min_eq_right (by omega), List.drop_left']
        · exact Or.inr ⟨es, rfl, List.suffix_cons .., by omega⟩
        · rfl

end Loops

/-! ## Packets -/

/-- What `cloud_send_packet` is called with. -/
structure Packet where
  cmd : ℕ
  flags : ℕ
  data : CStr

namespace Packet

/-- The packet is not too large. -/
def Accepted (P : CldProtocol) (p : Packet) : Prop :=
  P.sizeofCldhdr + p.data.length < P.cldMaxPktsize

/-- The header the packet goes out with. -/
def header (P : CldProtocol) (p : Packet) : CldHdr :=
  ⟨P.cldMagic, P.cldVer, p.cmd, p.flags, padded p.data.length / 4⟩

/-- The text and one to four zeros, up to a multiple of four. -/
def payload (p : Packet) : List UInt8 :=
  p.data.bytes ++ List.replicate (padded p.data.length - p.data.length) 0

/-- The bytes of the packet. -/
def wire (P : CldProtocol) (p : Packet) : List UInt8 := P.enc (p.header P) ++ p.payload

theorem length_payload (p : Packet) : p.payload.length = padded p.data.length := by
  have := lt_padded p.data.length
  rw [payload, List.length_append, List.length_replicate, CStr.length] at *
  omega

theorem length_wire (p : Packet) :
    (p.wire P).length = P.sizeofCldhdr + padded p.data.length := by
  rw [wire, List.length_append, P.enc_length, length_payload]

theorem wire_ne_nil (p : Packet) : p.wire P ≠ [] := by
  have := P.sizeofCldhdr_pos
  exact List.ne_nil_of_length_pos (by rw [length_wire]; omega)

/-- If the buffer behind the header is made of whole words, the rounding stays inside. -/
theorem Accepted.padded_le {p : Packet} (ha : p.Accepted P)
    (h4 : (P.cldMaxPktsize - P.sizeofCldhdr) % 4 = 0) :
    P.sizeofCldhdr + padded p.data.length ≤ P.cldMaxPktsize := by
  rw [Accepted] at ha
  rw [padded]
  omega

theorem Accepted.payloadOf_eq {p : Packet} (ha : p.Accepted P)
    (h4 : (P.cldMaxPktsize - P.sizeofCldhdr) % 4 = 0) (past : List UInt8) :
    payloadOf P p.data (padded p.data.length) past = p.payload := by
  have hle := ha.padded_le h4
  have hlt := lt_padded p.data.length
  rw [CStr.length] at hle hlt
  rw [payloadOf, payload, store_zero, List.drop_replicate, CStr.length,
    List.take_append_of_le_length (by simp only [List.length_append, List.length_replicate]; omega),
    List.take_append, List.take_replicate, List.take_of_length_le hlt.le]
  congr 2
  omega

end Packet

/-! ## The sending end -/

/-- The sending end of a stream. -/
structure Wire (P : CldProtocol) where
  cloud : Cloud P
  /-- The bytes written so far. -/
  stream : List UInt8
  deriving DecidableEq

/-- What the operations of `cloud_send_packet` do at the sending end.  No `write` fails;
what is read in reply comes from another stream, with anything on it. -/
def wireHandle (P : CldProtocol) : Handler (Op P) (Ans P) Input (Wire P)
  | .get, _, w => some (w.cloud, w)
  | .stack n, .bytes m, w => if m.length = n then some (m, w) else none
  | .logTooLarge _, _, w => some ((), w)
  | .tcpWrite _ hdr payload, .writes es, w =>
      if WriteEv.err ∈ es then none
      else (tcpWrite (P.enc hdr ++ payload) es).map fun r =>
        (r.ret, { w with stream := w.stream ++ r.bytes })
  | .recvPacket _ _ res, .reads s es, w =>
      (cloudRecvPacket P res s es).map fun r => ((r.ret, r.mem), w)
  | _, _, _ => none

/-- Calls of `cloud_send_packet`, one after the other, with any buffers for the replies. -/
inductive Sends (P : CldProtocol) : Wire P → List Packet → Wire P → Prop
  | nil {w : Wire P} : Sends P w [] w
  | cons {w w₁ w' : Wire P} {p : Packet} {ps : List Packet} {res : List UInt8}
      {r : ℤ × List UInt8} :
      (cloudSendPacket p.cmd p.data p.flags res).Outcome (wireHandle P) w r w₁ →
      Sends P w₁ ps w' → Sends P w (p :: ps) w'

section Sending

variable {w w' : Wire P}

theorem wire_getCloud {c : Cloud P} (h : (getCloud : CloudM P _).Outcome (wireHandle P) w c w') :
    w' = w := by
  obtain ⟨i, h⟩ := Prog.outcome_call.1 h
  cases h
  rfl

theorem wire_stack {n : ℕ} {m : List UInt8}
    (h : (stack n : CloudM P (List UInt8)).Outcome (wireHandle P) w m w') : w' = w := by
  obtain ⟨i, h⟩ := Prog.outcome_call.1 h
  cases i with
  | bytes m' =>
    change (if m'.length = n then some (m', w) else none) = _ at h
    split_ifs at h
    cases h
    rfl
  | _ => cases h

theorem wire_recvPacket {rc : Receiver} {fd : ℤ} {res : List UInt8} {r : ℤ × List UInt8}
    (h : (recvPacket rc fd res : CloudM P _).Outcome (wireHandle P) w r w') : w' = w := by
  obtain ⟨i, h⟩ := Prog.outcome_call.1 h
  cases i with
  | reads s es =>
    change (cloudRecvPacket P res s es).map (fun r => ((r.ret, r.mem), w)) = _ at h
    obtain ⟨r', -, hr'⟩ := Option.map_eq_some_iff.1 h
    cases hr'
    rfl
  | _ => cases h

/-- A packet is written completely. -/
theorem wire_tcpWritePacket {fd : ℤ} {hdr : CldHdr} {payload : List UInt8} {r : ℤ}
    (h : (tcpWritePacket fd hdr payload : CloudM P ℤ).Outcome (wireHandle P) w r w') :
    r = 0 ∧ w' = { w with stream := w.stream ++ (P.enc hdr ++ payload) } := by
  obtain ⟨i, h⟩ := Prog.outcome_call.1 h
  cases i with
  | writes es =>
    change (if WriteEv.err ∈ es then none
      else (tcpWrite (P.enc hdr ++ payload) es).map fun r =>
        (r.ret, ({ w with stream := w.stream ++ r.bytes } : Wire P))) = _ at h
    split_ifs at h with herr
    obtain ⟨r', hr', heq⟩ := Option.map_eq_some_iff.1 h
    obtain ⟨h₁, h₂⟩ := tcpWriteFrom_bytes herr hr'
    cases heq
    exact ⟨h₁, by rw [h₂]; rfl⟩
  | _ => cases h

/-- **What `cloud_send_packet` puts on the stream.** -/
theorem wire_cloudSendPacket {p : Packet} {res : List UInt8} {r : ℤ × List UInt8}
    (ha : p.Accepted P) (h4 : (P.cldMaxPktsize - P.sizeofCldhdr) % 4 = 0)
    (h : (cloudSendPacket p.cmd p.data p.flags res).Outcome (wireHandle P) w r w') :
    w'.stream = w.stream ++ p.wire P := by
  rw [cloudSendPacket, if_neg (not_le.2 ha)] at h
  simp only [Prog.outcome_bind] at h
  obtain ⟨past, _, hp, _, w₁, hc, ret, _, hw, h⟩ := h
  obtain rfl := wire_stack hp
  obtain rfl := wire_getCloud hc
  obtain ⟨rfl, rfl⟩ := wire_tcpWritePacket hw
  rw [if_neg (by simp), ha.payloadOf_eq h4] at h
  -- reading the reply does not write anything
  suffices hsame : w' = { w₁ with stream := w₁.stream ++ p.wire P } by rw [hsame]
  rw [Prog.outcome_ite] at h
  rcases h with ⟨-, h⟩ | ⟨-, h⟩
  · exact h.2
  · simp only [Prog.outcome_bind] at h
    obtain ⟨_, _, hc, ⟨ret, buf⟩, _, hr, h⟩ := h
    obtain rfl := wire_getCloud hc
    obtain rfl := wire_recvPacket hr
    simp only [Prog.outcome_ite] at h
    rcases h with ⟨-, h⟩ | ⟨-, ⟨-, h⟩ | ⟨-, h⟩⟩
    · exact h.2
    · obtain ⟨_, _, hc, -⟩ := Prog.outcome_bind.1 h
      obtain ⟨i, hc⟩ := Prog.outcome_call.1 hc
      cases hc
    · exact h.2

theorem Sends.stream_eq {ps : List Packet} (hs : Sends P w ps w')
    (ha : ∀ p ∈ ps, p.Accepted P) (h4 : (P.cldMaxPktsize - P.sizeofCldhdr) % 4 = 0) :
    w'.stream = w.stream ++ ps.flatMap (Packet.wire P) := by
  induction hs with
  | nil => simp
  | cons h _ ih =>
    rw [ih fun p hp => ha p (List.mem_cons_of_mem _ hp),
      wire_cloudSendPacket (ha _ (List.mem_cons_self ..)) h4 h, List.flatMap_cons,
      List.append_assoc]

end Sending

/-! ## The receiving end -/

/-- Successive calls of `cloud_recv_packet` on a stream, each into the next buffer and with
the next results of `read`. -/
def recvAll (P : CldProtocol) : List UInt8 → List (List UInt8 × List ReadEv) →
    Option (List RecvResult)
  | _, [] => some []
  | s, (res, es) :: calls =>
      (cloudRecvPacket P res s es).bind fun r => (recvAll P r.stream calls).map (r :: ·)

/-- The result `r` of `cloud_recv_packet` is the packet `p`. -/
structure Delivered (P : CldProtocol) (p : Packet) (r : RecvResult) : Prop where
  header_eq : P.dec (r.mem.take P.sizeofCldhdr) = p.header P
  /-- The payload is the text and one to four zeros, up to a multiple of four. -/
  payload_eq : ∃ k, 1 ≤ k ∧ k ≤ 4 ∧ (p.data.length + k) % 4 = 0 ∧
    r.ret = P.sizeofCldhdr + (p.data.length + k : ℕ) ∧
    (r.mem.drop P.sizeofCldhdr).take (p.data.length + k) = p.data.bytes ++ List.replicate k 0
  data_eq : CStr.read (r.mem.drop P.sizeofCldhdr) = p.data
  /-- The buffer has not been left. -/
  length_eq : r.mem.length = P.cldMaxPktsize

/-- The results are the packets, in order, and after each of them exactly the following
packets are left on the stream. -/
inductive Delivers (P : CldProtocol) : List Packet → List RecvResult → Prop
  | nil : Delivers P [] []
  | cons {p : Packet} {ps : List Packet} {r : RecvResult} {rs : List RecvResult} :
      Delivered P p r → r.stream = ps.flatMap (Packet.wire P) → Delivers P ps rs →
      Delivers P (p :: ps) (r :: rs)

/-- The fields of the header can hold their values in any packet with the command and the
flags of `p`. -/
def Packet.Held (P : CldProtocol) (p : Packet) : Prop :=
  ∀ n : ℕ, n ≤ P.cldMaxPktsize / 4 → P.Holds ⟨P.cldMagic, P.cldVer, p.cmd, p.flags, n⟩

section Receiving

variable {p : Packet} {es : List ReadEv}

/-- The memory after a header and a payload have been stored. -/
theorem store_store (res bs : List UInt8) {hd : List UInt8} (hlen : hd.length = P.sizeofCldhdr) :
    store (store res 0 hd) P.sizeofCldhdr bs =
      hd ++ bs ++ res.drop (P.sizeofCldhdr + bs.length) := by
  have htake : List.takeD P.sizeofCldhdr (hd ++ res.drop hd.length) 0 = hd := by
    rw [List.takeD_eq_take _ (by rw [List.length_append]; omega), ← hlen, List.take_left]
  rw [store_zero, store, htake, List.drop_append, List.drop_of_length_le (by omega),
    List.nil_append, List.drop_drop, hlen]
  congr 2
  omega

/-- The length the header of an accepted packet gives. -/
theorem Packet.Accepted.sizeBytes_eq (ha : p.Accepted P) (hh : p.Held P)
    (h4 : (P.cldMaxPktsize - P.sizeofCldhdr) % 4 = 0) (bs : List UInt8) :
    P.dec ((P.enc (p.header P) ++ bs).take P.sizeofCldhdr) = p.header P ∧
      sizeBytes P (P.enc (p.header P) ++ bs) = padded p.data.length := by
  have hle := ha.padded_le h4
  have hmax := P.cldMaxPktsize_lt
  have hmod : padded p.data.length % 4 = 0 := by
    rw [padded]
    omega
  have hdec : P.dec ((P.enc (p.header P) ++ bs).take P.sizeofCldhdr) = p.header P := by
    rw [List.take_left' (P.enc_length _)]
    exact P.dec_enc _ (hh (padded p.data.length / 4) (by omega))
  refine ⟨hdec, ?_⟩
  rw [sizeBytes, hdec, Packet.header, toInt32_eq (by simp only; omega) (by simp only; omega)]
  simp only
  omega

/-- **A header and its payload off the stream.**  A call of `cloud_recv_packet` that finds
both of them at the front of the stream returns them, or has not been given enough reads. -/
theorem cloudRecvPacket_cuts (res rest : List UInt8) {hd payload : List UInt8}
    (hlen : hd.length = P.sizeofCldhdr) (hsize : sizeBytes P hd = payload.length)
    (hne : payload ≠ []) (hmax : P.sizeofCldhdr + payload.length < 2147483648) (hes : Cuts es) :
    (cloudRecvPacket P res (hd ++ (payload ++ rest)) es = none ∧
        reads es < P.sizeofCldhdr + payload.length) ∨
      ∃ es', cloudRecvPacket P res (hd ++ (payload ++ rest)) es =
        some ⟨P.sizeofCldhdr + payload.length,
          hd ++ payload ++ res.drop (P.sizeofCldhdr + payload.length), rest, es'⟩ := by
  have hpos := P.sizeofCldhdr_pos
  have hstore := store_store res payload hlen
  rw [cloudRecvPacket, tcpRead]
  rcases tcpReadFrom_cuts (payload ++ rest) hes 0 hd P.sizeofCldhdr
      (List.ne_nil_of_length_pos (by omega)) (by push_cast; omega)
      (by omega) with ⟨h₁, h₂⟩ | ⟨es₁, h₁, hsuf, h₂⟩
  · rw [h₁]
    exact Or.inl ⟨rfl, by omega⟩
  · rw [h₁, Option.bind_some]
    simp only [ne_eq, not_true_eq_false, if_false]
    rw [store_zero, sizeBytes_append hlen, hsize, tcpRead]
    have hes₁ : Cuts es₁ := ⟨fun h => hes.1 (hsuf.subset h), fun h => hes.2 (hsuf.subset h)⟩
    rcases tcpReadFrom_cuts rest hes₁ 0 payload payload.length hne (by push_cast; omega)
        (by omega) with ⟨h₃, h₄⟩ | ⟨es₂, h₃, -, -⟩
    · rw [h₃]
      exact Or.inl ⟨rfl, by omega⟩
    · refine Or.inr ⟨es₂, ?_⟩
      rw [h₃, Option.map_some, if_neg (by simp), ← store_zero, hstore,
        toInt32_eq (by omega) (by omega)]

/-- **One packet off the stream.**  A call of `cloud_recv_packet` that finds a packet at
the front of the stream returns it, or has not been given enough reads. -/
theorem cloudRecvPacket_wire (res rest : List UInt8) (ha : p.Accepted P) (hh : p.Held P)
    (h4 : (P.cldMaxPktsize - P.sizeofCldhdr) % 4 = 0) (hes : Cuts es) :
    (cloudRecvPacket P res (p.wire P ++ rest) es = none ∧ reads es < (p.wire P).length) ∨
      ∃ es', cloudRecvPacket P res (p.wire P ++ rest) es =
        some ⟨P.sizeofCldhdr + p.payload.length,
          p.wire P ++ res.drop (p.wire P).length, rest, es'⟩ := by
  have hle := ha.padded_le h4
  have hmax := P.cldMaxPktsize_lt
  have hlt := lt_padded p.data.length
  have hpay := p.length_payload
  have hsize : sizeBytes P (P.enc (p.header P)) = p.payload.length := by
    have hbytes := (ha.sizeBytes_eq hh h4 []).2
    rw [List.append_nil] at hbytes
    rw [hbytes, hpay]
  rw [Packet.length_wire, ← hpay, Packet.wire, List.append_assoc]
  exact cloudRecvPacket_cuts res rest (P.enc_length _) hsize
    (List.ne_nil_of_length_pos (by omega)) (by omega) hes

theorem delivered_wire {res : List UInt8} (rest : List UInt8) (ha : p.Accepted P) (hh : p.Held P)
    (h4 : (P.cldMaxPktsize - P.sizeofCldhdr) % 4 = 0) (hres : res.length = P.cldMaxPktsize) :
    Delivered P p ⟨P.sizeofCldhdr + p.payload.length,
      p.wire P ++ res.drop (p.wire P).length, rest, es⟩ := by
  have hle := ha.padded_le h4
  have hlt := lt_padded p.data.length
  have hdrop : (p.wire P ++ res.drop (p.wire P).length).drop P.sizeofCldhdr =
      p.payload ++ res.drop (p.wire P).length := by
    rw [Packet.wire, List.append_assoc, List.drop_left' (P.enc_length _)]
  refine ⟨?_, ⟨padded p.data.length - p.data.length, ?_⟩, ?_, ?_⟩
  · rw [Packet.wire, List.append_assoc]
    exact (ha.sizeBytes_eq hh h4 _).1
  · have hk : p.data.length + (padded p.data.length - p.data.length) = p.payload.length := by
      rw [p.length_payload]
      omega
    rw [hk, hdrop, List.take_left]
    refine ⟨by omega, ?_, ?_, rfl, rfl⟩
    · rw [padded]
      omega
    · rw [p.length_payload, padded]
      omega
  · obtain ⟨n, hn⟩ : ∃ n, padded p.data.length - p.data.length = n + 1 :=
      ⟨padded p.data.length - p.data.length - 1, by omega⟩
    rw [hdrop, Packet.payload, hn, List.replicate_succ, List.append_assoc, List.cons_append]
    exact CStr.read_append_nul _ _
  · simp only [List.length_append, List.length_drop, hres, Packet.length_wire]
    omega

end Receiving

/-- **Framing round trip.**  Packets sent one after the other are received one after the
other, whole and unchanged, and each call consumes the bytes of its own packet and no
others.  Every loop returns that is given as many calls as it has bytes to move. -/
theorem framing_round_trip (h4 : (P.cldMaxPktsize - P.sizeofCldhdr) % 4 = 0)
    {ps : List Packet} {w w' : Wire P} (hw : w.stream = []) (hs : Sends P w ps w')
    (ha : ∀ p ∈ ps, p.Accepted P) (hh : ∀ p ∈ ps, p.Held P)
    {calls : List (List UInt8 × List ReadEv)} (hlen : calls.length = ps.length)
    (hbuf : ∀ c ∈ calls, c.1.length = P.cldMaxPktsize) (hcuts : ∀ c ∈ calls, Cuts c.2) :
    (∀ rs, recvAll P w'.stream calls = some rs → Delivers P ps rs) ∧
      ((∀ c ∈ calls, P.cldMaxPktsize ≤ reads c.2) → (recvAll P w'.stream calls).isSome) ∧
      ∀ p ∈ ps, ∀ es, WriteEv.err ∉ es → P.cldMaxPktsize ≤ writes es →
        (tcpWrite (p.wire P) es).isSome := by
  rw [hs.stream_eq ha h4, hw, List.nil_append, ← and_assoc]
  clear hs
  refine ⟨?_, fun p hp es hes hn => ?_⟩
  swap
  · have hle := (ha p hp).padded_le h4
    rw [← Packet.length_wire] at hle
    exact tcpWriteFrom_returns hes (List.length_pos_of_ne_nil p.wire_ne_nil) (by omega)
  induction ps generalizing calls with
  | nil =>
    obtain rfl := List.length_eq_zero_iff.1 hlen
    refine ⟨fun rs hrs => ?_, fun _ => rfl⟩
    cases hrs
    exact .nil
  | cons p ps ih =>
    obtain ⟨⟨res, es⟩, calls, rfl⟩ := List.exists_cons_of_length_eq_add_one hlen
    have hap := ha p (List.mem_cons_self ..)
    have hhp := hh p (List.mem_cons_self ..)
    have hres := hbuf _ (List.mem_cons_self ..)
    have hle := hap.padded_le h4
    obtain ⟨ih₁, ih₂⟩ := ih (fun q hq => ha q (List.mem_cons_of_mem _ hq))
      (fun q hq => hh q (List.mem_cons_of_mem _ hq)) (Nat.succ.inj hlen)
      (fun c hc => hbuf c (List.mem_cons_of_mem _ hc))
      (fun c hc => hcuts c (List.mem_cons_of_mem _ hc))
    rw [List.flatMap_cons, recvAll]
    rcases cloudRecvPacket_wire res (ps.flatMap (Packet.wire P)) hap hhp h4
      (hcuts _ (List.mem_cons_self ..)) with ⟨h₁, h₂⟩ | ⟨es', h₁⟩
    · rw [h₁]
      refine ⟨nofun, ?_⟩
      intro hr
      have := hr _ (List.mem_cons_self ..)
      rw [Packet.length_wire] at h₂
      omega
    · rw [h₁, Option.bind_some]
      constructor
      · intro rs hrs
        obtain ⟨rs', hrs', rfl⟩ := Option.map_eq_some_iff.1 hrs
        exact .cons (delivered_wire _ hap hhp h4 hres) rfl (ih₁ rs' hrs')
      · intro hr
        rw [Option.isSome_map]
        exact ih₂ fun c hc => hr c (List.mem_cons_of_mem _ hc)

/-- Two packets to which the law applies, written and read in pieces. -/
theorem framing_round_trip_two : ∃ rs : List RecvResult,
    Delivers sampleProtocol [⟨1, 2, CStr.lit "ab"⟩, ⟨5, 2, CStr.lit "cde\n"⟩] rs := by
  let w : List UInt8 → Wire sampleProtocol := fun stream =>
    ⟨⟨0, 0, ⟨.zero, .zero, .zero, .zero, .zero, .zero, .zero⟩, .zero, .zero, .no, false, false,
      .init, 3, 0, 0⟩, stream⟩
  let p : Packet := ⟨1, 2, CStr.lit "ab"⟩
  let q : Packet := ⟨5, 2, CStr.lit "cde\n"⟩
  have hp : (cloudSendPacket p.cmd p.data p.flags []).replay (wireHandle sampleProtocol)
      (quiet sampleProtocol) [.bytes [], .writes [.sent 3, .eintr, .sent 0, .sent 100]] (w []) =
        some ((0, []), w (p.wire sampleProtocol)) := by decide +kernel
  have hq : (cloudSendPacket q.cmd q.data q.flags []).replay (wireHandle sampleProtocol)
      (quiet sampleProtocol) [.bytes [], .writes [.eintr, .sent 15, .sent 1]]
        (w (p.wire sampleProtocol)) =
          some ((0, []), w (p.wire sampleProtocol ++ q.wire sampleProtocol)) := by decide +kernel
  have hs : Sends sampleProtocol (w []) [p, q]
      (w (p.wire sampleProtocol ++ q.wire sampleProtocol)) :=
    .cons (Prog.replay_outcome hp) (.cons (Prog.replay_outcome hq) .nil)
  let calls : List (List UInt8 × List ReadEv) :=
    [(List.replicate 64 9, [.data 1, .eintr, .data 40, .eintr, .data 9]),
      (List.replicate 64 7, [.data 8, .data 7, .data 1])]
  obtain ⟨rs, hrs⟩ := Option.isSome_iff_exists.1 (show (recvAll sampleProtocol
    (p.wire sampleProtocol ++ q.wire sampleProtocol) calls).isSome from by decide +kernel)
  have hheld : ∀ p : Packet, p.cmd < 256 → p.flags < 256 → p.Held sampleProtocol := by
    intro p h₁ h₂ n hn
    refine ⟨show 77 < 256 by decide, show 1 < 256 by decide, h₁, h₂, Int.natCast_nonneg n, ?_⟩
    simp only [sampleProtocol] at hn ⊢
    omega
  refine ⟨rs, (framing_round_trip (by decide) rfl hs ?_ ?_ rfl ?_ ?_).1 rs hrs⟩
  · simpa [Packet.Accepted] using ⟨by decide, by decide⟩
  · simpa using ⟨hheld p (by decide) (by decide), hheld q (by decide) (by decide)⟩
  · decide
  · simp [calls, Cuts]

end SwCloud
