import Lpt.Cloud.Register
import Lpt.Cloud.Run

/-!
# What goes out of the buffer of a request

A request is rendered into a buffer of `CLD_MAX_PKTSIZE` bytes, where `snprintf` cuts it, and
`cloud_send_packet` copies it into another one, behind a header.  Its only check is that
the text leaves room for its terminator there; then it rounds the size up to whole words.

* `RoundingFits.sentWhole` — what goes out is the whole text and zeros, or nothing at all.
* `sentWhole_iff` — but the rounding can go past the end of the buffer, if the sizes of the
  buffer and of the header are no whole words: then the last bytes may be anything.
-/

namespace SwCloud

open CLib Effect

variable {P : CldProtocol}

/-! ## The payload -/

/-- The text is too large for a packet, or its size rounded up is not. -/
def RoundingFits (P : CldProtocol) (t : CStr) : Prop :=
  P.cldMaxPktsize ≤ P.sizeofCldhdr + t.length ∨ P.sizeofCldhdr + padded t.length ≤ P.cldMaxPktsize

instance (t : CStr) : Decidable (RoundingFits P t) := inferInstanceAs (Decidable (_ ∨ _))

/-- Sizes in whole words leave room for the rounding of every text. -/
theorem roundingFits_of_dvd (hh : 4 ∣ P.sizeofCldhdr) (hm : 4 ∣ P.cldMaxPktsize) (t : CStr) :
    RoundingFits P t := by
  unfold RoundingFits padded
  omega

section Payload

variable {t : CStr} {past : List UInt8}

/-- Inside the buffer the text is followed by zeros. -/
theorem payloadOf_inside (h : P.sizeofCldhdr + padded t.length ≤ P.cldMaxPktsize)
    (past : List UInt8) : payloadOf P t (padded t.length) past =
      t.bytes ++ List.replicate (padded t.length - t.length) 0 := by
  obtain ⟨k, hk⟩ : ∃ k, padded t.length = t.bytes.length + k :=
    ⟨padded t.length - t.length, by
      have := lt_padded t.length
      unfold CStr.length at *
      omega⟩
  have hroom : k ≤ P.cldMaxPktsize - P.sizeofCldhdr - t.bytes.length := by omega
  unfold payloadOf CStr.length at *
  rw [store_zero, List.drop_replicate, hk, List.append_assoc, List.take_length_add_append,
    List.take_append_of_le_length (by rwa [List.length_replicate]), List.take_replicate,
    Nat.min_eq_left hroom, Nat.add_sub_cancel_left]

/-- Past the end of the buffer the payload goes on with what lies there. -/
theorem payloadOf_past (h : P.sizeofCldhdr + t.length < P.cldMaxPktsize)
    (hpast : P.sizeofCldhdr + padded t.length = P.cldMaxPktsize + past.length) :
    payloadOf P t (padded t.length) past =
      t.bytes ++ List.replicate (P.cldMaxPktsize - P.sizeofCldhdr - t.length) 0 ++ past := by
  unfold payloadOf CStr.length at *
  rw [store_zero, List.drop_replicate]
  apply List.take_of_length_le
  simp only [List.length_append, List.length_replicate]
  omega

end Payload

/-- The payload handed to `tcp_write`, if this is the event of it. -/
def Event.handed : Event → Option (List UInt8)
  | .wrote _ _ payload _ => some payload
  | _ => none

/-- The payloads handed to `tcp_write`, newest first. -/
def handed (es : List Event) : List (List UInt8) := es.filterMap Event.handed

/-- On the way from `w` to `w'` the text `t` was sent once, whole and with its zero padding, or
nothing was sent and the network is to blame. -/
def SentWhole (t : CStr) (w : World P) (r : CommonStatus) (w' : World P) : Prop :=
  handed (w.since w') = [t.bytes ++ List.replicate (padded t.length - t.length) 0] ∨
    handed (w.since w') = [] ∧ r = .cloudNetwork

/-- The requests whose text is rendered from values. -/
inductive Rendered where
  | regusr (account username password : CStr)
  | auth
  | bind
  | update

/-- The function that renders the request and sends it. -/
def Rendered.send : Rendered → CloudM P CommonStatus
  | .regusr account username password => cloudDoRegusr account username password
  | .auth => cloudDoAuth
  | .bind => cloudDoBind
  | .update => cloudDoUpdate

/-- The command of the request. -/
def Rendered.cmd (P : CldProtocol) : Rendered → ℕ
  | .regusr _ _ _ => P.cldcmdRegusr
  | .auth => P.cldcmdAuth
  | .bind => P.cldcmdBindev
  | .update => P.cldcmdUpdev

/-- How it judges a reply that does not begin with `OK`. -/
def Rendered.other : Rendered → List UInt8 → CommonStatus
  | .regusr _ _ _ => regusrError
  | .auth => authError
  | .bind | .update => fun _ => .error

/-- A code that `swMD5Code` may leave in its buffer for the text `id`. -/
def CodeOf (P : CldProtocol) (id code : CStr) : Prop :=
  ∃ mem : List UInt8, mem.length = 36 ∧ code = CStr.read (swMD5Code P id mem).2

/-- The whole text of a request, for each code that it may contain. -/
inductive Rendered.Text (c : Cloud P) : Rendered → CStr → Prop
  | regusr {account username password code : CStr} :
      CodeOf P ((account ++ username ++ password).take (P.cldMaxPktsize - 1)) code →
      Text c (.regusr account username password) (lines [account, username, password, code])
  | auth : Text c .auth (authText c)
  | bind {code : CStr} : CodeOf P c.devinfo.id.str code →
      Text c .bind (lines [c.devinfo.id.str, code])
  | update : Text c .update (updateText c.devinfo)

section Sending

variable {w w' : World P} {cmd : ℕ} {t : CStr} {other : List UInt8 → CommonStatus}
  {r : CommonStatus} {res : List UInt8} {x : ℤ × List UInt8}

theorem World.since_congr {w₁ : World P} (h : w'.trace = w₁.trace) :
    w.since w' = w.since w₁ := by
  unfold World.since
  rw [h]

/-- A text that `snprintf` cuts is too large in any case. -/
theorem Transmits.of_take (h : Transmits cmd (t.take (P.cldMaxPktsize - 1)) res w x w') :
    Transmits cmd t res w x w' := by
  have hpos := P.sizeofCldhdr_pos
  have hlt := P.sizeofCldhdr_lt
  by_cases hle : t.length ≤ P.cldMaxPktsize - 1
  · rwa [CStr.take_of_length_le hle] at h
  · have hlen : (t.take (P.cldMaxPktsize - 1)).length = P.cldMaxPktsize - 1 := by
      rw [CStr.length_take]
      omega
    cases h with
    | tooLarge _ => exact .tooLarge (by omega)
    | writeFailed hfits _ => omega
    | noReply hfits _ => omega
    | answered hfits _ _ _ _ => omega

/-- **A request in terms of its buffer**, for any text. -/
theorem runs_cloudRequest_transmits (h : Runs (cloudRequest cmd t other) w r w') :
    ∃ ret buf, Transmits cmd t (textBuf P (t.take (P.cldMaxPktsize - 1))) w (ret, buf) w' ∧
      r = if ret = -1 then .cloudNetwork
        else if strncaseEq buf (text "OK") 2 then .succeed else other buf := by
  unfold cloudRequest at h
  simp only [runs_bind] at h
  obtain ⟨⟨ret, buf⟩, w₁, hs, h⟩ := h
  refine ⟨ret, buf, ?_⟩
  by_cases hret : ret = -1
  · rw [if_pos hret, runs_pure] at h
    obtain ⟨rfl, rfl⟩ := h
    exact ⟨(runs_cloudSendPacket hs).of_take, (if_pos hret).symm⟩
  · rw [if_neg hret] at h ⊢
    split_ifs at h ⊢
    all_goals
      obtain ⟨rfl, rfl⟩ := runs_pure.1 h
      exact ⟨(runs_cloudSendPacket hs).of_take, rfl⟩

theorem handed_wrote {fd ret : ℤ} {hdr : CldHdr} {payload : List UInt8}
    (h : w'.trace = .wrote fd hdr payload ret :: w.trace) :
    handed (w.since w') = [payload] := by
  have hs : w.since w' = [.wrote fd hdr payload ret] := World.since_eq h
  rw [hs]
  rfl

theorem handed_replied {rc : Receiver} {fd fd' ret ret' : ℤ} {hdr : CldHdr}
    {payload mem : List UInt8}
    (h : w'.trace = .received rc fd' ret' mem :: .wrote fd hdr payload ret :: w.trace) :
    handed (w.since w') = [payload] := by
  have hs : w.since w' = [.received rc fd' ret' mem, .wrote fd hdr payload ret] :=
    World.since_eq h
  rw [hs]
  rfl

/-- A request keeps the law if its size can be rounded up. -/
theorem RoundingFits.sentWhole (hf : RoundingFits P t)
    (h : Runs (cloudRequest cmd t other) w r w') : SentWhole t w r w' := by
  obtain ⟨ret, buf, ht, hr⟩ := runs_cloudRequest_transmits h
  have hpayload : P.sizeofCldhdr + t.length < P.cldMaxPktsize → ∀ past,
      packetPayload P t past = t.bytes ++ List.replicate (padded t.length - t.length) 0 :=
    fun hfits past => payloadOf_inside (hf.resolve_left (not_le.2 hfits)) past
  cases ht with
  | tooLarge _ =>
    have hsince : w.since (w.log (.tooLarge cmd)) = [.tooLarge cmd] := World.since_eq rfl
    refine Or.inr ⟨?_, hr.trans (if_pos rfl)⟩
    rw [hsince]
    rfl
  | @writeFailed past ret hfits _ =>
    left
    rw [handed_wrote rfl, hpayload hfits past]
  | @noReply past mem ret hfits _ =>
    left
    rw [handed_replied rfl, hpayload hfits past]
  | @answered past r hfits _ _ _ _ =>
    left
    rw [handed_replied rfl, hpayload hfits past]

/-- A packet whose writing fails. -/
theorem runs_tcpWritePacket_failed (fd : ℤ) (hdr : CldHdr) (payload : List UInt8) :
    Runs (tcpWritePacket fd hdr payload) w (-1) (w.log (.wrote fd hdr payload (-1))) := by
  apply runs_perform.2
  refine ⟨.writes [.err], ?_⟩
  show (if fd ∈ w.sockets then _ else _) = _
  split_ifs
  · rfl
  · rfl

/-- What lies past the end of the buffer may go out. -/
theorem exists_past (cmd : ℕ) (other : List UInt8 → CommonStatus) (w : World P)
    (hf : ¬ RoundingFits P t) : ∃ fd hdr payload, payload.getLast? = some 1 ∧
      Runs (cloudRequest cmd t other) w .cloudNetwork (w.log (.wrote fd hdr payload (-1))) := by
  obtain ⟨hsmall, hover⟩ := not_or.1 hf
  have hpos := P.sizeofCldhdr_pos
  obtain ⟨k, hk⟩ : ∃ k, P.sizeofCldhdr + padded t.length = P.cldMaxPktsize + (k + 1) :=
    ⟨P.sizeofCldhdr + padded t.length - P.cldMaxPktsize - 1, by omega⟩
  let past : List UInt8 := List.replicate (k + 1) 1
  have hlast : (payloadOf P t (padded t.length) past).getLast? = some 1 := by
    rw [payloadOf_past (by omega) (by rw [List.length_replicate]; exact hk)]
    simp [past, List.getLast?_append, List.getLast?_replicate]
  refine ⟨w.cloud.fd, ⟨P.cldMagic, P.cldVer, cmd, 0, padded t.length / 4⟩, _, hlast, ?_⟩
  unfold cloudRequest
  rw [CStr.take_of_length_le (by omega), runs_bind]
  refine ⟨(-1, textBuf P t), _, ?_, runs_pure.2 ⟨rfl, rfl⟩⟩
  unfold cloudSendPacket
  rw [if_neg hsmall]
  simp only [runs_bind, runs_stack, runs_getCloud]
  refine ⟨past, w, ⟨?_, rfl⟩, _, w, ⟨rfl, rfl⟩, -1, _, runs_tcpWritePacket_failed _ _ _, ?_⟩
  · rw [List.length_replicate, hk]
    omega
  · rw [if_pos (by decide)]
    exact runs_pure.2 ⟨rfl, rfl⟩

/-- No text ends like that. -/
theorem not_sentWhole {fd ret : ℤ} {hdr : CldHdr} {payload : List UInt8}
    (htr : w'.trace = .wrote fd hdr payload ret :: w.trace) (hlast : payload.getLast? = some 1)
    (t : CStr) : ¬ SentWhole t w r w' := by
  unfold SentWhole
  rw [handed_wrote htr]
  rintro (heq | ⟨heq, -⟩)
  · obtain ⟨k, hk⟩ : ∃ k, padded t.length - t.length = k + 1 :=
      ⟨padded t.length - t.length - 1, by have := lt_padded t.length; omega⟩
    obtain rfl := (List.cons.inj heq).1
    rw [hk, List.getLast?_append] at hlast
    simp [List.getLast?_replicate] at hlast
  · cases heq

/-! ## The four functions -/

variable {q : Rendered}

/-- Each of them is a request with one of its texts. -/
theorem runs_send (h : Runs q.send w r w') : ∃ t w₁, q.Text w.cloud t ∧
    Runs (cloudRequest (q.cmd P) t q.other) w r w₁ ∧ w'.trace = w₁.trace := by
  cases q with
  | regusr account username password =>
    simp only [Rendered.send, cloudDoRegusr, runs_bind, runs_stack] at h
    obtain ⟨mem, _, ⟨hmem, rfl⟩, h⟩ := h
    exact ⟨_, w', .regusr ⟨mem, hmem, rfl⟩, h, rfl⟩
  | auth =>
    simp only [Rendered.send, cloudDoAuth, runs_bind, runs_getCloud] at h
    obtain ⟨_, _, ⟨rfl, rfl⟩, h⟩ := h
    exact ⟨_, w', .auth, h, rfl⟩
  | bind =>
    simp only [Rendered.send, cloudDoBind, runs_bind, runs_stack, runs_getCloud] at h
    obtain ⟨mem, _, ⟨hmem, rfl⟩, _, _, ⟨rfl, rfl⟩, h⟩ := h
    exact ⟨_, w', .bind ⟨mem, hmem, rfl⟩, h, rfl⟩
  | update =>
    obtain ⟨w₁, hreq, rfl⟩ := runs_cloudDoUpdate_iff.1 h
    refine ⟨_, w₁, .update, hreq, ?_⟩
    split
    · rfl
    · rfl

/-- Each of its texts may be the one. -/
theorem exists_send {w₁ : World P} (ht : q.Text w.cloud t)
    (h : Runs (cloudRequest (q.cmd P) t q.other) w r w₁) :
    ∃ w', Runs q.send w r w' ∧ w'.trace = w₁.trace := by
  cases ht with
  | regusr hcode =>
    obtain ⟨mem, hmem, rfl⟩ := hcode
    refine ⟨w₁, ?_, rfl⟩
    simp only [Rendered.send, cloudDoRegusr, runs_bind, runs_stack]
    exact ⟨mem, w, ⟨hmem, rfl⟩, h⟩
  | auth =>
    refine ⟨w₁, ?_, rfl⟩
    simp only [Rendered.send, cloudDoAuth, runs_bind, runs_getCloud]
    exact ⟨_, w, ⟨rfl, rfl⟩, h⟩
  | bind hcode =>
    obtain ⟨mem, hmem, rfl⟩ := hcode
    refine ⟨w₁, ?_, rfl⟩
    simp only [Rendered.send, cloudDoBind, runs_bind, runs_stack, runs_getCloud]
    exact ⟨mem, w, ⟨hmem, rfl⟩, _, w, ⟨rfl, rfl⟩, h⟩
  | update =>
    refine ⟨_, runs_cloudDoUpdate_iff.2 ⟨w₁, h, rfl⟩, ?_⟩
    split
    · rfl
    · rfl

/-- A text that cannot be rounded up shows a run that breaks the law. -/
theorem exists_not_sentWhole (ht : q.Text w.cloud t) (hf : ¬ RoundingFits P t) :
    ∃ r w', Runs q.send w r w' ∧ ∀ t', ¬ SentWhole t' w r w' := by
  obtain ⟨fd, hdr, payload, hlast, hrun⟩ := exists_past (q.cmd P) q.other w hf
  obtain ⟨w', hsend, htr⟩ := exists_send ht hrun
  exact ⟨_, w', hsend, not_sentWhole htr hlast⟩

/-- **No truncated request is sent.**  Each of the four functions hands the whole text with its
zero padding to `tcp_write`, or nothing, if and only if each text that it may render is too
large for a packet or can be rounded up. -/
theorem sentWhole_iff (q : Rendered) (w : World P) :
    (∀ r w', Runs q.send w r w' → ∃ t, q.Text w.cloud t ∧ SentWhole t w r w') ↔
      ∀ t, q.Text w.cloud t → RoundingFits P t := by
  constructor
  · intro hall t ht
    by_contra hf
    obtain ⟨r, w', hrun, hnot⟩ := exists_not_sentWhole ht hf
    obtain ⟨t', -, hsent⟩ := hall r w' hrun
    exact hnot t' hsent
  · intro hfits r w' hrun
    obtain ⟨t, w₁, ht, hreq, htr⟩ := runs_send hrun
    refine ⟨t, ht, ?_⟩
    have hsent := (hfits t ht).sentWhole hreq
    unfold SentWhole at hsent ⊢
    rwa [World.since_congr htr]

end Sending

/-- Packets of 61 bytes. -/
def oddProtocol : CldProtocol :=
  { sampleProtocol with
    cldMaxPktsize := 61
    sizeofCldhdr_lt := by decide
    cldMaxPktsize_lt := by decide }

/-- A registration of 52 bytes, of which 53 have room and 56 are sent. -/
theorem regusr_sends_past : ¬ ∀ (P : CldProtocol) (q : Rendered) (w w' : World P)
    (r : CommonStatus), Runs q.send w r w' → ∃ t, q.Text w.cloud t ∧ SentWhole t w r w' := by
  intro hall
  have ht : (Rendered.regusr (CStr.lit "sixteen.letters.") (CStr.lit "") (CStr.lit "")).Text
      (onlineWorld oddProtocol).cloud _ := .regusr ⟨List.replicate 36 0, rfl, rfl⟩
  obtain ⟨r, w', hrun, hnot⟩ := exists_not_sentWhole ht (by decide +kernel)
  obtain ⟨t, -, hsent⟩ := hall oddProtocol _ _ w' r hrun
  exact hnot t hsent

end SwCloud
