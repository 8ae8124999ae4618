import Lpt.Cloud.Tcp

/-!
# The bound of the receive buffer

`cloud_recv_packet` is given the length of its buffer and does not look at it: the number
of payload bytes it reads comes from the header alone.  A size that is negative as an `int` is
one that no `read` accepts, so nothing is stored for it.

* `RecvShape` — what a call has stored, and what it returns.
* `RecvBounded` — no call on this stream stores a byte behind the buffer or returns more
  than its length.
* `recvBounded_iff` — for which streams that holds: those that do not have so many bytes, and
  those whose header gives a size that fits.
-/

namespace SwCloud

open CLib

variable {P : CldProtocol} {res s : List UInt8} {es : List ReadEv}

/-! ## What a call stores -/

/-- Everything that a call of `cloud_recv_packet` can have stored. -/
inductive RecvShape (P : CldProtocol) (res s : List UInt8) (r : RecvResult) : Prop
  /-- The header was not read. -/
  | noHeader (hd : List UInt8) : hd.length ≤ P.sizeofCldhdr → r.mem = store res 0 hd →
      r.ret = -1 → RecvShape P res s r
  /-- A part of the payload, or all of it, was read behind the header. -/
  | payload (hd body : List UInt8) : hd.length = P.sizeofCldhdr → hd ++ body <+: s →
      r.mem = store (store res 0 hd) P.sizeofCldhdr body →
      (body.length : ℤ) ≤ max 0 (sizeBytes P s) →
      (r.ret = -1 ∨ r.ret = toInt32 (P.sizeofCldhdr + sizeBytes P s) ∧
        0 < sizeBytes P s ∧ (body.length : ℤ) = sizeBytes P s) → RecvShape P res s r

theorem cloudRecvPacket_shape {r : RecvResult} (h : cloudRecvPacket P res s es = some r) :
    RecvShape P res s r := by
  cases cloudRecvPacket_iff.1 h with
  | @noHeader r₁ h₁ _ =>
    have hle := tcpReadFrom_length_le (Int.natCast_nonneg _) h₁
    exact .noHeader r₁.bytes (by omega) rfl rfl
  | @payload r₁ r₂ h₁ hr₁ hlen h₂ =>
    have hs := tcpReadFrom_append h₁
    have hs₂ := tcpReadFrom_append h₂
    have hsize : sizeBytes P r₁.bytes = sizeBytes P s := by rw [← hs, sizeBytes_append hlen]
    rw [hsize] at h₂ ⊢
    have hpre : r₁.bytes ++ r₂.bytes <+: s := ⟨r₂.stream, by rw [List.append_assoc, hs₂, hs]⟩
    have hrange := (sizeBytes_range P s).1
    apply RecvShape.payload r₁.bytes r₂.bytes hlen hpre rfl (tcpRead_length_le hrange h₂)
    by_cases hr₂ : r₂.ret = 0
    · rw [if_pos hr₂]
      exact Or.inr ⟨rfl, tcpRead_received hrange h₂ hr₂⟩
    · rw [if_neg hr₂]
      exact Or.inl rfl

/-! ## The bound -/

/-- No call on the stream `s` stores a byte behind the buffer `res`, and none returns more
than the length of the buffer, however the stream is cut. -/
def RecvBounded (P : CldProtocol) (res s : List UInt8) : Prop :=
  ∀ es r, cloudRecvPacket P res s es = some r →
    r.mem.length ≤ res.length ∧ (0 < r.ret → r.ret ≤ res.length)

/-- The stream ends inside the buffer, or its header gives a size that fits.  A negative size
always does. -/
def Fits (P : CldProtocol) (n : ℕ) (s : List UInt8) : Prop :=
  s.length ≤ n ∨ P.sizeofCldhdr + sizeBytes P s ≤ n

theorem recvBounded_of_fits (hlen : P.sizeofCldhdr ≤ res.length) (h : Fits P res.length s) :
    RecvBounded P res s := by
  intro es r hr
  have hrange := sizeBytes_range P s
  have hret : toInt32 (P.sizeofCldhdr + sizeBytes P s) ≤ P.sizeofCldhdr + sizeBytes P s :=
    toInt32_le (by omega)
  cases cloudRecvPacket_shape hr with
  | noHeader hd hhd hmem hr =>
    rw [hmem, length_store, hr]
    exact ⟨by omega, fun h0 => absurd h0 (by decide)⟩
  | payload hd body hhd hpre hmem hbody hr =>
    have hs := hpre.length_le
    rw [List.length_append] at hs
    rw [hmem, length_store, length_store]
    unfold Fits at h
    refine ⟨by omega, ?_⟩
    intro h0
    rcases hr with hr | ⟨hr, hfull⟩
    · rw [hr] at h0
      exact absurd h0 (by decide)
    · rw [hr]
      omega

/-- A read as long as the stream allows, and then an error. -/
theorem tcpRead_greedy {size : ℤ} (hs : s ≠ []) (hpos : 0 < size) (hsize : size < 2147483648) :
    ∃ r, tcpRead size s [.data s.length, .err] = some r ∧ r.bytes = s.take size.toNat := by
  have hcount : toSize (size - (0 : ℕ)) = size.toNat := by
    rw [Nat.cast_zero, Int.sub_zero]
    exact toSize_of_nonneg hpos.le (by omega)
  have htake : s.take (min s.length size.toNat) = s.take size.toNat := by
    rw [List.take_eq_take_iff]
    omega
  have hne : s.take size.toNat ≠ [] := by
    rw [ne_eq, List.take_eq_nil_iff]
    exact not_or.2 ⟨by omega, hs⟩
  unfold tcpRead tcpReadFrom
  rw [hcount, readCall_of_le (by rw [ssizeMax]; omega)]
  simp only [htake]
  rw [if_neg hne]
  split_ifs with hlt
  · unfold tcpReadFrom
    rw [readCall_err]
    exact ⟨_, rfl, List.append_nil _⟩
  · exact ⟨_, rfl, rfl⟩

/-- A header that is read in one piece. -/
theorem tcpRead_header (hlen : P.sizeofCldhdr ≤ s.length) (es : List ReadEv) :
    tcpRead P.sizeofCldhdr s (.data P.sizeofCldhdr :: es) =
      some ⟨0, s.take P.sizeofCldhdr, s.drop P.sizeofCldhdr, es⟩ := by
  have hpos := P.sizeofCldhdr_pos
  have hmax := P.sizeofCldhdr_lt
  have hint := P.cldMaxPktsize_lt
  have hsize : toSize ((P.sizeofCldhdr : ℤ) - (0 : ℕ)) = P.sizeofCldhdr := by
    rw [Nat.cast_zero, Int.sub_zero]
    exact toSize_natCast (by omega)
  have hcount : (s.take P.sizeofCldhdr).length = P.sizeofCldhdr := List.length_take_of_le hlen
  have hne : s.take P.sizeofCldhdr ≠ [] := fun hn => by
    rw [hn] at hcount
    simp at hcount
    omega
  unfold tcpRead tcpReadFrom
  rw [hsize, readCall_of_le (by rw [ssizeMax]; omega)]
  simp only [min_self]
  rw [if_neg hne, hcount, if_neg (by simp)]

/-- A stream that goes on behind the buffer, with a header whose size does not fit, is
stored behind the buffer: the payload is read in one piece. -/
theorem exists_overflow (hlen : P.sizeofCldhdr ≤ res.length) (h : ¬ Fits P res.length s) :
    ∃ es r, cloudRecvPacket P res s es = some r ∧ res.length < r.mem.length := by
  obtain ⟨hlong, hsize⟩ := not_or.1 h
  have hrange := sizeBytes_range P s
  have hhd : P.sizeofCldhdr ≤ s.length := by omega
  have hcount : (s.take P.sizeofCldhdr).length = P.sizeofCldhdr := List.length_take_of_le hhd
  have hsz : sizeBytes P (store res 0 (s.take P.sizeofCldhdr)) = sizeBytes P s := by
    rw [sizeBytes, sizeBytes, store_zero, List.take_left' hcount]
  -- a size that does not fit is positive, and all of it is asked of the kernel
  have hbig : res.length < P.sizeofCldhdr + (sizeBytes P s).toNat := by omega
  have hne : s.drop P.sizeofCldhdr ≠ [] := by
    rw [ne_eq, List.drop_eq_nil_iff]
    omega
  obtain ⟨r, hr, hbytes⟩ := tcpRead_greedy hne (by omega) hrange.2
  have hstored : res.length <
      (store (store res 0 (s.take P.sizeofCldhdr)) P.sizeofCldhdr r.bytes).length := by
    rw [length_store, hbytes, List.length_take, List.length_drop]
    omega
  have hcall : (cloudRecvPacket P res s
      (.data P.sizeofCldhdr :: [.data (s.drop P.sizeofCldhdr).length, .err])).map RecvResult.mem =
        some (store (store res 0 (s.take P.sizeofCldhdr)) P.sizeofCldhdr r.bytes) := by
    unfold cloudRecvPacket
    rw [tcpRead_header hhd, Option.bind_some]
    simp only [hsz, hr, ne_eq, not_true_eq_false, if_false, Option.map_some]
    split <;> rfl
  obtain ⟨r', hr', hmem⟩ := Option.map_eq_some_iff.1 hcall
  exact ⟨_, r', hr', hmem ▸ hstored⟩

/-- **Which streams are bounded**: no call stores a byte behind the buffer or returns more
than its length exactly if the stream ends inside the buffer or its header gives a size that
fits, be it because it is negative. -/
theorem recvBounded_iff (P : CldProtocol) {res s : List UInt8}
    (hlen : P.sizeofCldhdr ≤ res.length) : RecvBounded P res s ↔ Fits P res.length s := by
  refine ⟨fun h => ?_, recvBounded_of_fits hlen⟩
  by_contra hn
  obtain ⟨es, r, hr, hover⟩ := exists_overflow hlen hn
  exact absurd (h es r hr).1 (not_le.2 hover)

/-- A buffer of `CLD_MAX_PKTSIZE` bytes, and in front of more bytes than it can hold the header
of a packet that fits, and one whose size is negative. -/
theorem recvBounded_iff_fits :
    sampleProtocol.sizeofCldhdr ≤ (List.replicate 64 (0 : UInt8)).length ∧
    RecvBounded sampleProtocol (List.replicate 64 0)
      (sampleEnc ⟨77, 1, 6, 0, 14⟩ ++ List.replicate 80 65) ∧
    RecvBounded sampleProtocol (List.replicate 64 0)
      (sampleEnc ⟨77, 1, 6, 0, 536870912⟩ ++ List.replicate 80 65) :=
  ⟨by decide, (recvBounded_iff sampleProtocol (by decide)).2 (Or.inr (by decide)),
    (recvBounded_iff sampleProtocol (by decide)).2 (Or.inr (by decide))⟩

/-- A header whose size field is `CLD_MAX_PKTSIZE / 4`: with its payload the packet is longer
than the buffer of `CLD_MAX_PKTSIZE` bytes, and it is stored behind its end. -/
theorem recv_overflow : ¬ RecvBounded sampleProtocol (List.replicate 64 0)
    (sampleEnc ⟨77, 1, 6, 0, 16⟩ ++ List.replicate 64 65) := by
  intro h
  have hrun : (cloudRecvPacket sampleProtocol (List.replicate 64 0)
      (sampleEnc ⟨77, 1, 6, 0, 16⟩ ++ List.replicate 64 65) [.data 8, .data 64]).any
        (fun r => decide (r.ret = 72 ∧ r.mem.length = 72)) = true := by decide +kernel
  obtain ⟨r, hr, hover⟩ := (Option.any_eq_true _ _).1 hrun
  have hbound := (h _ r hr).1
  rw [(of_decide_eq_true hover).2] at hbound
  exact absurd hbound (by decide)

end SwCloud
