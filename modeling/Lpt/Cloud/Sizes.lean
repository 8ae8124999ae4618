import Lpt.Cloud.Framing

/-!
# The sizes a packet can announce

A header announces its payload in words of four bytes.  Every size is received but the
smallest: a payload of no bytes is read with a `read` of no bytes, whose result 0 is taken
for the end of the stream.

* `SizeReceived` — packets with this header are received, and a call fails only if the
  stream does.
* `tcpReadFrom_failed` — what has happened when `tcp_read` fails.
* `sizeReceived_iff` — the sizes that are received.
-/

namespace SwCloud

open CLib Effect

variable {P : CldProtocol}

/-- The calls of `read` between `es` and `es'` show that a read has failed or that the peer
has closed the stream: none of its `n` bytes was there any more. -/
def StreamLost (s : List UInt8) (n : ℕ) (es es' : List ReadEv) : Prop :=
  ∃ used, es = used ++ es' ∧ (ReadEv.err ∈ used ∨ ReadEv.data 0 ∈ used ∨ s.length < n)

/-- **A header whose payload of `n` words is received.** -/
structure SizeReceived (P : CldProtocol) (hd : List UInt8) (n : ℕ) : Prop where
  /-- The header and the payload are stored, and the stream is left at the next packet. -/
  received : ∀ {payload rest res : List UInt8} {es : List ReadEv}, payload.length = 4 * n →
    P.sizeofCldhdr + 4 * n ≤ res.length → Cuts es →
    (cloudRecvPacket P res (hd ++ (payload ++ rest)) es = none ∧
        reads es < P.sizeofCldhdr + 4 * n) ∨
      ∃ es', cloudRecvPacket P res (hd ++ (payload ++ rest)) es =
        some ⟨(P.sizeofCldhdr + 4 * n : ℕ),
          hd ++ payload ++ res.drop (P.sizeofCldhdr + 4 * n), rest, es'⟩
  /-- A call that fails has lost the stream. -/
  lost : ∀ {s res : List UInt8} {es : List ReadEv} {r : RecvResult}, hd <+: s →
    P.sizeofCldhdr + 4 * n ≤ res.length → cloudRecvPacket P res s es = some r → r.ret = -1 →
    StreamLost s (P.sizeofCldhdr + 4 * n) es r.evs

/-! ## When a read fails -/

section Failing

variable {s hd res : List UInt8} {es : List ReadEv}

/-- **When a `tcp_read` of at least one byte fails**, a read has failed or the stream had
too few bytes. -/
theorem tcpReadFrom_failed {size : ℤ} {off : ℕ} {r : ReadResult} (hoff : (off : ℤ) < size)
    (hmax : size < 2147483648) (h : tcpReadFrom size off s es = some r) (hr : r.ret ≠ 0) :
    ∃ used, es = used ++ r.evs ∧
      (ReadEv.err ∈ used ∨ ReadEv.data 0 ∈ used ∨ (off + s.length : ℕ) < size) := by
  induction es generalizing off s r with
  | nil => cases h
  | cons e es ih =>
    have hn : toSize (size - off) = (size - off).toNat := by
      rw [toSize]
      omega
    -- the calls after this one
    have hcons : ∀ {evs : List ReadEv} {n : ℕ}, (∃ used, es = used ++ evs ∧
        (ReadEv.err ∈ used ∨ ReadEv.data 0 ∈ used ∨ (n : ℤ) < size)) →
        ∃ used, e :: es = used ++ evs ∧
          (ReadEv.err ∈ used ∨ ReadEv.data 0 ∈ used ∨ (n : ℤ) < size) := by
      rintro evs n ⟨used, rfl, hused⟩
      refine ⟨e :: used, rfl, ?_⟩
      exact hused.imp (List.mem_cons_of_mem _) (Or.imp_left (List.mem_cons_of_mem _))
    have hcount : (size - off).toNat ≤ ssizeMax := by
      rw [ssizeMax]
      omega
    rw [tcpReadFrom, hn, readCall_of_le hcount] at h
    cases e with
    | eintr =>
      simp only at h
      rw [if_neg (by omega)] at h
      simp only at h
      rw [if_pos hoff] at h
      exact hcons (ih hoff h hr)
    | err =>
      cases h
      exact ⟨[.err], rfl, Or.inl (List.mem_singleton_self _)⟩
    | data k =>
      simp only at h
      split_ifs at h with hnil hlt
      · cases h
        refine ⟨[.data k], rfl, Or.inr ?_⟩
        rw [List.take_eq_nil_iff] at hnil
        rcases hnil with hk | hs
        · have hk0 : k = 0 := by omega
          rw [hk0]
          exact Or.inl (List.mem_singleton_self _)
        · rw [hs, List.length_nil]
          exact Or.inr (by omega)
      · obtain ⟨r', hr', rfl⟩ := Option.map_eq_some_iff.1 h
        have hlost := ih hlt hr' hr
        rw [List.length_drop, List.length_take] at hlost
        have hlen : off + min (min k (size - off).toNat) s.length +
            (s.length - min (min k (size - off).toNat) s.length) = off + s.length := by
          omega
        rw [hlen] at hlost
        exact hcons hlost
      · cases h
        exact absurd rfl hr

/-- The results of `read` that are left over are the last ones. -/
theorem tcpReadFrom_suffix {size : ℤ} {off : ℕ} {r : ReadResult}
    (h : tcpReadFrom size off s es = some r) : r.evs <:+ es := by
  induction es generalizing off s r with
  | nil => cases h
  | cons e es ih =>
    have htail : es <:+ e :: es := List.suffix_cons e es
    unfold tcpReadFrom at h
    split at h
    · split_ifs at h
      · exact (ih h).trans htail
      · cases h
        exact htail
    · cases h
      exact htail
    · split_ifs at h
      · cases h
        exact htail
      · obtain ⟨r', hr', rfl⟩ := Option.map_eq_some_iff.1 h
        exact (ih hr').trans htail
      · cases h
        exact htail

variable {n : ℕ}

theorem sizeBytes_eq (hlen : hd.length = P.sizeofCldhdr) (hn : (P.dec hd).size = n)
    (hmax : P.sizeofCldhdr + 4 * n < 2147483648) : sizeBytes P hd = (4 * n : ℕ) := by
  rw [sizeBytes, List.take_of_length_le hlen.le, hn, toInt32_eq (by omega) (by omega)]
  push_cast
  omega

/-- **What a call that fails has met with**, if the header announces a payload. -/
theorem cloudRecvPacket_failed {r : RecvResult} (hlen : hd.length = P.sizeofCldhdr)
    (hn : (P.dec hd).size = n) (hmax : P.sizeofCldhdr + 4 * n < 2147483648) (hpos : 0 < n)
    (hs : hd <+: s) (h : cloudRecvPacket P res s es = some r) (hr : r.ret = -1) :
    StreamLost s (P.sizeofCldhdr + 4 * n) es r.evs := by
  have hhdr := P.sizeofCldhdr_pos
  cases cloudRecvPacket_iff.1 h with
  | @noHeader r₁ h₁ hr₁ =>
    obtain ⟨used, hes, hlost⟩ := tcpReadFrom_failed (by omega) (by omega) h₁ hr₁
    refine ⟨used, hes, hlost.imp_right (Or.imp_right ?_)⟩
    intro hlt
    omega
  | @payload r₁ r₂ h₁ hr₁ hlen₁ h₂ =>
    have hsplit := tcpReadFrom_append h₁
    -- the bytes taken are the header
    have hbytes : r₁.bytes = hd := by
      have hpre : r₁.bytes <+: s := ⟨_, hsplit⟩
      exact (List.prefix_of_prefix_length_le hpre hs (by omega)).eq_of_length (by omega)
    rw [hbytes] at hsplit
    rw [hbytes, sizeBytes_eq hlen hn hmax] at h₂ hr
    by_cases hr₂ : r₂.ret = 0
    · -- the packet was received
      have hret : (if r₂.ret = 0 then toInt32 (P.sizeofCldhdr + (4 * n : ℕ)) else -1) = -1 := hr
      rw [if_pos hr₂, toInt32_eq (by omega) (by omega)] at hret
      omega
    · obtain ⟨used₂, hes₂, hlost⟩ := tcpReadFrom_failed (by omega) (by omega) h₂ hr₂
      obtain ⟨used₁, hes₁⟩ := tcpReadFrom_suffix h₁
      refine ⟨used₁ ++ used₂, by rw [List.append_assoc, ← hes₂, hes₁], ?_⟩
      rcases hlost with herr | hclosed | hshort
      · exact Or.inl (List.mem_append_right _ herr)
      · exact Or.inr (Or.inl (List.mem_append_right _ hclosed))
      · refine Or.inr (Or.inr ?_)
        rw [← hsplit, List.length_append]
        omega

end Failing

/-! ## The law of the sizes -/

section Law

variable {hd : List UInt8} {n : ℕ}

/-- **A packet without a payload is refused**: a call that finds its header fails. -/
theorem cloudRecvPacket_empty {s res : List UInt8} {es : List ReadEv} {r : RecvResult}
    (hlen : hd.length = P.sizeofCldhdr) (hn : (P.dec hd).size = 0) (hs : hd <+: s)
    (h : cloudRecvPacket P res s es = some r) : r.ret = -1 := by
  have hhdr := P.sizeofCldhdr_pos
  cases cloudRecvPacket_iff.1 h with
  | noHeader h₁ hr₁ => rfl
  | @payload r₁ r₂ h₁ hr₁ hlen₁ h₂ =>
    have hbytes : r₁.bytes = hd := by
      have hpre : r₁.bytes <+: s := ⟨_, tcpReadFrom_append h₁⟩
      exact (List.prefix_of_prefix_length_le hpre hs (by omega)).eq_of_length (by omega)
    have hsize : sizeBytes P hd = 0 := by
      rw [sizeBytes, List.take_of_length_le hlen.le, hn]
      rfl
    rw [hbytes, hsize] at h₂
    rw [if_neg (by rw [tcpRead_zero h₂]; decide)]

/-- **Which sizes are received**: every header that announces a payload of at least one word
and of no more bytes than an `int` can count. -/
theorem sizeReceived_iff (hlen : hd.length = P.sizeofCldhdr) (hn : (P.dec hd).size = n)
    (hmax : P.sizeofCldhdr + 4 * n < 2147483648) : SizeReceived P hd n ↔ n ≠ 0 := by
  have hhdr := P.sizeofCldhdr_pos
  constructor
  · rintro h rfl
    let es := List.replicate (P.sizeofCldhdr + 1) (ReadEv.data 1)
    have hes : Cuts es := by
      constructor
      · intro herr
        cases List.eq_of_mem_replicate herr
      · intro hclosed
        cases List.eq_of_mem_replicate hclosed
    have hreads : reads es = P.sizeofCldhdr + 1 := by
      unfold reads
      rw [List.countP_replicate]
      rfl
    have hcall := @SizeReceived.received _ _ _ h [] [] (List.replicate P.sizeofCldhdr 0) es rfl
      (by simp) hes
    rcases hcall with ⟨hnone, hlt⟩ | ⟨es', hsome⟩
    · omega
    · have hret := cloudRecvPacket_empty hlen hn (List.prefix_append hd _) hsome
      simp only at hret
      omega
  · intro hne
    have hpos : 0 < n := Nat.pos_of_ne_zero hne
    constructor
    · intro payload rest res es hpay _ hes
      have hsize : sizeBytes P hd = payload.length := by
        rw [sizeBytes_eq hlen hn hmax, hpay]
      have hcall := cloudRecvPacket_cuts res rest hlen hsize
        (List.ne_nil_of_length_pos (by omega)) (by omega) hes
      rw [hpay] at hcall
      push_cast
      push_cast at hcall
      exact hcall
    · intro s res es r hs _ hr hret
      exact cloudRecvPacket_failed hlen hn hmax hpos hs hr hret

/-- A header to which the law applies: one of a single word. -/
theorem sizeReceived_one : SizeReceived sampleProtocol (sampleEnc ⟨77, 1, 6, 0, 1⟩) 1 :=
  (sizeReceived_iff rfl (by decide) (by decide)).2 (by decide)

/-- A packet without a payload is taken for the end of the stream. -/
theorem empty_payload_lost :
    ¬ ∀ (hd : List UInt8) (n : ℕ), hd.length = sampleProtocol.sizeofCldhdr →
      (sampleProtocol.dec hd).size = n → sampleProtocol.sizeofCldhdr + 4 * n < 2147483648 →
      SizeReceived sampleProtocol hd n := by
  intro hall
  have h := hall (sampleEnc ⟨77, 1, 6, 0, 0⟩) 0 rfl (by decide) (by decide)
  have hcall := @SizeReceived.received _ _ _ h [] [] (List.replicate 8 0) [.data 8, .data 1] rfl
    (by decide) ⟨by decide, by decide⟩
  rcases hcall with ⟨hnone, -⟩ | ⟨es', hsome⟩
  · exact absurd hnone (by decide +kernel)
  · have hret := cloudRecvPacket_empty rfl (by decide) (List.prefix_append _ _) hsome
    exact absurd hret (show ¬ (8 : ℤ) = -1 by decide)

end Law

end SwCloud
