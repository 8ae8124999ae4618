import Lpt.Cloud.Protocol

/-!
# `tcp_read`, `tcp_write` and `cloud_recv_packet` on bytes

The loops are run against the results of the `read` and `write` calls they make,
given as a list, and (for reading) the bytes the peer has sent.  A loop whose
list is used up has not returned yet, which is the result `none`.

`size` is the `int` argument of the source and may be negative or zero; the
number of bytes asked of the kernel is its conversion to `size_t`.  A negative
size becomes a count that `read` refuses.
-/

namespace SwCloud

open CLib

/-- The result of one `read` call. -/
inductive ReadEv where
  /-- `-1` with `EINTR`. -/
  | eintr
  /-- `-1` with another error. -/
  | err
  /-- At most `k` bytes of those asked for, as far as the stream has them; none
  of them is the end of the stream. -/
  | data (k : ℕ)
  deriving DecidableEq

/-- The result of one `write` call. -/
inductive WriteEv where
  /-- `-1` with `EINTR`. -/
  | eintr
  /-- `-1` with another error. -/
  | err
  /-- At most `k` of the bytes offered were taken. -/
  | sent (k : ℕ)
  deriving DecidableEq

/-- What a `read` call gives its caller. -/
inductive ReadCall where
  | eintr
  | err
  /-- These bytes were stored and their number returned. -/
  | got (bs : List UInt8)
  deriving DecidableEq

/-- `read(fd, p, n)` on the stream `s`.  Asked for no bytes it returns 0 at once; a count above
`SSIZE_MAX` is refused with `EINVAL`, and nothing is read. -/
def readCall (n : ℕ) (s : List UInt8) (e : ReadEv) : ReadCall :=
  if ssizeMax < n then .err
  else
    match e with
    | .eintr => if n = 0 then .got [] else .eintr
    | .err => .err
    | .data k => .got (s.take (min k n))

/-- A finished `tcp_read`. -/
structure ReadResult where
  /-- The return value. -/
  ret : ℤ
  /-- The bytes stored at `data`. -/
  bytes : List UInt8
  /-- What is left of the stream. -/
  stream : List UInt8
  /-- The results of `read` not used. -/
  evs : List ReadEv
  deriving DecidableEq

/-- The loop of `tcp_read` from the offset `off` on. -/
def tcpReadFrom (size : ℤ) (off : ℕ) (s : List UInt8) : List ReadEv → Option ReadResult
  | [] => none
  | e :: es =>
      match readCall (toSize (size - off)) s e with
      -- `continue` in a `do ... while` goes to the loop test
      | .eintr => if (off : ℤ) < size then tcpReadFrom size off s es else some ⟨0, [], s, es⟩
      | .err => some ⟨-1, [], s, es⟩
      | .got bs =>
          if bs = [] then some ⟨-1, [], s, es⟩
          else if (off + bs.length : ℕ) < size then
            (tcpReadFrom size (off + bs.length) (s.drop bs.length) es).map fun r =>
              { r with bytes := bs ++ r.bytes }
          else some ⟨0, bs, s.drop bs.length, es⟩

/-- `tcp_read`. -/
def tcpRead (size : ℤ) (s : List UInt8) (es : List ReadEv) : Option ReadResult :=
  tcpReadFrom size 0 s es

/-- A finished `tcp_write`. -/
structure WriteResult where
  /-- The return value. -/
  ret : ℤ
  /-- The bytes the kernel has taken, in this order. -/
  bytes : List UInt8
  /-- The results of `write` not used. -/
  evs : List WriteEv
  deriving DecidableEq

/-- The loop of `tcp_write` from the offset `off` on. -/
def tcpWriteFrom (data : List UInt8) (off : ℕ) : List WriteEv → Option WriteResult
  | [] => none
  | .eintr :: es => if off < data.length then tcpWriteFrom data off es else some ⟨0, [], es⟩
  | .err :: es => some ⟨-1, [], es⟩
  | .sent k :: es =>
      let bs := (data.drop off).take k
      if off + bs.length < data.length then
        (tcpWriteFrom data (off + bs.length) es).map fun r => { r with bytes := bs ++ r.bytes }
      else some ⟨0, bs, es⟩

/-- `tcp_write`. -/
def tcpWrite (data : List UInt8) (es : List WriteEv) : Option WriteResult := tcpWriteFrom data 0 es

/-- A finished `cloud_recv_packet`. -/
structure RecvResult where
  /-- The return value. -/
  ret : ℤ
  /-- The memory from `res` on. -/
  mem : List UInt8
  /-- What is left of the stream. -/
  stream : List UInt8
  /-- The results of `read` not used. -/
  evs : List ReadEv
  deriving DecidableEq

/-- `hdr->size<<2` as an `int`, for the header at the beginning of the memory `m`. -/
def sizeBytes (P : CldProtocol) (m : List UInt8) : ℤ :=
  toInt32 ((P.dec (m.take P.sizeofCldhdr)).size * 4)

/-- `cloud_recv_packet(res, len)` on a stream; the argument `len` is not used by
the source. -/
def cloudRecvPacket (P : CldProtocol) (res s : List UInt8) (es : List ReadEv) :
    Option RecvResult :=
  (tcpRead P.sizeofCldhdr s es).bind fun r =>
    let res := store res 0 r.bytes
    if r.ret ≠ 0 then some ⟨-1, res, r.stream, r.evs⟩
    else
      let size := sizeBytes P res
      (tcpRead size r.stream r.evs).map fun r' =>
        let res := store res P.sizeofCldhdr r'.bytes
        if r'.ret ≠ 0 then ⟨-1, res, r'.stream, r'.evs⟩
        else ⟨toInt32 (P.sizeofCldhdr + size), res, r'.stream, r'.evs⟩

/-! ## What a finished call has done -/

/-- A count that the kernel accepts. -/
theorem readCall_of_le {n : ℕ} (hn : n ≤ ssizeMax) (s : List UInt8) (e : ReadEv) :
    readCall n s e = match e with
      | .eintr => if n = 0 then .got [] else .eintr
      | .err => .err
      | .data k => .got (s.take (min k n)) := if_neg (not_lt.2 hn)

@[simp] theorem readCall_err (n : ℕ) (s : List UInt8) : readCall n s .err = .err := ite_self _

theorem readCall_got {n : ℕ} {s : List UInt8} {e : ReadEv} {bs : List UInt8}
    (h : readCall n s e = .got bs) : n ≤ ssizeMax ∧ bs.length ≤ n ∧ bs <+: s := by
  by_cases hn : n ≤ ssizeMax
  · refine ⟨hn, ?_⟩
    rw [readCall_of_le hn] at h
    cases e with
    | eintr =>
      simp only at h
      split at h
      · cases h; exact ⟨Nat.zero_le _, List.nil_prefix⟩
      · cases h
    | err => cases h
    | data k =>
      cases h
      exact ⟨(List.length_take_le _ _).trans (Nat.min_le_right _ _), List.take_prefix _ _⟩
  · unfold readCall at h
    rw [if_pos (not_le.1 hn)] at h
    cases h

/-- A `tcp_read` of at least one byte that returns 0 has stored exactly `size` bytes. -/
theorem tcpReadFrom_length {size : ℤ} {es : List ReadEv} : ∀ {off : ℕ} {s : List UInt8}
    {r : ReadResult}, (off : ℤ) < size → tcpReadFrom size off s es = some r → r.ret = 0 →
      off + r.bytes.length = size := by
  induction es with
  | nil => intro off s r _ h _; cases h
  | cons e es ih =>
    intro off s r hoff h hr
    rw [tcpReadFrom] at h
    split at h
    · rw [if_pos hoff] at h
      exact ih hoff h hr
    · cases h; cases hr
    · rename_i bs hbs
      split_ifs at h with hnil hlt
      · cases h; cases hr
      · obtain ⟨r', hr', rfl⟩ := Option.map_eq_some_iff.1 h
        have := ih hlt hr' hr
        simp only [List.length_append, Nat.cast_add] at this ⊢
        omega
      · cases h
        -- the kernel never returns more than it was asked for
        have hle := (readCall_got hbs).2.1
        rw [toSize] at hle
        simp only
        omega

/-- A read takes bytes from the front of the stream. -/
theorem tcpReadFrom_append {size : ℤ} {off : ℕ} {s : List UInt8} {es : List ReadEv}
    {r : ReadResult} (h : tcpReadFrom size off s es = some r) : r.bytes ++ r.stream = s := by
  induction es generalizing off s r with
  | nil => cases h
  | cons e es ih =>
    unfold tcpReadFrom at h
    split at h
    · split_ifs at h
      · exact ih h
      · cases h
        rfl
    · cases h
      rfl
    · rename_i bs hbs
      have hsplit : bs ++ s.drop bs.length = s :=
        (List.prefix_iff_eq_append.1 (readCall_got hbs).2.2)
      split_ifs at h
      · cases h
        rfl
      · obtain ⟨r', hr', rfl⟩ := Option.map_eq_some_iff.1 h
        show (bs ++ r'.bytes) ++ r'.stream = s
        rw [List.append_assoc, ih hr', hsplit]
      · cases h
        exact hsplit

/-- And it takes no more of them than it was asked for. -/
theorem tcpReadFrom_length_le {size : ℤ} {off : ℕ} {s : List UInt8} {es : List ReadEv}
    {r : ReadResult} (hoff : (off : ℤ) ≤ size) (h : tcpReadFrom size off s es = some r) :
    off + r.bytes.length ≤ size := by
  induction es generalizing off s r with
  | nil => cases h
  | cons e es ih =>
    unfold tcpReadFrom at h
    split at h
    · split_ifs at h
      · exact ih hoff h
      · cases h
        simpa using hoff
    · cases h
      simpa using hoff
    · rename_i bs hbs
      have hle := (readCall_got hbs).2.1
      rw [toSize] at hle
      split_ifs at h
      · cases h
        simpa using hoff
      · obtain ⟨r', hr', rfl⟩ := Option.map_eq_some_iff.1 h
        have hlen := ih (by omega) hr'
        simp only [List.length_append, Nat.cast_add] at hlen ⊢
        omega
      · cases h
        simp only
        omega

/-- **A `tcp_read` of a negative size** fails in its first call, and nothing is read. -/
theorem tcpRead_neg {size : ℤ} {s : List UInt8} {es : List ReadEv} {r : ReadResult}
    (h₁ : -2147483648 ≤ size) (h₂ : size < 0) (h : tcpRead size s es = some r) :
    r.ret = -1 ∧ r.bytes = [] := by
  cases es with
  | nil => cases h
  | cons e es =>
    have hcall : readCall (toSize (size - (0 : ℕ))) s e = .err := by
      rw [Nat.cast_zero, sub_zero]
      exact if_pos (ssizeMax_lt_toSize (by omega) h₂)
    rw [tcpRead, tcpReadFrom, hcall] at h
    cases h
    exact ⟨rfl, rfl⟩

/-- A `tcp_read` of no bytes fails. -/
theorem tcpRead_zero {s : List UInt8} {es : List ReadEv} {r : ReadResult}
    (h : tcpRead 0 s es = some r) : r.ret = -1 := by
  cases es with
  | nil => cases h
  | cons e es =>
    cases e with
    | eintr => cases h; rfl
    | err => cases h; rfl
    | data k =>
      rw [tcpRead, tcpReadFrom, show toSize (0 - (0 : ℕ)) = 0 from rfl,
        readCall_of_le (Nat.zero_le _)] at h
      simp only [Nat.min_zero, List.take_zero] at h
      cases h
      rfl

/-- **A `tcp_read` that returns 0** was asked for at least one byte, and has stored all of them. -/
theorem tcpRead_received {size : ℤ} {s : List UInt8} {es : List ReadEv} {r : ReadResult}
    (hsize : -2147483648 ≤ size) (h : tcpRead size s es = some r) (hr : r.ret = 0) :
    0 < size ∧ (r.bytes.length : ℤ) = size := by
  rcases lt_trichotomy size 0 with hneg | rfl | hpos
  · have := (tcpRead_neg hsize hneg h).1
    omega
  · have := tcpRead_zero h
    omega
  · have := tcpReadFrom_length (by exact_mod_cast hpos) h hr
    exact ⟨hpos, by omega⟩

/-- A `tcp_read` stores no more bytes than it was asked for, and none for a negative size. -/
theorem tcpRead_length_le {size : ℤ} {s : List UInt8} {es : List ReadEv} {r : ReadResult}
    (hsize : -2147483648 ≤ size) (h : tcpRead size s es = some r) :
    (r.bytes.length : ℤ) ≤ max 0 size := by
  by_cases hneg : size < 0
  · rw [(tcpRead_neg hsize hneg h).2]
    exact le_max_left _ _
  · have := tcpReadFrom_length_le (by exact_mod_cast not_lt.1 hneg) h
    omega

/-- The memory after a packet has been received: the header, the payload, and what was
there before. -/
structure Received (P : CldProtocol) (r : RecvResult) : Prop where
  /-- The header gives a payload length. -/
  size_pos : 0 < sizeBytes P r.mem
  /-- The return value. -/
  ret_eq : r.ret = toInt32 (P.sizeofCldhdr + sizeBytes P r.mem)
  /-- This is the number of payload bytes stored. -/
  length_le : P.sizeofCldhdr + sizeBytes P r.mem ≤ r.mem.length

/-- A header's size is an `int`. -/
theorem sizeBytes_range (P : CldProtocol) (m : List UInt8) :
    -2147483648 ≤ sizeBytes P m ∧ sizeBytes P m < 2147483648 := toInt32_range _

/-- The length is read from the header alone. -/
theorem sizeBytes_append {P : CldProtocol} {hd : List UInt8} (hlen : hd.length = P.sizeofCldhdr)
    (bs : List UInt8) : sizeBytes P (hd ++ bs) = sizeBytes P hd := by
  rw [sizeBytes, sizeBytes, List.take_left' hlen, List.take_of_length_le hlen.le]

/-- Bytes stored behind the header do not change the length it gives. -/
theorem sizeBytes_store {P : CldProtocol} {hd res : List UInt8} (hlen : hd.length = P.sizeofCldhdr)
    (bs : List UInt8) :
    sizeBytes P (store (store res 0 hd) P.sizeofCldhdr bs) = sizeBytes P (store res 0 hd) := by
  have hle : P.sizeofCldhdr ≤ (store res 0 hd).length := by
    rw [store_zero, List.length_append]
    omega
  rw [sizeBytes, sizeBytes, store, List.takeD_eq_take _ hle, List.append_assoc,
    List.take_append_of_le_length (by rw [List.length_take]; omega), List.take_take, min_self]

/-- Everything a finished call can have done. -/
inductive RecvCase (P : CldProtocol) (res s : List UInt8) (es : List ReadEv) : RecvResult → Prop
  /-- The header was not read. -/
  | noHeader {r₁ : ReadResult} : tcpRead P.sizeofCldhdr s es = some r₁ → r₁.ret ≠ 0 →
      RecvCase P res s es ⟨-1, store res 0 r₁.bytes, r₁.stream, r₁.evs⟩
  /-- A part of the payload, or all of it, was read behind the header. -/
  | payload {r₁ r₂ : ReadResult} : tcpRead P.sizeofCldhdr s es = some r₁ → r₁.ret = 0 →
      r₁.bytes.length = P.sizeofCldhdr →
      tcpRead (sizeBytes P r₁.bytes) r₁.stream r₁.evs = some r₂ →
      RecvCase P res s es
        ⟨if r₂.ret = 0 then toInt32 (P.sizeofCldhdr + sizeBytes P r₁.bytes) else -1,
          store (store res 0 r₁.bytes) P.sizeofCldhdr r₂.bytes, r₂.stream, r₂.evs⟩

/-- **What a finished call has done.** -/
theorem cloudRecvPacket_iff {P : CldProtocol} {res s : List UInt8} {es : List ReadEv}
    {r : RecvResult} : cloudRecvPacket P res s es = some r ↔ RecvCase P res s es r := by
  constructor
  · intro h
    obtain ⟨r₁, h₁, h⟩ := Option.bind_eq_some_iff.1 h
    by_cases hr₁ : r₁.ret = 0
    · have hlen : r₁.bytes.length = P.sizeofCldhdr := by
        have := tcpReadFrom_length (by exact_mod_cast P.sizeofCldhdr_pos) h₁ hr₁
        omega
      simp only [hr₁, ne_eq, not_true_eq_false, if_false, store_zero, sizeBytes_append hlen] at h
      obtain ⟨r₂, h₂, rfl⟩ := Option.map_eq_some_iff.1 h
      have hcase : RecvCase P res s es _ := .payload h₁ hr₁ hlen h₂
      rw [store_zero] at hcase
      by_cases hr₂ : r₂.ret = 0
      · rw [if_neg (not_not.2 hr₂)]
        rwa [if_pos hr₂] at hcase
      · rw [if_pos hr₂]
        rwa [if_neg hr₂] at hcase
    · simp only [ne_eq, hr₁, not_false_eq_true, if_true] at h
      cases h
      exact .noHeader h₁ hr₁
  · intro h
    unfold cloudRecvPacket
    cases h with
    | noHeader h₁ hr₁ =>
      rw [h₁, Option.bind_some]
      exact if_pos hr₁
    | @payload r₁ r₂ h₁ hr₁ hlen h₂ =>
      have hsize : sizeBytes P (store res 0 r₁.bytes) = sizeBytes P r₁.bytes := by
        rw [store_zero, sizeBytes_append hlen]
      rw [h₁, Option.bind_some]
      simp only
      rw [if_neg (not_not.2 hr₁), hsize, h₂, Option.map_some]
      by_cases hr₂ : r₂.ret = 0
      · rw [if_neg (not_not.2 hr₂), if_pos hr₂]
      · rw [if_pos hr₂, if_neg hr₂]

/-- A call whose first `read` fails. -/
theorem cloudRecvPacket_err (P : CldProtocol) (res s : List UInt8) (es : List ReadEv) :
    cloudRecvPacket P res s (.err :: es) = some ⟨-1, store res 0 [], s, es⟩ := by
  have hread : tcpRead P.sizeofCldhdr s (.err :: es) = some ⟨-1, [], s, es⟩ := by
    unfold tcpRead tcpReadFrom
    rw [readCall_err]
  unfold cloudRecvPacket
  rw [hread]
  rfl

theorem cloudRecvPacket_received {P : CldProtocol} {res s : List UInt8} {es : List ReadEv}
    {r : RecvResult} (h : cloudRecvPacket P res s es = some r) (h0 : 0 ≤ r.ret) :
    Received P r := by
  cases cloudRecvPacket_iff.1 h with
  | noHeader _ _ => exact absurd h0 (show ¬ (0 : ℤ) ≤ -1 by decide)
  | @payload r₁ r₂ h₁ hr₁ hlen h₂ =>
    have hsize : sizeBytes P (store (store res 0 r₁.bytes) P.sizeofCldhdr r₂.bytes) =
        sizeBytes P r₁.bytes := by
      rw [sizeBytes_store hlen, store_zero, sizeBytes_append hlen]
    by_cases hr₂ : r₂.ret = 0
    · obtain ⟨hpos, hcount⟩ := tcpRead_received (sizeBytes_range P r₁.bytes).1 h₂ hr₂
      rw [if_pos hr₂]
      have hmem : P.sizeofCldhdr + r₂.bytes.length ≤
          (store (store res 0 r₁.bytes) P.sizeofCldhdr r₂.bytes).length := le_length_store ..
      constructor
      · rwa [hsize]
      · rw [hsize]
      · rw [hsize]
        simp only
        omega
    · rw [if_neg hr₂] at h0
      exact absurd h0 (show ¬ (0 : ℤ) ≤ -1 by decide)

end SwCloud
