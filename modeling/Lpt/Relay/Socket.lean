import Lpt.Base.CString

/-!
# Sockets and local arrays

What the programs of the relay get from the operating system and from their own stack.

* `Recv` — what one `recv` gives.
* `SendEv`, `sendLoop` — the loop that sends a buffer, which `tcp_send` and
  `sys_send_packet` share.
* `Frame` — an array that a function declares and does not initialise, with the memory
  behind it.  A text in it is read to the first NUL, wherever that is.
-/

namespace HttpRelay

open CLib

/-! ## Receiving -/

/-- What one `recv` gives. -/
inductive Recv where
  /-- It has stored these bytes. -/
  | data (bs : List UInt8)
  /-- -1 with `EAGAIN` or `EWOULDBLOCK`. -/
  | wouldBlock
  /-- -1 with any other error. -/
  | error
  /-- 0: the peer has closed the connection. -/
  | closed
  deriving DecidableEq

/-- The bytes it has stored. -/
def Recv.bytes : Recv → List UInt8
  | .data bs => bs
  | _ => []

@[simp] theorem Recv.bytes_data (bs : List UInt8) : (Recv.data bs).bytes = bs := rfl
@[simp] theorem Recv.bytes_wouldBlock : Recv.wouldBlock.bytes = [] := rfl

/-- What the next bytes of the stream are, of which `before` have been received: at least
one byte is stored, and at most `size`. -/
def Recv.Fits (stream before : List UInt8) (size : ℕ) : Recv → Prop
  | .data bs => bs ≠ [] ∧ bs.length ≤ size ∧ before ++ bs <+: stream
  | _ => True

instance (stream before : List UInt8) (size : ℕ) (r : Recv) :
    Decidable (r.Fits stream before size) :=
  match r with
  | .data _ => inferInstanceAs (Decidable (_ ∧ _))
  | .wouldBlock | .error | .closed => .isTrue trivial

theorem Recv.Fits.prefix {stream before : List UInt8} {size : ℕ} {r : Recv}
    (h : r.Fits stream before size) (hb : before <+: stream) : before ++ r.bytes <+: stream := by
  cases r with
  | data bs => exact h.2.2
  | _ => simpa only [Recv.bytes, List.append_nil] using hb

/-! ## Sending -/

/-- What one `send` gives. -/
inductive SendEv where
  /-- The number of bytes it has taken. -/
  | sent (n : ℕ)
  /-- -1 with `EAGAIN` or `EWOULDBLOCK`. -/
  | wouldBlock
  /-- -1 with any other error. -/
  | error
  deriving DecidableEq

/-- The loop over `send`: the bytes that have been taken, and whether it has failed.  The
condition is looked at after every `send`, so there is at least one, also for nothing. -/
def sendLoop (buf : List UInt8) : List SendEv → Option (List UInt8 × Bool)
  | [] => none
  | .error :: _ => some ([], true)
  | .wouldBlock :: es => if buf = [] then some ([], false) else sendLoop buf es
  | .sent n :: es =>
      if buf.length < n then none
      else if buf.length = n then some (buf, false)
      else (sendLoop (buf.drop n) es).map fun r => (buf.take n ++ r.1, r.2)

/-- **A loop without a failing `send`** has sent the whole buffer. -/
theorem sendLoop_eq {buf wire : List UInt8} {failed : Bool} {es : List SendEv}
    (h : sendLoop buf es = some (wire, failed)) (he : .error ∉ es) :
    wire = buf ∧ failed = false := by
  induction es generalizing buf wire failed with
  | nil => cases h
  | cons e es ih =>
    have hes : .error ∉ es := fun hm => he (List.mem_cons_of_mem _ hm)
    cases e with
    | error => exact absurd (List.mem_cons_self ..) he
    | wouldBlock =>
      unfold sendLoop at h
      by_cases hb : buf = []
      · rw [if_pos hb] at h
        cases h
        exact ⟨hb.symm, rfl⟩
      · rw [if_neg hb] at h
        exact ih h hes
    | sent n =>
      unfold sendLoop at h
      by_cases hlt : buf.length < n
      · rw [if_pos hlt] at h
        cases h
      by_cases heq : buf.length = n
      · rw [if_neg hlt, if_pos heq] at h
        cases h
        exact ⟨rfl, rfl⟩
      · rw [if_neg hlt, if_neg heq] at h
        obtain ⟨⟨rest, failed'⟩, hr, hpair⟩ := Option.map_eq_some_iff.1 h
        obtain ⟨rfl, rfl⟩ := ih hr hes
        cases hpair
        exact ⟨List.take_append_drop n buf, rfl⟩

/-- **When a function around the loop returns -1**, if it returns something else otherwise. -/
theorem sendLoop_fails {ok : ℤ} (hok : ok ≠ -1) (buf wire : List UInt8) (es : List SendEv) :
    ((sendLoop buf es).map fun r => (if r.2 = true then -1 else ok, r.1)) = some (-1, wire) ↔
      sendLoop buf es = some (wire, true) := by
  rw [Option.map_eq_some_iff]
  constructor
  · rintro ⟨⟨out, failed⟩, hloop, heq⟩
    cases failed with
    | true =>
      cases heq
      exact hloop
    | false => exact absurd (congrArg Prod.fst heq) hok
  · intro hloop
    exact ⟨(wire, true), hloop, rfl⟩

/-! ## Local arrays -/

/-- An array of `n` bytes that has not been initialised, and the memory behind it. -/
structure Frame (n : ℕ) where
  mem : List UInt8
  /-- The array is a part of it. -/
  le_length : n ≤ mem.length
  /-- The length of a text in it is an `int`. -/
  length_lt : mem.length < 2147483648

namespace Frame

variable {n : ℕ}

/-- The memory after bytes have been stored at the beginning of the array. -/
def stored (f : Frame n) (bs : List UInt8) : List UInt8 := store f.mem 0 bs

theorem stored_eq (f : Frame n) (bs : List UInt8) : f.stored bs = bs ++ f.mem.drop bs.length :=
  store_zero f.mem bs

/-- The text at the beginning of the array ends where the bytes stored end, if they hold no
NUL themselves. -/
def EndsAt (f : Frame n) (k : ℕ) : Prop := (CStr.read (f.mem.drop k)).bytes = []

instance (f : Frame n) (k : ℕ) : Decidable (f.EndsAt k) := inferInstanceAs (Decidable (_ = _))

/-- An array that holds the byte `b` everywhere. -/
def filled (n : ℕ) (b : UInt8) (h : n < 2147483648) : Frame n :=
  ⟨List.replicate n b, (List.length_replicate ..).ge, by rwa [List.length_replicate]⟩

end Frame

/-! ## Texts in memory -/

section Texts

variable {bs rest : List UInt8}

/-- A NUL that takes the place of a byte ends the text there. -/
theorem read_store_zero : CStr.read (store (bs ++ rest) bs.length [0]) = CStr.read bs := by
  rw [store, List.takeD_eq_take _ (by simp), List.take_left, List.append_assoc]
  exact read_append_zero bs _

end Texts

/-! ## Streams with a head -/

/-- A piece that begins in the head of a stream has a part of the head in it; the rest of it
is what has been received of the body. -/
theorem piece_cut {head body before bs : List UInt8} (hfits : before ++ bs <+: head ++ body)
    (hlt : before.length < head.length) (hbs : bs ≠ []) :
    ∃ part, part ≠ [] ∧ part ⊆ head ∧ bs = part ++ (before ++ bs).drop head.length := by
  have hpos : 0 < bs.length := List.length_pos_iff.2 hbs
  have htake : before ++ bs.take (head.length - before.length) <+: head := by
    have h := hfits.take head.length
    rwa [List.take_left, List.take_append, List.take_of_length_le hlt.le] at h
  refine ⟨bs.take (head.length - before.length), ?_, ?_, ?_⟩
  · intro hnil
    have hlen := congrArg List.length hnil
    rw [List.length_take, List.length_nil] at hlen
    omega
  · exact fun b hb => htake.subset (List.mem_append_right _ hb)
  · rw [List.drop_append, List.drop_eq_nil_of_le hlt.le, List.nil_append, List.take_append_drop]

/-- What is read as a text of such a piece is not what it has of the body, if the head is a
text. -/
theorem read_ne_body {head body before bs : List UInt8} (rest : List UInt8)
    (hfits : before ++ bs <+: head ++ body)
    (hlt : before.length < head.length) (hbs : bs ≠ []) (hfree : 0 ∉ head) :
    (CStr.read (bs ++ rest)).bytes ≠ (before ++ bs).drop head.length := by
  intro heq
  obtain ⟨part, hpart, hsub, hcut⟩ := piece_cut hfits hlt hbs
  generalize (before ++ bs).drop head.length = body at hcut heq
  have hbody : 0 ∉ body := by
    rw [← heq]
    exact (CStr.read _).nulFree
  have hall : 0 ∉ bs := by
    rw [hcut, List.mem_append, not_or]
    exact ⟨fun h0 => hfree (hsub h0), hbody⟩
  rw [read_append hall] at heq
  have hlen := congrArg List.length heq
  have hlen' := congrArg List.length hcut
  rw [List.length_append] at hlen hlen'
  have hpos := List.length_pos_iff.2 hpart
  omega

end HttpRelay
