import Mathlib

/-!
# C strings, buffers and machine integers

What a verification of C text handling needs from the language and its library,
over plain byte lists.

* `CStr` — a C string as a value: bytes without a NUL.  `CStr.read` is the string
  that starts at the beginning of a piece of memory.
* `Field cap` — a `char` array of `cap` bytes that is only ever filled by
  `snprintf`, with the bound as part of the type.
* `store`, `find`, `strstr`, `strchr`, `strtokR`, ... — the library functions,
  with pointers as offsets into one piece of memory.
* `read_append`, `read_append_zero`, `read_append_eq_iff` — how far a text in memory reaches.
* `toInt32` — the value of an integer after a conversion to a 32-bit `int`.
-/

namespace CLib

/-! ## Integers -/

/-- The value an integer has after conversion to a 32-bit `int`. -/
def toInt32 (x : ℤ) : ℤ := Int.bmod x 4294967296

/-- The value an integer has after conversion to a 64-bit `size_t`. -/
def toSize (x : ℤ) : ℕ := (x % 18446744073709551616).toNat

/-- The largest value of an `ssize_t`. -/
def ssizeMax : ℕ := 9223372036854775807

theorem toInt32_eq {x : ℤ} (h₁ : -2147483648 ≤ x) (h₂ : x < 2147483648) : toInt32 x = x := by
  rw [toInt32, Int.bmod_def]
  split <;> omega

theorem toInt32_range (x : ℤ) : -2147483648 ≤ toInt32 x ∧ toInt32 x < 2147483648 := by
  rw [toInt32, Int.bmod_def]
  split <;> omega

/-- A conversion keeps exactly the values a 32-bit `int` can hold. -/
theorem toInt32_eq_self_iff {x : ℤ} : toInt32 x = x ↔ -2147483648 ≤ x ∧ x < 2147483648 :=
  ⟨fun h => h ▸ toInt32_range x, fun h => toInt32_eq h.1 h.2⟩

/-- A conversion can only lower a value that is not too small for an `int`. -/
theorem toInt32_le {x : ℤ} (h : -2147483648 ≤ x) : toInt32 x ≤ x := by
  rw [toInt32, Int.bmod_def]
  split <;> omega

theorem toSize_natCast {n : ℕ} (h : n < 18446744073709551616) : toSize n = n := by
  rw [toSize]
  omega

theorem toSize_of_nonneg {x : ℤ} (h₁ : 0 ≤ x) (h₂ : x < 18446744073709551616) :
    toSize x = x.toNat := by
  rw [toSize]
  omega

/-- A negative `int` is a size that no call can return. -/
theorem ssizeMax_lt_toSize {x : ℤ} (h₁ : -9223372036854775808 ≤ x) (h₂ : x < 0) :
    ssizeMax < toSize x := by
  rw [toSize, ssizeMax]
  omega

/-! ## C strings -/

/-- The bytes of a text constant. -/
def text (s : String) : List UInt8 := s.toList.map fun c => UInt8.ofNat c.toNat

/-- A C string as a value: its bytes, none of them a NUL. -/
structure CStr where
  /-- The bytes before the terminator. -/
  bytes : List UInt8
  /-- The terminator is not among them. -/
  nulFree : 0 ∉ bytes
  deriving DecidableEq

namespace CStr

@[ext] theorem ext {s t : CStr} (h : s.bytes = t.bytes) : s = t := by
  cases s; cases t; cases h; rfl

/-- `strlen`. -/
def length (s : CStr) : ℕ := s.bytes.length

/-- The string that starts at the beginning of the memory `m`.  Memory without a
NUL is read to its end. -/
def read (m : List UInt8) : CStr where
  bytes := m.takeWhile (· != 0)
  nulFree := fun h => by simpa using List.mem_takeWhile_imp h

/-- A text constant. -/
def lit (s : String) : CStr := read (text s)

instance : Append CStr where
  append s t := ⟨s.bytes ++ t.bytes, fun h => (List.mem_append.1 h).elim s.nulFree t.nulFree⟩

/-- The first `n` characters. -/
def take (s : CStr) (n : ℕ) : CStr := ⟨s.bytes.take n, fun h => s.nulFree (List.mem_of_mem_take h)⟩

/-- What is left after the first `n` characters. -/
def drop (s : CStr) (n : ℕ) : CStr := ⟨s.bytes.drop n, fun h => s.nulFree (List.mem_of_mem_drop h)⟩

@[simp] theorem bytes_append (s t : CStr) : (s ++ t).bytes = s.bytes ++ t.bytes := rfl

@[simp] theorem bytes_take (s : CStr) (n : ℕ) : (s.take n).bytes = s.bytes.take n := rfl

@[simp] theorem bytes_drop (s : CStr) (n : ℕ) : (s.drop n).bytes = s.bytes.drop n := rfl

theorem take_of_length_le {s : CStr} {n : ℕ} (h : s.length ≤ n) : s.take n = s :=
  CStr.ext (List.take_of_length_le h)

theorem length_take (s : CStr) (n : ℕ) : (s.take n).length = min n s.length :=
  List.length_take

/-- Reading back a string that was stored with its terminator. -/
@[simp] theorem read_append_nul (s : CStr) (m : List UInt8) : read (s.bytes ++ 0 :: m) = s := by
  apply CStr.ext
  have hs : s.bytes.takeWhile (· != 0) = s.bytes :=
    List.takeWhile_eq_self_iff.2 fun c hc => by
      simpa using fun h0 : c = 0 => s.nulFree (h0 ▸ hc)
  simp [read, List.takeWhile_append, hs]

end CStr

/-! ## Texts in memory -/

section Texts

variable {bs : List UInt8}

theorem read_bytes (m : List UInt8) : (CStr.read m).bytes = m.takeWhile (· != 0) := rfl

/-- Bytes without a NUL are part of the text, which goes on behind them. -/
theorem read_append (h : 0 ∉ bs) (m : List UInt8) :
    (CStr.read (bs ++ m)).bytes = bs ++ (CStr.read m).bytes := by
  apply List.takeWhile_append_of_pos
  intro c hc
  simpa using fun h0 : c = 0 => h (h0 ▸ hc)

/-- A NUL ends the text. -/
theorem read_append_zero (x y : List UInt8) : CStr.read (x ++ 0 :: y) = CStr.read x := by
  apply CStr.ext
  rw [read_bytes, read_bytes]
  induction x with
  | nil => rfl
  | cons c x ih =>
    rw [List.cons_append, List.takeWhile_cons, List.takeWhile_cons, ih]

/-- What comes behind a NUL is not read. -/
theorem read_append_of_mem (h : 0 ∈ bs) (m : List UInt8) :
    CStr.read (bs ++ m) = CStr.read bs := by
  obtain ⟨a, b, hx, -⟩ := List.eq_append_cons_of_mem h
  rw [hx, List.append_assoc, List.cons_append, read_append_zero, read_append_zero]

/-- **What is read as a text**: the bytes stored, exactly if none of them is a NUL and one
follows them. -/
theorem read_append_eq_iff {m : List UInt8} :
    (CStr.read (bs ++ m)).bytes = bs ↔ 0 ∉ bs ∧ (CStr.read m).bytes = [] := by
  by_cases h : 0 ∈ bs
  · refine iff_of_false (fun heq => ?_) fun hn => hn.1 h
    have hfree := (CStr.read (bs ++ m)).nulFree
    rw [heq] at hfree
    exact hfree h
  · rw [read_append h, List.append_right_eq_self, and_iff_right h]

/-- Bytes are the text that is read at their beginning exactly if none of them is a NUL. -/
theorem read_eq_iff : (CStr.read bs).bytes = bs ↔ 0 ∉ bs := by
  have h : (CStr.read (bs ++ [])).bytes = bs ↔ _ := read_append_eq_iff
  rw [List.append_nil] at h
  exact h.trans (and_iff_left rfl)

theorem read_of_nulFree (h : 0 ∉ bs) : (CStr.read bs).bytes = bs := read_eq_iff.2 h

theorem read_read (m : List UInt8) : CStr.read (CStr.read m).bytes = CStr.read m :=
  CStr.ext (read_of_nulFree (CStr.read m).nulFree)

/-- Memory is a string and what does not belong to it. -/
theorem exists_tail (m : List UInt8) :
    ∃ tail, m = (CStr.read m).bytes ++ tail ∧ (CStr.read tail).bytes = [] := by
  refine ⟨m.dropWhile (· != 0), (List.takeWhile_append_dropWhile ..).symm, ?_⟩
  rw [read_bytes]
  induction m with
  | nil => rfl
  | cons c m ih =>
    rw [List.dropWhile_cons]
    split_ifs with hc
    · exact ih
    · rw [List.takeWhile_cons, if_neg hc]

end Texts

/-! ## Fixed-size fields -/

/-- A `char` array of `cap` bytes, filled by `snprintf` only. -/
structure Field (cap : ℕ) where
  /-- The string it holds. -/
  str : CStr
  /-- There is room for the terminator. -/
  fits : str.length ≤ cap - 1
  deriving DecidableEq

namespace Field

/-- `snprintf(f, sizeof(f), "%s", s)`: the text is cut to the size of the field. -/
def snprintf {cap : ℕ} (s : CStr) : Field cap :=
  ⟨s.take (cap - 1), by rw [CStr.length_take]; exact Nat.min_le_left _ _⟩

/-- A field after `memset` with zero. -/
def zero {cap : ℕ} : Field cap := ⟨CStr.read [], Nat.zero_le _⟩

/-- A field copied into a field of the same size is not cut. -/
@[simp] theorem snprintf_str {cap : ℕ} (f : Field cap) : (snprintf f.str : Field cap) = f := by
  cases f with
  | mk s h => simp [snprintf, CStr.take_of_length_le h]

end Field

/-! ## Memory -/

/-- `memcpy` to the offset `off` of the memory `m`.  The memory grows when bytes are
stored past its end, which is how an overflow shows. -/
def store (m : List UInt8) (off : ℕ) (bs : List UInt8) : List UInt8 :=
  List.takeD off m 0 ++ bs ++ m.drop (off + bs.length)

theorem store_zero (m bs : List UInt8) : store m 0 bs = bs ++ m.drop bs.length := by
  simp [store]

/-- Bytes before the memory do not matter. -/
theorem store_append_right (a m bs : List UInt8) (k : ℕ) :
    store (a ++ m) (a.length + k) bs = a ++ store m k bs := by
  have htake : List.takeD (a.length + k) (a ++ m) 0 = a ++ List.takeD k m 0 := by
    induction a with
    | nil => simp
    | cons b a ih =>
      rw [List.length_cons, Nat.add_right_comm, List.takeD_succ, List.cons_append, List.tail_cons,
        ih]
      rfl
  have hdrop : (a ++ m).drop (a.length + k + bs.length) = m.drop (k + bs.length) := by
    rw [Nat.add_assoc, List.drop_length_add_append]
  unfold store
  rw [htake, hdrop, List.append_assoc, List.append_assoc, List.append_assoc]

theorem le_length_store (m : List UInt8) (off : ℕ) (bs : List UInt8) :
    off + bs.length ≤ (store m off bs).length := by
  simp only [store, List.length_append, List.takeD_length]
  omega

theorem length_store (m : List UInt8) (off : ℕ) (bs : List UInt8) :
    (store m off bs).length = max m.length (off + bs.length) := by
  simp only [store, List.length_append, List.takeD_length, List.length_drop]
  omega

/-- The first offset at which `key` occurs in `s`. -/
def find (key : List UInt8) : List UInt8 → Option ℕ
  | [] => if key = [] then some 0 else none
  | c :: s => if key.isPrefixOf (c :: s) then some 0 else (find key s).map (· + 1)

/-- `strstr(m + off, key)`, as an offset into `m`. -/
def strstr (m : List UInt8) (off : ℕ) (key : List UInt8) : Option ℕ :=
  (find key (CStr.read (m.drop off)).bytes).map (off + ·)

/-- `strchr(m + off, c)` for a character `c` that is not NUL. -/
def strchr (m : List UInt8) (off : ℕ) (c : UInt8) : Option ℕ := strstr m off [c]

/-- `strncmp(m + off, key, strlen(key)) == 0`. -/
def startsWith (m : List UInt8) (off : ℕ) (key : List UInt8) : Bool :=
  key.isPrefixOf (CStr.read (m.drop off)).bytes

/-- `tolower`, in the C locale. -/
def toLower (c : UInt8) : UInt8 := if 65 ≤ c ∧ c ≤ 90 then c + 32 else c

/-- `strncasecmp(m, key, n) == 0`. -/
def strncaseEq (m key : List UInt8) (n : ℕ) : Bool :=
  ((CStr.read m).bytes.take n).map toLower == (key.take n).map toLower

/-- What `strtok_r` returns and leaves behind. -/
structure Token where
  /-- The start of the token, if there is one. -/
  tok : Option ℕ
  /-- The memory, with the separator after the token overwritten by a NUL. -/
  mem : List UInt8
  /-- The place where the next call goes on. -/
  save : ℕ

/-- `strtok_r(m + off, sep, &save)` for a single separator. -/
def strtokR (m : List UInt8) (off : ℕ) (sep : UInt8) : Token :=
  let s := (CStr.read (m.drop off)).bytes
  let skip := (s.takeWhile (· == sep)).length
  let t := s.drop skip
  let n := (t.takeWhile (· != sep)).length
  if t = [] then ⟨none, m, off + skip⟩
  else if n = t.length then ⟨some (off + skip), m, off + skip + n⟩
  else ⟨some (off + skip), store m (off + skip + n) [0], off + skip + n + 1⟩

/-! ## Numbers as text -/

/-- `"%d"`. -/
def decimal (z : ℤ) : List UInt8 :=
  (if z < 0 then [45] else []) ++ (Nat.toDigits 10 z.natAbs).map fun c => UInt8.ofNat c.toNat

/-- `"%02x"` of one byte. -/
def hex2 (b : UInt8) : List UInt8 :=
  [b / 16, b % 16].map fun d => if d < 10 then 48 + d else 87 + d

/-- The digits at the front of a text, as a number. -/
def leadingNat (s : List UInt8) : ℕ :=
  (s.takeWhile fun c => decide (48 ≤ c ∧ c ≤ 57)).foldl (fun n c => 10 * n + (c.toNat - 48)) 0

/-- `isspace`, in the C locale. -/
def isSpace (c : UInt8) : Bool := decide (c = 32 ∨ (9 ≤ c ∧ c ≤ 13))

/-- The `long` that `strtol` gives for a number: one out of range is cut to the nearest. -/
def clampLong (x : ℤ) : ℤ := max (-9223372036854775808) (min x 9223372036854775807)

/-- `atoi`, which is `(int)strtol(s, NULL, 10)`. -/
def atoi (s : CStr) : ℤ :=
  match s.bytes.dropWhile isSpace with
  | 45 :: ds => toInt32 (clampLong (-(leadingNat ds : ℤ)))
  | 43 :: ds => toInt32 (clampLong (leadingNat ds))
  | ds => toInt32 (clampLong (leadingNat ds))

/-- The value of a (signed) `char`. -/
def charVal (c : UInt8) : ℤ := c.toInt8.toInt

end CLib
