import Lpt.Base.Scan

/-!
# The check of an IP address

`is_valid_ip` scans four numbers with a character behind each, and wants seven values: the
last character must be missing.  `%d` also takes blanks and a sign, and a number that is not
an `int` is stored as anything.

* `isValidIp` — the function.
* `DottedQuad` — four numbers from 0 to 255 with dots between them.
* `isValidIp_eq_one` — what it accepts.
* `acceptsQuads_iff` — the texts it judges rightly.
-/

namespace SscanfExample

open CLib

/-- The format `"%d%c%d%c%d%c%d%c"`. -/
def ipFormat : List Conv := [.int, .char, .int, .char, .int, .char, .int, .char]

/-- `is_valid_ip`.  `wild` is what is stored for a number that is not an `int`. -/
def isValidIp (wild : ℤ → ℤ) (p : CStr) : ℤ :=
  let vs := sscanf wild ipFormat p.bytes
  if vs.length = 7 then
    if (chars vs).any (fun c => decide (c ≠ 46)) = true then 0
    else if (ints vs).any (fun n => decide (255 < n ∨ n < 0)) = true then 0
    else 1
  else 0

/-! ## The law -/

/-- A number from 0 to 255, in digits. -/
structure Octet (x : List UInt8) : Prop where
  ne_nil : x ≠ []
  digit : ∀ c ∈ x, isDigit c = true
  le : leadingNat x ≤ 255

/-- Four of them with dots between them, and nothing else. -/
def DottedQuad (p : List UInt8) : Prop :=
  ∃ xs : List (List UInt8), xs.length = 4 ∧ p = [46].intercalate xs ∧ ∀ x ∈ xs, Octet x

/-- **Exactly the dotted quads are accepted.** -/
def AcceptsQuads (wild : ℤ → ℤ) (p : CStr) : Prop := isValidIp wild p = 1 ↔ DottedQuad p.bytes

/-- A numeral that is nothing but digits, and an `int`. -/
structure Plain (n : Numeral) : Prop where
  blanks : n.blanks = []
  sign : n.sign = []
  lt : leadingNat n.digits < 2147483648

/-- The text consists of four numerals with dots between them, which are stored as numbers
from 0 to 255, and one of them has blanks or a sign before it, or is not an `int`. -/
def Lenient (wild : ℤ → ℤ) (p : List UInt8) : Prop :=
  ∃ ns : List Numeral, ns.length = 4 ∧ p = Numeral.joined 46 ns ∧
    (∀ n ∈ ns, 0 ≤ storedInt wild n.value ∧ storedInt wild n.value ≤ 255) ∧ ∃ n ∈ ns, ¬ Plain n

/-! ## What is accepted -/

section Accepted

variable {wild : ℤ → ℤ} {p : CStr} {n : Numeral} {x : List UInt8}

/-- The checks: seven values, of which the characters are dots and the numbers are in range. -/
theorem isValidIp_checks : isValidIp wild p = 1 ↔ (sscanf wild ipFormat p.bytes).length = 7 ∧
    (∀ c ∈ chars (sscanf wild ipFormat p.bytes), c = 46) ∧
      ∀ z ∈ ints (sscanf wild ipFormat p.bytes), 0 ≤ z ∧ z ≤ 255 := by
  unfold isValidIp
  dsimp only
  split_ifs with hlen hchars hints
  · simp only [List.any_eq_true, decide_eq_true_eq] at hchars
    obtain ⟨c, hc, hne⟩ := hchars
    exact iff_of_false (by decide) fun h => hne (h.2.1 c hc)
  · simp only [List.any_eq_true, decide_eq_true_eq] at hints
    obtain ⟨z, hz, hout⟩ := hints
    exact iff_of_false (by decide) fun h => by
      have := h.2.2 z hz
      omega
  · refine iff_of_true rfl ⟨hlen, ?_, ?_⟩
    · simpa using hchars
    · simpa [and_comm] using hints
  · exact iff_of_false (by decide) fun h => hlen h.1

/-- Four numerals with dots between them pass the first two, and the numbers are theirs. -/
theorem sscanf_quad (wild : ℤ → ℤ) {ns : List Numeral} (hns : ns.length = 4)
    (htext : p.bytes = Numeral.joined 46 ns) :
    (sscanf wild ipFormat p.bytes).length = 7 ∧
      (∀ c ∈ chars (sscanf wild ipFormat p.bytes), c = 46) ∧
      ints (sscanf wild ipFormat p.bytes) = ns.map fun n => storedInt wild n.value := by
  have hne : ns ≠ [] := by
    rintro rfl
    cases hns
  have hscan : sscanf wild ipFormat p.bytes = Numeral.assigned wild 46 ns := by
    rw [htext, ← sscanf_pairs wild (by decide) ns, hns]
    rfl
  obtain ⟨hlen, hchars, hints⟩ := Numeral.assigned_spec wild 46 ns hne
  rw [hscan]
  exact ⟨by omega, hchars, hints⟩

/-- **What `is_valid_ip` accepts**: four numerals with dots between them, stored as numbers
from 0 to 255. -/
theorem isValidIp_eq_one : isValidIp wild p = 1 ↔
    ∃ ns : List Numeral, ns.length = 4 ∧ p.bytes = Numeral.joined 46 ns ∧
      ∀ n ∈ ns, 0 ≤ storedInt wild n.value ∧ storedInt wild n.value ≤ 255 := by
  rw [isValidIp_checks]
  constructor
  · rintro ⟨hlen, hchars, hrange⟩
    obtain ⟨ns, hns, htext⟩ := numerals_of_sscanf (k := 3) hlen hchars
    rw [(sscanf_quad wild hns htext).2.2] at hrange
    exact ⟨ns, hns, htext, by simpa using hrange⟩
  · rintro ⟨ns, hns, htext, hrange⟩
    obtain ⟨hlen, hchars, hints⟩ := sscanf_quad wild hns htext
    refine ⟨hlen, hchars, ?_⟩
    rw [hints]
    simpa using hrange

/-- A plain numeral is stored as what it denotes. -/
theorem Plain.stored (h : Plain n) : storedInt wild n.value = leadingNat n.digits := by
  have hvalue : n.value = leadingNat n.digits := by
    rw [Numeral.value, h.sign, if_neg (by simp), one_mul]
  have hlt := h.lt
  rw [storedInt, hvalue, if_pos (by omega)]

/-- Its text is its digits. -/
theorem Plain.text_eq (h : Plain n) : n.text = n.digits := by
  rw [Numeral.text, h.blanks, h.sign]
  rfl

/-- A number from 0 to 255 is a plain numeral. -/
theorem Octet.numeral (h : Octet x) : ∃ n : Numeral, Plain n ∧ n.digits = x := by
  have hle := h.le
  exact ⟨⟨[], [], x, List.forall_mem_nil _, Or.inl rfl, h.digit, h.ne_nil⟩,
    ⟨rfl, rfl, by dsimp only; omega⟩, rfl⟩

/-- And a plain numeral that is stored as such a number is one. -/
theorem Plain.octet (h : Plain n) (hle : storedInt wild n.value ≤ 255) : Octet n.text := by
  rw [h.stored] at hle
  rw [h.text_eq]
  exact ⟨n.digits_ne, n.digit, by omega⟩

/-- A numeral whose text is such a number is plain. -/
theorem Octet.plain (h : Octet n.text) : Plain n := by
  have hfront : ∀ c ∈ n.text, isSpace c = false ∧ c ≠ 43 ∧ c ≠ 45 :=
    fun c hc => isDigit_ne (h.digit c hc)
  have hblanks : n.blanks = [] := by
    rw [List.eq_nil_iff_forall_not_mem]
    intro c hc
    have hspace := (hfront c (List.mem_append_left _ hc)).1
    rw [n.blank c hc] at hspace
    cases hspace
  have hsign : n.sign = [] := by
    rcases n.sign_mem with hs | hs | hs
    · exact hs
    · have hmem : 43 ∈ n.text := by simp [Numeral.text, hs]
      exact absurd rfl (hfront 43 hmem).2.1
    · have hmem : 45 ∈ n.text := by simp [Numeral.text, hs]
      exact absurd rfl (hfront 45 hmem).2.2
  have htext : n.text = n.digits := by
    rw [Numeral.text, hblanks, hsign]
    rfl
  have hle := h.le
  rw [htext] at hle
  exact ⟨hblanks, hsign, by omega⟩

/-- Dots do not occur in such numbers. -/
theorem Octet.dot_notMem (h : Octet x) : 46 ∉ x := by
  intro hdot
  have hdigit := h.digit 46 hdot
  cases hdigit

/-- Four numbers from 0 to 255 are four plain numerals. -/
theorem exists_numerals {xs : List (List UInt8)} (h : ∀ x ∈ xs, Octet x) :
    ∃ ns : List Numeral, ns.map Numeral.text = xs ∧ ∀ n ∈ ns, Plain n := by
  induction xs with
  | nil => exact ⟨[], rfl, List.forall_mem_nil _⟩
  | cons x xs ih =>
    rw [List.forall_mem_cons] at h
    obtain ⟨n, hplain, rfl⟩ := h.1.numeral
    obtain ⟨ns, rfl, hns⟩ := ih h.2
    refine ⟨n :: ns, by rw [List.map_cons, hplain.text_eq], ?_⟩
    rw [List.forall_mem_cons]
    exact ⟨hplain, hns⟩

/-- The numerals of a dotted quad are its numbers. -/
theorem map_text_eq {ns : List Numeral} {xs : List (List UInt8)} (hne : ns ≠ [])
    (hx : ∀ x ∈ xs, Octet x) (hxne : xs ≠ [])
    (h : Numeral.joined 46 ns = [46].intercalate xs) : ns.map Numeral.text = xs := by
  have hleft : ([46].intercalate (ns.map Numeral.text)).splitOn (46 : UInt8) =
      ns.map Numeral.text :=
    List.splitOn_intercalate 46 (by simpa using fun n _ => n.dot_notMem) (by simpa using hne)
  have hright := List.splitOn_intercalate (46 : UInt8) (fun x hxs => (hx x hxs).dot_notMem) hxne
  rw [← hleft, ← hright]
  exact congrArg _ h

end Accepted

/-! ## Every text -/

section Texts

variable (wild : ℤ → ℤ) (p : CStr)

/-- **Exactly the dotted quads are accepted**, among the texts in which no number has blanks
or a sign before it or is too large for an `int`; every accepted text with such a number is
no dotted quad. -/
theorem acceptsQuads_iff : AcceptsQuads wild p ↔ ¬ Lenient wild p.bytes := by
  unfold AcceptsQuads
  rw [isValidIp_eq_one]
  constructor
  · rintro hiff ⟨ns, hlen, htext, hrange, n, hn, hnot⟩
    obtain ⟨xs, hxlen, hxtext, hx⟩ := hiff.1 ⟨ns, hlen, htext, hrange⟩
    have hne : ns ≠ [] := List.ne_nil_of_mem hn
    have hxne : xs ≠ [] := by
      rintro rfl
      cases hxlen
    have hmap := map_text_eq hne hx hxne (htext.symm.trans hxtext)
    have hoctet := hx n.text (hmap ▸ List.mem_map_of_mem hn)
    exact hnot hoctet.plain
  · intro hnot
    constructor
    · rintro ⟨ns, hlen, htext, hrange⟩
      have hplain : ∀ n ∈ ns, Plain n := by
        by_contra hex
        push Not at hex
        exact hnot ⟨ns, hlen, htext, hrange, hex⟩
      refine ⟨ns.map Numeral.text, by rw [List.length_map, hlen], htext, ?_⟩
      rw [List.forall_mem_map]
      exact fun n hn => (hplain n hn).octet (hrange n hn).2
    · rintro ⟨xs, hlen, htext, hx⟩
      obtain ⟨ns, rfl, hplain⟩ := exists_numerals hx
      rw [List.length_map] at hlen
      refine ⟨ns, hlen, htext, fun n hn => ?_⟩
      have hoctet := hx n.text (List.mem_map_of_mem hn)
      rw [(hplain n hn).text_eq] at hoctet
      have hle := hoctet.le
      rw [(hplain n hn).stored]
      omega

/-- A dotted quad begins with a digit. -/
theorem DottedQuad.head {q : List UInt8} (h : DottedQuad q) :
    ∃ c w, q = c :: w ∧ isDigit c = true := by
  obtain ⟨xs, hlen, rfl, hx⟩ := h
  obtain ⟨x, xs, rfl⟩ := List.exists_cons_of_length_eq_add_one hlen
  have hfirst := hx x (List.mem_cons_self ..)
  obtain ⟨c, w, rfl⟩ := List.exists_cons_of_ne_nil hfirst.ne_nil
  exact ⟨c, _, List.intercalate_cons_cons_left, hfirst.digit c (List.mem_cons_self ..)⟩

/-- A blank before the address is skipped, and the address is accepted.  Numbers that are not
an `int` are cut to 32 bits here. -/
theorem blank_accepted : isValidIp toInt32 (CStr.lit " 1.2.3.4") = 1 ∧
    ¬ AcceptsQuads toInt32 (CStr.lit " 1.2.3.4") := by
  have haccepted : isValidIp toInt32 (CStr.lit " 1.2.3.4") = 1 := by decide +kernel
  refine ⟨haccepted, ?_⟩
  intro hlaw
  obtain ⟨c, w, hbytes, hdigit⟩ := (hlaw.1 haccepted).head
  have hblank : (CStr.lit " 1.2.3.4").bytes.head? = some 32 := by decide +kernel
  rw [hbytes, List.head?_cons, Option.some.injEq] at hblank
  rw [hblank] at hdigit
  cases hdigit

end Texts

end SscanfExample
