import Lpt.Base.Numbers

/-!
# Scanning with `%d` and `%c`

`%d` skips blanks and reads a numeral, with a sign or without; `%c` takes one character, also
a blank one.  The scan ends with the first conversion that fails, and its result is the
number of values assigned so far.

* `Conv`, `sscanf` — the conversions, and the values they assign.
* `Numeral` — what `%d` reads.
* `scanInt_numeral`, `numeral_of_scanInt` — `%d` reads a numeral, and nothing else.
* `sscanf_pairs`, `numerals_of_sscanf` — numerals with a character between them.

What is stored for a number that is not an `int` is not defined in C; here it is any function
of the number.
-/

namespace CLib

/-- A conversion. -/
inductive Conv where
  /-- `%d`. -/
  | int
  /-- `%c`. -/
  | char
  deriving DecidableEq

/-- A value that has been assigned. -/
inductive Assigned where
  | int (z : ℤ)
  | char (c : UInt8)
  deriving DecidableEq

/-- What is stored for the number `z`; `wild` says what it is if `z` is not an `int`. -/
def storedInt (wild : ℤ → ℤ) (z : ℤ) : ℤ :=
  if -2147483648 ≤ z ∧ z < 2147483648 then z else wild z

/-- `%d`: the value, and the text behind the numeral. -/
def scanInt (wild : ℤ → ℤ) (s : List UInt8) : Option (ℤ × List UInt8) :=
  let v := afterSign s
  if v.2.takeWhile isDigit = [] then none
  else some (storedInt wild (v.1 * leadingNat v.2), v.2.dropWhile isDigit)

/-- The values `sscanf` assigns, in order; it returns their number, or `EOF` if there is none
and the text is at its end. -/
def sscanf (wild : ℤ → ℤ) : List Conv → List UInt8 → List Assigned
  | [], _ => []
  | .int :: fs, s =>
      match scanInt wild s with
      | none => []
      | some (z, rest) => .int z :: sscanf wild fs rest
  | .char :: _, [] => []
  | .char :: fs, c :: rest => .char c :: sscanf wild fs rest

/-- The integers among the values. -/
def ints (vs : List Assigned) : List ℤ :=
  vs.filterMap fun v => match v with
    | .int z => some z
    | .char _ => none

/-- The characters among them. -/
def chars (vs : List Assigned) : List UInt8 :=
  vs.filterMap fun v => match v with
    | .int _ => none
    | .char c => some c

/-! ## Numerals -/

/-- A numeral as `%d` reads it. -/
structure Numeral where
  blanks : List UInt8
  /-- `+`, `-` or nothing. -/
  sign : List UInt8
  digits : List UInt8
  blank : ∀ c ∈ blanks, isSpace c = true
  sign_mem : sign = [] ∨ sign = [43] ∨ sign = [45]
  digit : ∀ c ∈ digits, isDigit c = true
  digits_ne : digits ≠ []

namespace Numeral

/-- The text of the numeral. -/
def text (n : Numeral) : List UInt8 := n.blanks ++ (n.sign ++ n.digits)

/-- The number it denotes. -/
def value (n : Numeral) : ℤ := (if n.sign = [45] then -1 else 1) * leadingNat n.digits

end Numeral

section Scanning

variable {wild : ℤ → ℤ} {s rest : List UInt8} {z : ℤ}

/-- The text does not begin with a digit. -/
def NoDigit (rest : List UInt8) : Prop := rest.takeWhile isDigit = []

theorem noDigit_nil : NoDigit [] := rfl

theorem noDigit_cons {c : UInt8} (hc : isDigit c = false) (rest : List UInt8) :
    NoDigit (c :: rest) :=
  List.takeWhile_cons_of_neg (by rw [hc]; exact Bool.false_ne_true)

/-- The digits at the front of a text. -/
theorem takeWhile_digits {ds : List UInt8} (hd : ∀ c ∈ ds, isDigit c = true)
    (hrest : NoDigit rest) : (ds ++ rest).takeWhile isDigit = ds ∧
      (ds ++ rest).dropWhile isDigit = rest ∧ leadingNat (ds ++ rest) = leadingNat ds := by
  have htake : (ds ++ rest).takeWhile isDigit = ds := by
    rw [List.takeWhile_append_of_pos hd, hrest, List.append_nil]
  have hself : ds.takeWhile isDigit = ds := List.takeWhile_eq_self_iff.2 hd
  have hdrop : rest.dropWhile isDigit = rest := by
    have hboth := List.takeWhile_append_dropWhile (p := isDigit) (l := rest)
    rwa [hrest, List.nil_append] at hboth
  refine ⟨htake, by rw [List.dropWhile_append_of_pos hd, hdrop], ?_⟩
  show ((ds ++ rest).takeWhile isDigit).foldl _ 0 = (ds.takeWhile isDigit).foldl _ 0
  rw [htake, hself]

/-- The sign of a numeral, and the text behind it. -/
theorem Numeral.afterSign_eq (n : Numeral) (rest : List UInt8) :
    afterSign (n.text ++ rest) = (if n.sign = [45] then -1 else 1, n.digits ++ rest) := by
  obtain ⟨d, ds, hds⟩ := List.exists_cons_of_ne_nil n.digits_ne
  have hmem : d ∈ n.digits := by
    rw [hds]
    exact List.mem_cons_self ..
  obtain ⟨hblank, hplus, hminus⟩ := isDigit_ne (n.digit d hmem)
  unfold afterSign Numeral.text
  rw [List.append_assoc, List.dropWhile_append_of_pos n.blank, List.append_assoc, hds]
  rcases n.sign_mem with hs | hs | hs
  · rw [hs]
    simp [hblank, takeSign, hplus, hminus]
  · rw [hs]
    simp [isSpace, takeSign]
  · rw [hs]
    simp [isSpace, takeSign]

/-- **`%d` reads a numeral.** -/
theorem scanInt_numeral (wild : ℤ → ℤ) (n : Numeral) (hrest : NoDigit rest) :
    scanInt wild (n.text ++ rest) = some (storedInt wild n.value, rest) := by
  obtain ⟨htake, hdrop, hnat⟩ := takeWhile_digits n.digit hrest
  unfold scanInt
  dsimp only
  rw [n.afterSign_eq rest, htake, if_neg n.digits_ne, hdrop, hnat]
  rfl

/-- No numeral has a dot in it. -/
theorem Numeral.dot_notMem (n : Numeral) : 46 ∉ n.text := by
  unfold Numeral.text
  rw [List.mem_append, List.mem_append]
  rintro (hb | hs | hd)
  · have hblank := n.blank 46 hb
    cases hblank
  · rcases n.sign_mem with h | h | h
    · simp [h] at hs
    · simp [h] at hs
    · simp [h] at hs
  · have hdigit := n.digit 46 hd
    cases hdigit

/-- **What `%d` reads is a numeral.** -/
theorem numeral_of_scanInt (h : scanInt wild s = some (z, rest)) :
    ∃ n : Numeral, s = n.text ++ rest ∧ z = storedInt wild n.value ∧ NoDigit rest := by
  unfold scanInt at h
  dsimp only at h
  by_cases hd : (afterSign s).2.takeWhile isDigit = []
  · rw [if_pos hd] at h
    cases h
  rw [if_neg hd] at h
  cases h
  have hrest : NoDigit ((afterSign s).2.dropWhile isDigit) := by
    unfold NoDigit
    induction (afterSign s).2 with
    | nil => rfl
    | cons c v ih =>
      rw [List.dropWhile_cons]
      split
      · exact ih
      · exact List.takeWhile_cons_of_neg ‹_›
  -- the sign is what stands between the blanks and the digits
  obtain ⟨sign, hsign, hcut⟩ : ∃ sign, (sign = [] ∨ sign = [43] ∨ sign = [45]) ∧
      s.dropWhile isSpace = sign ++ (afterSign s).2 ∧
        (afterSign s).1 = if sign = [45] then -1 else 1 := by
    unfold afterSign takeSign
    generalize s.dropWhile isSpace = v
    split_ifs with hminus hplus
    · obtain ⟨w, rfl⟩ := List.head?_eq_some_iff.1 hminus
      exact ⟨[45], by simp⟩
    · obtain ⟨w, rfl⟩ := List.head?_eq_some_iff.1 hplus
      exact ⟨[43], by simp⟩
    · exact ⟨[], by simp⟩
  have hdigit : ∀ c ∈ (afterSign s).2.takeWhile isDigit, isDigit c = true :=
    fun c hc => List.mem_takeWhile_imp hc
  let n : Numeral := ⟨s.takeWhile isSpace, sign, (afterSign s).2.takeWhile isDigit,
    fun c hc => List.mem_takeWhile_imp hc, hsign, hdigit, hd⟩
  have hsplit := List.takeWhile_append_dropWhile (p := isDigit) (l := (afterSign s).2)
  have htext : s = n.text ++ (afterSign s).2.dropWhile isDigit := by
    have hfront := List.takeWhile_append_dropWhile (p := isSpace) (l := s)
    rw [hcut.1] at hfront
    simp only [n, Numeral.text, List.append_assoc, hsplit, hfront]
  refine ⟨n, htext, ?_, hrest⟩
  have hnat := (takeWhile_digits hdigit hrest).2.2
  rw [hsplit] at hnat
  rw [hcut.2, hnat]
  rfl

end Scanning

/-! ## Numerals with a character between them -/

/-- The format with `k` times `%d%c`. -/
def pairs : ℕ → List Conv
  | 0 => []
  | k + 1 => .int :: .char :: pairs k

/-- The numerals `ns` with the character `c` between them. -/
def Numeral.joined (c : UInt8) (ns : List Numeral) : List UInt8 :=
  [c].intercalate (ns.map Numeral.text)

/-- What is assigned for them. -/
def Numeral.assigned (wild : ℤ → ℤ) (c : UInt8) : List Numeral → List Assigned
  | [] => []
  | [n] => [.int (storedInt wild n.value)]
  | n :: n' :: ns => .int (storedInt wild n.value) :: .char c :: assigned wild c (n' :: ns)

section Joined

variable {wild : ℤ → ℤ} {c : UInt8} {s : List UInt8}

theorem Numeral.joined_cons (n n' : Numeral) (ns : List Numeral) :
    joined c (n :: n' :: ns) = n.text ++ c :: joined c (n' :: ns) := by
  simp [joined]

/-- **Numerals with a character between them** are scanned one by one. -/
theorem sscanf_pairs (wild : ℤ → ℤ) (hc : isDigit c = false) (ns : List Numeral) :
    sscanf wild (pairs ns.length) (Numeral.joined c ns) = Numeral.assigned wild c ns := by
  induction ns with
  | nil => rfl
  | cons n ns ih =>
    cases ns with
    | nil =>
      have hscan := scanInt_numeral wild n noDigit_nil
      rw [List.append_nil] at hscan
      simp [Numeral.joined, pairs, sscanf, hscan, Numeral.assigned]
    | cons n' ns =>
      have hscan := scanInt_numeral wild n (noDigit_cons hc (Numeral.joined c (n' :: ns)))
      rw [Numeral.joined_cons]
      simp only [List.length_cons, pairs, sscanf, hscan, Numeral.assigned]
      exact congrArg _ (congrArg _ ih)

/-- **A format that ends with the last `%d`** has read such a text. -/
theorem numerals_of_sscanf {k : ℕ} (h : (sscanf wild (pairs (k + 1)) s).length = 2 * k + 1)
    (hc : ∀ d ∈ chars (sscanf wild (pairs (k + 1)) s), d = c) :
    ∃ ns : List Numeral, ns.length = k + 1 ∧ s = Numeral.joined c ns := by
  induction k generalizing s with
  | zero =>
    cases hscan : scanInt wild s with
    | none => simp [pairs, sscanf, hscan] at h
    | some r =>
      obtain ⟨z, rest⟩ := r
      cases rest with
      | nil =>
        obtain ⟨n, htext, -, -⟩ := numeral_of_scanInt hscan
        exact ⟨[n], rfl, by simpa [Numeral.joined] using htext⟩
      | cons d rest => simp [pairs, sscanf, hscan] at h
  | succ k ih =>
    cases hscan : scanInt wild s with
    | none => simp [pairs, sscanf, hscan] at h
    | some r =>
      obtain ⟨z, rest⟩ := r
      obtain ⟨n, htext, -, -⟩ := numeral_of_scanInt hscan
      cases rest with
      | nil =>
        simp [pairs, sscanf, hscan] at h
      | cons d rest =>
        have hstep : sscanf wild (pairs (k + 1 + 1)) s =
            .int z :: .char d :: sscanf wild (pairs (k + 1)) rest := by
          rw [pairs, sscanf, hscan]
          rfl
        rw [hstep] at h hc
        simp only [List.length_cons] at h
        simp only [chars, List.filterMap_cons, List.forall_mem_cons] at hc
        obtain ⟨ns, hlen, hrest⟩ := ih (by omega) hc.2
        obtain ⟨n', ns, rfl⟩ := List.exists_cons_of_length_eq_add_one hlen
        refine ⟨n :: n' :: ns, by rw [List.length_cons, hlen], ?_⟩
        rw [Numeral.joined_cons, ← hrest, htext, hc.1]

/-- The number of values, the characters and the integers among them. -/
theorem Numeral.assigned_spec (wild : ℤ → ℤ) (c : UInt8) (ns : List Numeral) (hne : ns ≠ []) :
    (assigned wild c ns).length + 1 = 2 * ns.length ∧
      (∀ d ∈ chars (assigned wild c ns), d = c) ∧
      ints (assigned wild c ns) = ns.map fun n => storedInt wild n.value := by
  induction ns with
  | nil => exact absurd rfl hne
  | cons n ns ih =>
    cases ns with
    | nil => simp [assigned, chars, ints]
    | cons n' ns =>
      obtain ⟨hlen, hchars, hints⟩ := ih (List.cons_ne_nil _ _)
      refine ⟨?_, ?_, ?_⟩
      · simp only [assigned, List.length_cons] at hlen ⊢
        omega
      · simp only [assigned, chars, List.filterMap_cons, List.forall_mem_cons, true_and]
        exact hchars
      · simp only [assigned, ints, List.filterMap_cons, List.map_cons]
        exact congrArg _ hints

end Joined

end CLib
