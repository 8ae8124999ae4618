import Lpt.Base.Lines

/-!
# Numbers at the front of a text

`atoi` looks at blanks, a sign and the digits behind it, and at nothing else; a number that
no `long` holds is cut to the nearest.  So a text decides by itself which number it gives if and
only if there is something behind the digits, or one digit more makes the number too large and
it already reads like one that is.

* `afterSign` — the sign, and the text behind it.
* `NumberEnded` — there is a character that is no digit.
* `Saturated` — the number reads like one that is too large, whatever digits follow.
* `atoi_append`, `Saturated.atoi_append` — what comes behind such texts makes no difference.
* `saturated_of_append_digit` — behind any other text a digit does.
-/

namespace CLib

/-- A decimal digit. -/
def isDigit (c : UInt8) : Bool := decide (48 ≤ c ∧ c ≤ 57)

/-- A sign, if there is one, and the text behind it. -/
def takeSign (v : List UInt8) : ℤ × List UInt8 :=
  if v.head? = some 45 then (-1, v.drop 1)
  else if v.head? = some 43 then (1, v.drop 1)
  else (1, v)

/-- The sign of the number at the front of a text, and the text behind the sign. -/
def afterSign (s : List UInt8) : ℤ × List UInt8 := takeSign (s.dropWhile isSpace)

/-- The number at the front of the text ends inside it. -/
def NumberEnded (s : List UInt8) : Prop := ∃ c ∈ (afterSign s).2, isDigit c = false

instance (s : List UInt8) : Decidable (NumberEnded s) :=
  inferInstanceAs (Decidable (∃ c ∈ (afterSign s).2, isDigit c = false))

/-- The number at the front of the text reads as `LONG_MAX` or `LONG_MIN` does as an `int`, and
with one digit more it is out of the range of a `long`. -/
def Saturated (s : List UInt8) : Prop :=
  9223372036854775808 ≤ 10 * leadingNat (afterSign s).2 ∧
    atoi (CStr.read s) = if (afterSign s).1 < 0 then 0 else -1

instance (s : List UInt8) : Decidable (Saturated s) := inferInstanceAs (Decidable (_ ∧ _))

section Numbers

variable {s x ds : List UInt8} {d : UInt8}

theorem atoi_eq (s : CStr) :
    atoi s = toInt32 (clampLong ((afterSign s.bytes).1 * leadingNat (afterSign s.bytes).2)) := by
  unfold atoi afterSign takeSign
  generalize s.bytes.dropWhile isSpace = v
  split
  · simp
  · simp
  · rename_i h₁ h₂
    have hminus : v.head? ≠ some 45 := by
      intro h
      obtain ⟨ds, rfl⟩ := List.head?_eq_some_iff.1 h
      exact h₁ ds rfl
    have hplus : v.head? ≠ some 43 := by
      intro h
      obtain ⟨ds, rfl⟩ := List.head?_eq_some_iff.1 h
      exact h₂ ds rfl
    rw [if_neg hminus, if_neg hplus, one_mul]

theorem afterSign_sign (s : List UInt8) : (afterSign s).1 = 1 ∨ (afterSign s).1 = -1 := by
  unfold afterSign takeSign
  split_ifs
  · exact Or.inr rfl
  · exact Or.inl rfl
  · exact Or.inl rfl

/-- A number that no `long` holds. -/
theorem toInt32_clampLong {σ : ℤ} {n : ℕ} (hσ : σ = 1 ∨ σ = -1) (hn : 9223372036854775808 ≤ n) :
    toInt32 (clampLong (σ * n)) = if σ < 0 then 0 else -1 := by
  rcases hσ with rfl | rfl
  · have hclamp : clampLong (1 * n) = 9223372036854775807 := by
      unfold clampLong
      omega
    rw [hclamp]
    rfl
  · have hclamp : clampLong (-1 * n) = -9223372036854775808 := by
      unfold clampLong
      omega
    rw [hclamp]
    rfl

theorem takeSign_append {v : List UInt8} (h : v ≠ []) (x : List UInt8) :
    takeSign (v ++ x) = ((takeSign v).1, (takeSign v).2 ++ x) := by
  cases v with
  | nil => exact absurd rfl h
  | cons c v =>
    unfold takeSign
    rw [List.cons_append, List.head?_cons, List.head?_cons]
    split_ifs <;> rfl

theorem afterSign_append (h : s.dropWhile isSpace ≠ []) (x : List UInt8) :
    afterSign (s ++ x) = ((afterSign s).1, (afterSign s).2 ++ x) := by
  have hdrop : (s ++ x).dropWhile isSpace = s.dropWhile isSpace ++ x := by
    induction s with
    | nil => exact absurd rfl h
    | cons c s ih =>
      rw [List.cons_append, List.dropWhile_cons, List.dropWhile_cons]
      rw [List.dropWhile_cons] at h
      split_ifs at h ⊢ with hc
      · exact ih h
      · rfl
  unfold afterSign
  rw [hdrop, takeSign_append h]

/-- A digit is neither a blank nor a sign. -/
theorem isDigit_ne {c : UInt8} (hc : isDigit c = true) :
    isSpace c = false ∧ c ≠ 43 ∧ c ≠ 45 := by
  obtain ⟨hlo, hhi⟩ := of_decide_eq_true hc
  refine ⟨decide_eq_false ?_, ?_, ?_⟩
  · rintro (rfl | ⟨-, hle⟩)
    · exact absurd hlo (by decide)
    · exact absurd (show (48 : UInt8) ≤ 13 from UInt8.le_trans hlo hle) (by decide)
  · rintro rfl
    exact absurd hlo (by decide)
  · rintro rfl
    exact absurd hlo (by decide)

/-- A digit behind a text is a digit behind its sign. -/
theorem afterSign_append_digit (hd : isDigit d = true) (s : List UInt8) :
    afterSign (s ++ [d]) = ((afterSign s).1, (afterSign s).2 ++ [d]) := by
  by_cases h : s.dropWhile isSpace = []
  · obtain ⟨hblank, hplus, hminus⟩ := isDigit_ne hd
    have hdrop : (s ++ [d]).dropWhile isSpace = [d] := by
      rw [List.dropWhile_append_of_pos (List.dropWhile_eq_nil_iff.1 h),
        List.dropWhile_cons_of_neg (by rw [hblank]; exact Bool.false_ne_true)]
    unfold afterSign
    rw [hdrop, h]
    unfold takeSign
    rw [List.head?_cons, if_neg (by simpa using hminus), if_neg (by simpa using hplus)]
    rfl
  · exact afterSign_append h [d]

theorem leadingNat_append (h : ∃ c ∈ ds, isDigit c = false) (x : List UInt8) :
    leadingNat (ds ++ x) = leadingNat ds := by
  have htake : ∀ x : List UInt8, (ds ++ x).takeWhile isDigit = ds.takeWhile isDigit := by
    intro x
    induction ds with
    | nil => simp at h
    | cons c ds ih =>
      rw [List.cons_append, List.takeWhile_cons, List.takeWhile_cons]
      split_ifs with hc
      · obtain ⟨c', hmem, hc'⟩ := h
        rcases List.mem_cons.1 hmem with rfl | hmem
        · rw [hc] at hc'
          cases hc'
        · rw [ih ⟨c', hmem, hc'⟩]
      · rfl
  show ((ds ++ x).takeWhile isDigit).foldl _ 0 = (ds.takeWhile isDigit).foldl _ 0
  rw [htake]

theorem leadingNat_append_digit (h : ∀ c ∈ ds, isDigit c = true) (hd : isDigit d = true) :
    leadingNat (ds ++ [d]) = 10 * leadingNat ds + (d.toNat - 48) := by
  have hself : ds.takeWhile isDigit = ds := List.takeWhile_eq_self_iff.2 h
  have hsnoc : (ds ++ [d]).takeWhile isDigit = ds ++ [d] :=
    List.takeWhile_eq_self_iff.2 fun c hc => by
      rcases List.mem_append.1 hc with hc | hc
      · exact h c hc
      · rw [List.mem_singleton.1 hc]
        exact hd
  show ((ds ++ [d]).takeWhile isDigit).foldl _ 0 =
    10 * (ds.takeWhile isDigit).foldl _ 0 + (d.toNat - 48)
  rw [hsnoc, hself, List.foldl_append]
  rfl

/-- **A number that has ended** does not depend on what comes behind it. -/
theorem atoi_append (h : NumberEnded s) (h0 : 0 ∉ s) (hx : 0 ∉ x) :
    atoi (CStr.read (s ++ x)) = atoi (CStr.read s) := by
  have hne : s.dropWhile isSpace ≠ [] := by
    intro hnil
    obtain ⟨c, hc, -⟩ := h
    unfold afterSign at hc
    rw [hnil] at hc
    cases hc
  have hsx : 0 ∉ s ++ x := fun h => (List.mem_append.1 h).elim h0 hx
  rw [atoi_eq, atoi_eq, read_of_nulFree hsx, read_of_nulFree h0, afterSign_append hne,
    leadingNat_append h]

/-- Digits make a number no smaller. -/
theorem le_foldl_digits (n : ℕ) (ds : List UInt8) :
    n ≤ ds.foldl (fun n c => 10 * n + (c.toNat - 48)) n := by
  induction ds generalizing n with
  | nil => exact le_rfl
  | cons d ds ih =>
    rw [List.foldl_cons]
    exact le_trans (by omega) (ih _)

/-- What comes behind a number leaves it as it is, or adds digits to it. -/
theorem leadingNat_append_cases (ds x : List UInt8) :
    leadingNat (ds ++ x) = leadingNat ds ∨ 10 * leadingNat ds ≤ leadingNat (ds ++ x) := by
  by_cases h : ∃ c ∈ ds, isDigit c = false
  · exact Or.inl (leadingNat_append h x)
  · have hdigits : ∀ c ∈ ds, isDigit c = true := fun c hc => by
      by_contra hn
      exact h ⟨c, hc, by simpa using hn⟩
    have hself : ds.takeWhile isDigit = ds := List.takeWhile_eq_self_iff.2 hdigits
    have htake : (ds ++ x).takeWhile isDigit = ds ++ x.takeWhile isDigit :=
      List.takeWhile_append_of_pos hdigits
    show ((ds ++ x).takeWhile isDigit).foldl _ 0 = (ds.takeWhile isDigit).foldl _ 0 ∨
      10 * (ds.takeWhile isDigit).foldl _ 0 ≤ ((ds ++ x).takeWhile isDigit).foldl _ 0
    rw [htake, hself, List.foldl_append]
    cases x.takeWhile isDigit with
    | nil => exact Or.inl rfl
    | cons d y =>
      right
      rw [List.foldl_cons]
      exact le_trans (Nat.le_add_right _ _) (le_foldl_digits _ y)

/-- **A number that is too large** stays so, whatever comes behind it. -/
theorem Saturated.atoi_append (h : Saturated s) (h0 : 0 ∉ s) (hx : 0 ∉ x) :
    atoi (CStr.read (s ++ x)) = atoi (CStr.read s) := by
  obtain ⟨hlarge, hreads⟩ := h
  have hne : s.dropWhile isSpace ≠ [] := by
    intro hnil
    unfold afterSign at hlarge
    rw [hnil] at hlarge
    exact absurd hlarge (by decide)
  have hsx : 0 ∉ s ++ x := fun h => (List.mem_append.1 h).elim h0 hx
  rcases leadingNat_append_cases (afterSign s).2 x with heq | hle
  · rw [atoi_eq, atoi_eq, read_of_nulFree hsx, read_of_nulFree h0, afterSign_append hne, heq]
  · rw [hreads, atoi_eq, read_of_nulFree hsx, afterSign_append hne]
    exact toInt32_clampLong (afterSign_sign s) (hlarge.trans hle)

example : Saturated (text "99999999999999999999") := by decide +kernel

/-- A number that is the same `int` as the next one is `LONG_MAX` at least, with either sign. -/
theorem le_of_clampLong_eq {σ : ℤ} {n : ℕ} (hσ : σ = 1 ∨ σ = -1)
    (heq : toInt32 (clampLong (σ * n)) = toInt32 (clampLong (σ * (n + 1 : ℕ)))) :
    9223372036854775807 ≤ n := by
  by_contra hlt
  have hclamp : ∀ k : ℕ, k ≤ n + 1 → clampLong (σ * k) = σ * k := by
    intro k hk
    unfold clampLong
    rcases hσ with rfl | rfl
    · omega
    · omega
  rw [hclamp n (Nat.le_succ n), hclamp (n + 1) le_rfl] at heq
  unfold toInt32 at heq
  rw [Int.bmod_def, Int.bmod_def] at heq
  rcases hσ with rfl | rfl
  · split_ifs at heq <;> omega
  · split_ifs at heq <;> omega

/-- **A number that has not ended** and is the same with a 0 and with a 1 behind it is too
large. -/
theorem saturated_of_append_digit (h : ¬ NumberEnded s) (h0 : 0 ∉ s)
    (h48 : atoi (CStr.read (s ++ [48])) = atoi (CStr.read s))
    (h49 : atoi (CStr.read (s ++ [49])) = atoi (CStr.read s)) : Saturated s := by
  have hdigits : ∀ c ∈ (afterSign s).2, isDigit c = true := by
    intro c hc
    by_contra hn
    exact h ⟨c, hc, by simpa using hn⟩
  have hread : ∀ d : UInt8, isDigit d = true → atoi (CStr.read (s ++ [d])) = toInt32 (clampLong
      ((afterSign s).1 * (10 * leadingNat (afterSign s).2 + (d.toNat - 48) : ℕ))) := by
    intro d hd
    have hd0 : 0 ∉ s ++ [d] := by
      rw [List.mem_append, List.mem_singleton]
      rintro (h | rfl)
      · exact h0 h
      · cases hd
    rw [atoi_eq, read_of_nulFree hd0, afterSign_append_digit hd, leadingNat_append_digit hdigits hd]
  have hsign := afterSign_sign s
  -- both digits give the same `int` only if both numbers are cut
  have hlarge : 9223372036854775808 ≤ 10 * leadingNat (afterSign s).2 := by
    have heq := h48.trans h49.symm
    rw [hread 48 (by decide), hread 49 (by decide)] at heq
    have hle : 9223372036854775807 ≤ 10 * leadingNat (afterSign s).2 :=
      le_of_clampLong_eq hsign heq
    omega
  refine ⟨hlarge, ?_⟩
  rw [← h48, hread 48 (by decide)]
  exact toInt32_clampLong hsign hlarge

end Numbers

end CLib
