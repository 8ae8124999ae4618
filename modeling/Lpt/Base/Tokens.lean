import Lpt.Base.Cuts

/-!
# Tokens of a text, cut out in place

`strtok_r` walks over a text in memory and ends each token it returns with a NUL.  What it
finds is a function of the text alone.

* `nextToken` — the first token of a text, and the text behind it.
* `Front` — a text looked at from its front: there is no token, or one at the end, or one
  that a separator ends.
* `strtokR_blank`, `strtokR_last`, `strtokR_ended` — what `strtok_r` does in each case, with
  the memory before and behind the text.
* `Strtok` — the same in terms of `nextToken`, so that calls can be chained.
-/

namespace CLib

/-- The first token of a text, and what is behind the separator that ends it. -/
def nextToken (sep : UInt8) (u : List UInt8) : Option (List UInt8 × List UInt8) :=
  let v := u.dropWhile (· == sep)
  if v = [] then none else some (v.takeWhile (· != sep), (v.dropWhile (· != sep)).drop 1)

/-- A text up to the end of its first token. -/
def upToToken (sep : UInt8) (u : List UInt8) : List UInt8 :=
  u.takeWhile (· == sep) ++ (nextToken sep u).elim [] Prod.fst

/-- A text, looked at from its front. -/
inductive Front (sep : UInt8) : List UInt8 → Prop
  /-- There is no token. -/
  | blank (k : ℕ) : Front sep (List.replicate k sep)
  /-- The only token ends with the text. -/
  | last (k : ℕ) {a : List UInt8} : a ≠ [] → sep ∉ a → Front sep (List.replicate k sep ++ a)
  /-- The first token ends with a separator. -/
  | ended (k : ℕ) {a : List UInt8} (rest : List UInt8) : a ≠ [] → sep ∉ a →
      Front sep (List.replicate k sep ++ (a ++ sep :: rest))

section Texts

variable {sep : UInt8} {a rest x : List UInt8}

theorem takeWhile_ne (h : sep ∉ a) (hx : x.head? = none ∨ x.head? = some sep) :
    (a ++ x).takeWhile (· != sep) = a ∧ (a ++ x).dropWhile (· != sep) = x := by
  have hpos : ∀ c ∈ a, (c != sep) = true := by
    intro c hc
    simpa using fun hs : c = sep => h (hs ▸ hc)
  rw [List.takeWhile_append_of_pos hpos, List.dropWhile_append_of_pos hpos]
  cases x with
  | nil => simp
  | cons c x =>
    obtain rfl : c = sep := by simpa using hx
    simp

theorem dropWhile_sep (k : ℕ) (h : a ≠ []) (hs : sep ∉ a) :
    (List.replicate k sep ++ (a ++ x)).dropWhile (· == sep) = a ++ x ∧
      (List.replicate k sep ++ (a ++ x)).takeWhile (· == sep) = List.replicate k sep := by
  have hpos : ∀ c ∈ List.replicate k sep, (c == sep) = true := by
    intro c hc
    simpa using List.eq_of_mem_replicate hc
  rw [List.takeWhile_append_of_pos hpos, List.dropWhile_append_of_pos hpos]
  cases a with
  | nil => exact absurd rfl h
  | cons c a =>
    have hc : (c == sep) = false := by
      simpa using fun hc : c = sep => hs (hc ▸ List.mem_cons_self ..)
    simp [hc]

theorem front (sep : UInt8) (u : List UInt8) : Front sep u := by
  induction u with
  | nil => exact .blank 0
  | cons c u ih =>
    by_cases hc : c = sep
    · subst hc
      cases ih with
      | blank k => exact .blank (k + 1)
      | last k ha hs => exact .last (k + 1) ha hs
      | ended k rest ha hs => exact .ended (k + 1) rest ha hs
    · have hs' : sep ∉ [c] := by simpa using Ne.symm hc
      cases ih with
      | blank k =>
        cases k with
        | zero => exact .last 0 (List.cons_ne_nil c []) hs'
        | succ k => exact .ended 0 (List.replicate k sep) (List.cons_ne_nil c []) hs'
      | @last k a ha hs =>
        cases k with
        | zero => exact .last 0 (List.cons_ne_nil c a) (by simpa [Ne.symm hc] using hs)
        | succ k => exact .ended 0 (List.replicate k sep ++ a) (List.cons_ne_nil c []) hs'
      | @ended k a rest ha hs =>
        cases k with
        | zero => exact .ended 0 rest (List.cons_ne_nil c a) (by simpa [Ne.symm hc] using hs)
        | succ k =>
          exact .ended 0 (List.replicate k sep ++ (a ++ sep :: rest)) (List.cons_ne_nil c []) hs'

theorem nextToken_blank (sep : UInt8) (k : ℕ) : nextToken sep (List.replicate k sep) = none := by
  unfold nextToken
  exact if_pos (List.dropWhile_eq_nil_iff.2 fun c hc => by simpa using List.eq_of_mem_replicate hc)

theorem nextToken_append (k : ℕ) (h : a ≠ []) (hs : sep ∉ a)
    (hx : x.head? = none ∨ x.head? = some sep) :
    nextToken sep (List.replicate k sep ++ (a ++ x)) = some (a, x.drop 1) := by
  unfold nextToken
  have hne : a ++ x ≠ [] := fun hn => h (List.append_eq_nil_iff.1 hn).1
  simp only [(dropWhile_sep k h hs).1, takeWhile_ne hs hx]
  exact if_neg hne

theorem nextToken_last (k : ℕ) (h : a ≠ []) (hs : sep ∉ a) :
    nextToken sep (List.replicate k sep ++ a) = some (a, []) := by
  have heq := nextToken_append (x := []) k h hs (Or.inl rfl)
  rwa [List.append_nil] at heq

theorem nextToken_ended (k : ℕ) (rest : List UInt8) (h : a ≠ []) (hs : sep ∉ a) :
    nextToken sep (List.replicate k sep ++ (a ++ sep :: rest)) = some (a, rest) :=
  nextToken_append k h hs (Or.inr rfl)

theorem upToToken_blank (sep : UInt8) (k : ℕ) :
    upToToken sep (List.replicate k sep) = List.replicate k sep := by
  unfold upToToken
  rw [nextToken_blank, List.takeWhile_eq_self_iff.2]
  · exact List.append_nil _
  · intro c hc
    simpa using List.eq_of_mem_replicate hc

theorem upToToken_last (k : ℕ) (h : a ≠ []) (hs : sep ∉ a) :
    upToToken sep (List.replicate k sep ++ a) = List.replicate k sep ++ a := by
  have htake := (dropWhile_sep (x := []) k h hs).2
  rw [List.append_nil] at htake
  unfold upToToken
  rw [nextToken_last k h hs, htake]
  rfl

theorem upToToken_ended (k : ℕ) (rest : List UInt8) (h : a ≠ []) (hs : sep ∉ a) :
    upToToken sep (List.replicate k sep ++ (a ++ sep :: rest)) = List.replicate k sep ++ a := by
  unfold upToToken
  rw [nextToken_ended k rest h hs, (dropWhile_sep k h hs).2]
  rfl

theorem upToToken_front (sep : UInt8) (u : List UInt8) : upToToken sep u <+: u := by
  cases front sep u with
  | blank k => rw [upToToken_blank]
  | last k ha hs => rw [upToToken_last k ha hs]
  | ended k rest ha hs =>
    rw [upToToken_ended k rest ha hs, ← List.append_assoc]
    exact List.prefix_append _ _

/-- A text has a separator before the end of its first token exactly if it begins with one. -/
theorem mem_upToToken_iff {u : List UInt8} : sep ∈ upToToken sep u ↔ u.head? = some sep := by
  cases front sep u with
  | blank k =>
    rw [upToToken_blank]
    cases k with
    | zero => simp
    | succ k => simp [List.replicate_succ]
  | @last k a ha hs =>
    rw [upToToken_last k ha hs]
    cases k with
    | zero => simpa [hs] using fun h => hs (List.mem_of_mem_head? h)
    | succ k => simp [List.replicate_succ]
  | @ended k a rest ha hs =>
    rw [upToToken_ended k rest ha hs]
    cases k with
    | zero =>
      rw [List.replicate_zero, List.nil_append, List.nil_append, List.head?_append_of_ne_nil a ha]
      exact iff_of_false hs fun h => hs (List.mem_of_mem_head? h)
    | succ k => simp [List.replicate_succ]

end Texts

/-! ## In memory -/

section Memory

variable {sep : UInt8} {a rest tail A : List UInt8}

theorem strtokR_blank (A : List UInt8) (k : ℕ) (hsep : sep ≠ 0)
    (ht : (CStr.read tail).bytes = []) :
    strtokR (A ++ (List.replicate k sep ++ tail)) A.length sep =
      ⟨none, A ++ (List.replicate k sep ++ tail), A.length + k⟩ := by
  have h0 : 0 ∉ List.replicate k sep := fun h => hsep (List.eq_of_mem_replicate h).symm
  have hall : (List.replicate k sep).takeWhile (· == sep) = List.replicate k sep :=
    List.takeWhile_eq_self_iff.2 fun c hc => by simpa using List.eq_of_mem_replicate hc
  unfold strtokR
  rw [List.drop_left, read_append h0, ht, List.append_nil]
  simp only [hall, List.length_replicate, List.drop_replicate, Nat.sub_self, List.replicate_zero,
    if_true]

theorem strtokR_last (A : List UInt8) (k : ℕ) (hsep : sep ≠ 0) (h : a ≠ []) (hs : sep ∉ a)
    (h0 : 0 ∉ a) (ht : (CStr.read tail).bytes = []) :
    strtokR (A ++ (List.replicate k sep ++ (a ++ tail))) A.length sep =
      ⟨some (A.length + k), A ++ (List.replicate k sep ++ (a ++ tail)),
        A.length + k + a.length⟩ := by
  have h0' : 0 ∉ List.replicate k sep := fun h => hsep (List.eq_of_mem_replicate h).symm
  have htake := (dropWhile_sep (x := []) k h hs).2
  have hne := (takeWhile_ne (x := []) hs (Or.inl rfl)).1
  rw [List.append_nil] at htake hne
  unfold strtokR
  rw [List.drop_left, read_append h0', read_append h0, ht, List.append_nil]
  simp only [htake, List.length_replicate, List.drop_left' List.length_replicate, hne, if_neg h,
    if_true]

theorem strtokR_ended (A : List UInt8) (k : ℕ) (rest : List UInt8) (hsep : sep ≠ 0) (h : a ≠ [])
    (hs : sep ∉ a) (h0 : 0 ∉ a) :
    strtokR (A ++ (List.replicate k sep ++ (a ++ sep :: rest))) A.length sep =
      ⟨some (A.length + k), A ++ (List.replicate k sep ++ (a ++ 0 :: rest)),
        A.length + k + a.length + 1⟩ := by
  have h0' : 0 ∉ List.replicate k sep := fun h => hsep (List.eq_of_mem_replicate h).symm
  have hcons : (CStr.read (sep :: rest)).bytes = sep :: (CStr.read rest).bytes := by
    rw [read_bytes, List.takeWhile_cons_of_pos (by simpa using hsep), read_bytes]
  have htake := (dropWhile_sep (x := sep :: (CStr.read rest).bytes) k h hs).2
  have hne := (takeWhile_ne (x := sep :: (CStr.read rest).bytes) hs (Or.inr rfl)).1
  have hstore : store (A ++ (List.replicate k sep ++ (a ++ sep :: rest)))
      (A.length + k + a.length) [0] = A ++ (List.replicate k sep ++ (a ++ 0 :: rest)) := by
    rw [store_singleton (by simp; omega), List.set_append_right _ _ (by omega),
      List.set_append_right _ _ (by simp; omega), List.set_append_right _ _ (by simp; omega)]
    simp only [List.length_replicate]
    rw [show A.length + k + a.length - A.length - k - a.length = 0 by omega, List.set_cons_zero]
  unfold strtokR
  rw [List.drop_left, read_append h0', read_append h0, hcons]
  simp only [htake, List.length_replicate, List.drop_left' List.length_replicate, hne, hstore]
  rw [if_neg (by simp), if_neg (by simp)]

/-- A call of `strtok_r` on the text that starts with the memory `B`, behind the memory `A`. -/
inductive Strtok (sep : UInt8) (A B : List UInt8) : Token → Prop
  /-- There is no token, and the next call finds none either. -/
  | none {A' B' : List UInt8} : nextToken sep (CStr.read B).bytes = none → A <+: A' →
      (CStr.read B').bytes = [] → Strtok sep A B ⟨none, A' ++ B', A'.length⟩
  /-- The token stays where it is, whatever is done to the rest from now on, and the next call
  goes on with the rest. -/
  | some {A' B' rest : List UInt8} {a : List UInt8} {i : ℕ} :
      nextToken sep (CStr.read B).bytes = some (a, rest) → A <+: A' →
      (CStr.read B').bytes = rest →
      (∀ B'', (rest = [] → (CStr.read B'').bytes = []) →
        (CStr.read ((A' ++ B'').drop i)).bytes = a) →
      Strtok sep A B ⟨some i, A' ++ B', A'.length⟩

theorem Strtok.mem_eq {t : Token} {B : List UInt8} (h : Strtok sep A B t) :
    ∃ A' B', t.mem = A' ++ B' ∧ A <+: A' := by
  cases h with
  | none _ hA _ => exact ⟨_, _, rfl, hA⟩
  | some _ hA _ _ => exact ⟨_, _, rfl, hA⟩

theorem strtokR_strtok (hsep : sep ≠ 0) (A B : List UInt8) :
    Strtok sep A B (strtokR (A ++ B) A.length sep) := by
  obtain ⟨tail, hB, ht⟩ := exists_tail B
  have h0 := (CStr.read B).nulFree
  generalize hu : (CStr.read B).bytes = u at hB h0
  subst hB
  cases front sep u with
  | blank k =>
    have hstrtok : Strtok sep A (List.replicate k sep ++ tail)
        ⟨.none, (A ++ List.replicate k sep) ++ tail, (A ++ List.replicate k sep).length⟩ :=
      .none (by rw [hu, nextToken_blank]) (List.prefix_append ..) ht
    rw [strtokR_blank A k hsep ht]
    simpa using hstrtok
  | @last k a ha hs =>
    have h0' : 0 ∉ a := fun h => h0 (List.mem_append_right _ h)
    have hread : ∀ B'', (([] : List UInt8) = [] → (CStr.read B'').bytes = []) →
        (CStr.read ((A ++ List.replicate k sep ++ a ++ B'').drop (A.length + k))).bytes = a := by
      intro B'' hB
      rw [List.append_assoc _ a, List.drop_left' (by simp), read_append h0', hB rfl,
        List.append_nil]
    have hnext : nextToken sep (CStr.read (List.replicate k sep ++ a ++ tail)).bytes =
        some (a, []) := by
      rw [hu, nextToken_last k ha hs]
    have hpre : A <+: A ++ List.replicate k sep ++ a := ⟨List.replicate k sep ++ a, by simp⟩
    have hstrtok := Strtok.some hnext hpre ht hread
    rw [List.append_assoc, strtokR_last A k hsep ha hs h0' ht]
    simpa [add_assoc] using hstrtok
  | @ended k a rest ha hs =>
    have h0' : 0 ∉ a := fun h => h0 (List.mem_append_right _ (List.mem_append_left _ h))
    have h0'' : 0 ∉ rest := fun h => h0 (List.mem_append_right _
      (List.mem_append_right _ (List.mem_cons_of_mem _ h)))
    have hread : ∀ B'', (rest = [] → (CStr.read B'').bytes = []) →
        (CStr.read ((A ++ List.replicate k sep ++ a ++ [0] ++ B'').drop (A.length + k))).bytes =
          a := by
      intro B'' _
      rw [List.append_assoc, List.append_assoc _ a, List.drop_left' (by simp), read_append h0']
      exact List.append_nil a
    have hrest : (CStr.read (rest ++ tail)).bytes = rest := by
      rw [read_append h0'', ht, List.append_nil]
    have hnext : nextToken sep (CStr.read
        (List.replicate k sep ++ (a ++ sep :: rest) ++ tail)).bytes = some (a, rest) := by
      rw [hu, nextToken_ended k rest ha hs]
    have hpre : A <+: A ++ List.replicate k sep ++ a ++ [0] :=
      ⟨List.replicate k sep ++ a ++ [0], by simp⟩
    have hstrtok := Strtok.some hnext hpre hrest hread
    rw [List.append_assoc, List.append_assoc, List.cons_append,
      strtokR_ended A k (rest ++ tail) hsep ha hs h0']
    simpa [add_assoc] using hstrtok

/-- What is read from the place of the call afterwards. -/
theorem read_strtokR (hsep : sep ≠ 0) (A B : List UInt8) :
    ∃ B', (strtokR (A ++ B) A.length sep).mem = A ++ B' ∧
      (CStr.read B').bytes = upToToken sep (CStr.read B).bytes := by
  obtain ⟨tail, hB, ht⟩ := exists_tail B
  have h0 := (CStr.read B).nulFree
  generalize hu : (CStr.read B).bytes = u at hB h0
  subst hB
  cases front sep u with
  | blank k =>
    rw [strtokR_blank A k hsep ht, upToToken_blank]
    exact ⟨_, rfl, hu⟩
  | @last k a ha hs =>
    have h0' : 0 ∉ a := fun h => h0 (List.mem_append_right _ h)
    rw [List.append_assoc, strtokR_last A k hsep ha hs h0' ht, upToToken_last k ha hs]
    exact ⟨_, rfl, by rw [← List.append_assoc, hu]⟩
  | @ended k a rest ha hs =>
    have h0' : 0 ∉ a := fun h => h0 (List.mem_append_right _ (List.mem_append_left _ h))
    have h0k : 0 ∉ List.replicate k sep := fun h => h0 (List.mem_append_left _ h)
    rw [List.append_assoc, List.append_assoc, List.cons_append,
      strtokR_ended A k (rest ++ tail) hsep ha hs h0', upToToken_ended k rest ha hs]
    refine ⟨_, rfl, ?_⟩
    rw [read_append h0k, read_append h0']
    exact congrArg _ (List.append_nil a)

end Memory

end CLib
