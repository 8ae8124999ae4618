import Lpt.Base.CString

/-!
# Texts made of lines

What `strstr` and `strchr` find in a text of lines, and what is left of it when some of
the line ends have been overwritten with a NUL.

* `find_append_cons` — a character that is not in the key splits the search.
* `image` — the memory of a text some of whose lines have been cut off.
* `nodup_findIdx_iff` — several searches, each for an element of a list that meets it,
  end at different elements if and only if none of them is stopped too early.
-/

namespace CLib

/-! ## First occurrences -/

section Find

variable {key s a b k k' v : List UInt8} {c : UInt8}

/-- The text up to the first occurrence of a character is determined. -/
theorem append_cons_inj_first (h₁ : c ∉ a) (h₂ : c ∉ b) {x y : List UInt8}
    (h : a ++ c :: x = b ++ c :: y) : a = b ∧ x = y := by
  induction a generalizing b with
  | nil =>
    cases b with
    | nil => exact ⟨rfl, (List.cons.inj h).2⟩
    | cons d b => exact absurd ((List.cons.inj h).1 ▸ List.mem_cons_self ..) h₂
  | cons d a ih =>
    cases b with
    | nil => exact absurd ((List.cons.inj h).1 ▸ List.mem_cons_self ..) h₁
    | cons e b =>
      obtain ⟨rfl, h'⟩ := List.cons.inj h
      obtain ⟨rfl, rfl⟩ := ih (fun hc => h₁ (List.mem_cons_of_mem _ hc))
        (fun hc => h₂ (List.mem_cons_of_mem _ hc)) h'
      exact ⟨rfl, rfl⟩

theorem prefix_append_cons_iff (hc : c ∉ key) : key <+: a ++ c :: b ↔ key <+: a := by
  refine ⟨fun h => ?_, fun h => h.trans (List.prefix_append ..)⟩
  have hac : a ++ [c] <+: a ++ c :: b := ⟨b, by simp⟩
  rcases List.prefix_or_prefix_of_prefix h hac with h | h
  · rcases List.prefix_concat_iff.1 h with rfl | h
    · exact absurd (by simp) hc
    · exact h
  · exact absurd (h.subset (by simp)) hc

/-- There is an occurrence exactly if one is found. -/
theorem find_isSome_iff : (find key s).isSome ↔ key <:+: s := by
  induction s with
  | nil =>
    rw [find, List.infix_nil]
    split <;> simp [*]
  | cons d s ih =>
    rw [find, List.infix_cons_iff, ← List.isPrefixOf_iff_prefix]
    split
    · simp [*]
    · simp [*]

/-- What is found is an occurrence. -/
theorem prefix_find_drop {n : ℕ} (h : find key s = some n) : key <+: s.drop n := by
  induction s generalizing n with
  | nil =>
    rw [find] at h
    split at h
    · rename_i hk
      rw [hk]
      exact List.nil_prefix
    · cases h
  | cons d s ih =>
    rw [find] at h
    split at h
    · cases h
      exact List.isPrefixOf_iff_prefix.1 ‹_›
    · obtain ⟨m, hm, rfl⟩ := Option.map_eq_some_iff.1 h
      exact ih hm

/-- What is found lies inside the text. -/
theorem find_add_length_le {n : ℕ} (hk : key ≠ []) (h : find key s = some n) :
    n + key.length ≤ s.length := by
  have hlen := (prefix_find_drop h).length_le
  have hpos := List.length_pos_of_ne_nil hk
  rw [List.length_drop] at hlen
  omega

theorem find_self_append (key v : List UInt8) : find key (key ++ v) = some 0 := by
  have h : key.isPrefixOf (key ++ v) = true :=
    List.isPrefixOf_iff_prefix.2 (List.prefix_append key v)
  cases hs : key ++ v with
  | nil =>
    rw [find, if_pos (List.append_eq_nil_iff.1 hs).1]
  | cons d s =>
    rw [hs] at h
    rw [find, if_pos h]

/-- **A character that is not in the key splits the search.** -/
theorem find_append_cons (hc : c ∉ key) (hk : key ≠ []) :
    find key (a ++ c :: b) = (find key a).or ((find key b).map (a.length + 1 + ·)) := by
  induction a with
  | nil =>
    have hn : ¬ key.isPrefixOf (c :: b) = true := by
      rw [List.isPrefixOf_iff_prefix]
      intro h
      exact hk (List.prefix_nil.1 ((prefix_append_cons_iff hc).1 h))
    have h0 : find key [] = none := by rw [find, if_neg hk]
    have h1 : find key (c :: b) = (find key b).map (· + 1) := by rw [find, if_neg hn]
    rw [List.nil_append, h0, h1, Option.none_or]
    congr 1
    funext n
    simp only [List.length_nil]
    omega
  | cons d a ih =>
    have hp : key.isPrefixOf (d :: (a ++ c :: b)) = key.isPrefixOf (d :: a) := by
      rw [Bool.eq_iff_iff, List.isPrefixOf_iff_prefix, List.isPrefixOf_iff_prefix,
        ← List.cons_append]
      exact prefix_append_cons_iff hc
    rw [List.cons_append, find, find, hp, ih]
    split
    · rfl
    · cases find key a with
      | some n => rfl
      | none =>
        simp only [Option.map_none, Option.none_or, Option.map_map, List.length_cons]
        congr 1
        funext n
        simp only [Function.comp_apply]
        omega

/-- The first occurrence of a single character. -/
theorem find_singleton (h : c ∉ a) : find [c] (a ++ c :: b) = some a.length := by
  induction a with
  | nil => simp [find]
  | cons d a ih =>
    have hd : ¬ [c].isPrefixOf (d :: (a ++ c :: b)) = true := by
      simp only [List.isPrefixOf_cons_cons, Bool.and_eq_true, beq_iff_eq]
      exact fun hn => h (hn.1 ▸ List.mem_cons_self ..)
    rw [List.cons_append, find, if_neg hd, ih fun hc => h (List.mem_cons_of_mem _ hc)]
    rfl

/-- A key with an end mark of its own occurs in a line that begins with another such key
exactly if it occurs behind it. -/
theorem infix_append_cons_iff (hk : c ∉ k) (hk' : c ∉ k') (hne : ¬ k <:+ k') :
    k ++ [c] <:+: k' ++ c :: v ↔ k ++ [c] <:+: v := by
  constructor
  · rintro ⟨x, y, h⟩
    by_cases hx : c ∈ x
    · -- the mark of the line lies before the occurrence
      obtain ⟨x₁, x₂, rfl, hx₁⟩ := List.eq_append_cons_of_mem hx
      have h' : x₁ ++ c :: (x₂ ++ (k ++ [c]) ++ y) = k' ++ c :: v := by
        rw [← h]
        simp
      exact ⟨x₂, y, (append_cons_inj_first hx₁ hk' h').2⟩
    · -- otherwise the two marks are the same
      have hxk : c ∉ x ++ k := by simp [hx, hk]
      have h' : (x ++ k) ++ c :: y = k' ++ c :: v := by
        rw [← h]
        simp
      exact absurd ⟨x, (append_cons_inj_first hxk hk' h').1⟩ hne
  · exact fun h => h.trans ((List.infix_cons List.infix_rfl).trans
      (List.suffix_append k' (c :: v)).isInfix)

end Find

/-! ## Lines -/

/-- The memory of the lines `ls`, counted from `i`: each is ended by a line feed, or by a
NUL if it has been cut. -/
def image (cuts : List ℕ) (i : ℕ) : List (List UInt8) → List UInt8
  | [] => []
  | l :: ls => l ++ (if i ∈ cuts then 0 else 10) :: image cuts (i + 1) ls

/-- The offset of the line `i`. -/
def lineOff (ls : List (List UInt8)) (i : ℕ) : ℕ := ((ls.take i).map fun l => l.length + 1).sum

/-- Lines without line feeds and NULs. -/
def Clean (ls : List (List UInt8)) : Prop := ∀ l ∈ ls, 0 ∉ l ∧ 10 ∉ l

section Lines

variable {cuts cuts' : List ℕ} {ls : List (List UInt8)} {i j k : ℕ} {key : List UInt8}

theorem image_append (as bs : List (List UInt8)) :
    image cuts j (as ++ bs) = image cuts j as ++ image cuts (j + as.length) bs := by
  induction as generalizing j with
  | nil => rfl
  | cons a as ih =>
    rw [List.cons_append, image, image, ih, List.append_assoc, List.cons_append, List.length_cons,
      Nat.add_right_comm, Nat.add_assoc]

theorem image_congr (h : ∀ i, j ≤ i → i < j + ls.length → (i ∈ cuts ↔ i ∈ cuts')) :
    image cuts j ls = image cuts' j ls := by
  induction ls generalizing j with
  | nil => rfl
  | cons l ls ih =>
    rw [List.length_cons] at h
    rw [image, image, ih fun i h₁ h₂ => h i (by omega) (by omega)]
    simp only [h j le_rfl (by omega)]

theorem length_image (cuts : List ℕ) (j : ℕ) (ls : List (List UInt8)) :
    (image cuts j ls).length = (ls.map fun l => l.length + 1).sum := by
  induction ls generalizing j with
  | nil => rfl
  | cons l ls ih =>
    rw [image, List.length_append, List.length_cons, ih, List.map_cons, List.sum_cons]
    omega

/-- The memory around a line. -/
theorem image_eq (cuts : List ℕ) (hi : i < ls.length) : image cuts 0 ls =
    image cuts 0 (ls.take i) ++
      (ls[i] ++ (if i ∈ cuts then 0 else 10) :: image cuts (i + 1) (ls.drop (i + 1))) := by
  have hlen : (ls.take i).length = i := by
    rw [List.length_take]
    omega
  conv_lhs => rw [← List.take_append_drop i ls, List.drop_eq_getElem_cons hi]
  rw [image_append, hlen, Nat.zero_add, image]

theorem drop_image (cuts : List ℕ) (hi : i < ls.length) (hk : k ≤ ls[i].length) (m : List UInt8) :
    (image cuts 0 ls ++ m).drop (lineOff ls i + k) = ls[i].drop k ++
      (if i ∈ cuts then 0 else 10) :: (image cuts (i + 1) (ls.drop (i + 1)) ++ m) := by
  rw [image_eq cuts hi, lineOff, ← length_image cuts 0, List.append_assoc,
    List.drop_length_add_append, List.append_assoc, List.cons_append,
    List.drop_append_of_le_length hk]

/-- **The end of a line is found unless the line has been cut.** -/
theorem strchr_image (m : List UInt8) (hc : Clean ls) (hi : i < ls.length) (hk : k ≤ ls[i].length) :
    strchr (image cuts 0 ls ++ m) (lineOff ls i + k) 10 =
      if i ∈ cuts then none else some (lineOff ls i + ls[i].length) := by
  obtain ⟨h0, h10⟩ := hc _ (List.getElem_mem hi)
  have h0 : 0 ∉ ls[i].drop k := fun h => h0 (List.mem_of_mem_drop h)
  have h10 : 10 ∉ ls[i].drop k := fun h => h10 (List.mem_of_mem_drop h)
  rw [strchr, strstr, drop_image cuts hi hk, read_append h0]
  split
  · have hn : find [10] (ls[i].drop k) = none := by
      rw [← Option.not_isSome_iff_eq_none, find_isSome_iff]
      exact fun h => h10 (h.subset (List.mem_cons_self ..))
    simp [CStr.read, hn]
  · rw [read_bytes, List.takeWhile_cons_of_pos (by decide), find_singleton h10, Option.map_some,
      List.length_drop]
    congr 1
    omega

/-- One byte is overwritten. -/
theorem store_append_cons (a b : List UInt8) (c d : UInt8) :
    store (a ++ c :: b) a.length [d] = a ++ d :: b := by
  rw [store, List.takeD_eq_take _ (by simp), List.take_left, List.append_assoc,
    List.length_singleton, List.drop_length_add_append]
  rfl

/-- The end of a line is overwritten. -/
theorem store_image (m : List UInt8) (hi : i < ls.length) :
    store (image cuts 0 ls ++ m) (lineOff ls i + ls[i].length) [0] =
      image (i :: cuts) 0 ls ++ m := by
  have hpre : image (i :: cuts) 0 (ls.take i) = image cuts 0 (ls.take i) :=
    image_congr fun j _ hj => by
      rw [List.length_take] at hj
      have hne : j ≠ i := by omega
      simp [hne]
  have hpost : image (i :: cuts) (i + 1) (ls.drop (i + 1)) =
      image cuts (i + 1) (ls.drop (i + 1)) :=
    image_congr fun j hj _ => by
      have hne : j ≠ i := by omega
      simp [hne]
  rw [image_eq cuts hi, image_eq (i :: cuts) hi, hpre, hpost, if_pos (List.mem_cons_self ..),
    lineOff, ← length_image cuts 0, ← List.length_append]
  simp only [List.append_assoc, List.cons_append]
  rw [← List.append_assoc, store_append_cons, List.append_assoc]

/-- The rest of a line that has been cut is read as a string. -/
theorem read_image (m : List UInt8) (hc : Clean ls) (hi : i < ls.length) (hk : k ≤ ls[i].length)
    (hcut : i ∈ cuts) :
    (CStr.read ((image cuts 0 ls ++ m).drop (lineOff ls i + k))).bytes = ls[i].drop k := by
  have h0 : 0 ∉ ls[i].drop k := fun h => (hc _ (List.getElem_mem hi)).1 (List.mem_of_mem_drop h)
  rw [drop_image cuts hi hk, read_append h0, if_pos hcut]
  simp [CStr.read]

theorem find_image (j : ℕ) (hk : key ≠ []) (h10 : 10 ∉ key) (h : ∃ l ∈ ls, (find key l).isSome) :
    ∃ (hi : ls.findIdx (fun l => (find key l).isSome) < ls.length) (n : ℕ),
      find key ls[ls.findIdx fun l => (find key l).isSome] = some n ∧
      find key (image [] j ls) =
        some (lineOff ls (ls.findIdx fun l => (find key l).isSome) + n) := by
  refine ⟨List.findIdx_lt_length_of_exists h, ?_⟩
  induction ls generalizing j with
  | nil => simp at h
  | cons l ls ih =>
    rw [image, if_neg (List.not_mem_nil), find_append_cons h10 hk]
    cases hl : find key l with
    | some n =>
      have h0 : (l :: ls).findIdx (fun l => (find key l).isSome) = 0 := by
        simp [List.findIdx_cons, hl]
      simp only [h0, List.getElem_cons_zero]
      exact ⟨n, hl, by simp [lineOff]⟩
    | none =>
      have hs : (l :: ls).findIdx (fun l => (find key l).isSome) =
          ls.findIdx (fun l => (find key l).isSome) + 1 := by
        simp [List.findIdx_cons, hl]
      have hex : ∃ l ∈ ls, (find key l).isSome := by
        obtain ⟨l', hl', hf⟩ := h
        rcases List.mem_cons.1 hl' with rfl | hl'
        · rw [hl] at hf
          cases hf
        · exact ⟨l', hl', hf⟩
      obtain ⟨n, h₁, h₂⟩ := ih (j + 1) hex
      simp only [hs, List.getElem_cons_succ]
      refine ⟨n, h₁, ?_⟩
      rw [h₂, Option.none_or, Option.map_some, lineOff, lineOff, List.take_succ_cons,
        List.map_cons, List.sum_cons]
      congr 1
      omega

/-- **The first occurrence of a key without a line feed** lies in the first line that
contains it. -/
theorem strstr_image (m : List UInt8) (hc : Clean ls) (hk : key ≠ []) (h10 : 10 ∉ key)
    (h : ∃ l ∈ ls, (find key l).isSome) :
    ∃ (hi : ls.findIdx (fun l => (find key l).isSome) < ls.length) (n : ℕ),
      find key ls[ls.findIdx fun l => (find key l).isSome] = some n ∧
      strstr (image [] 0 ls ++ 0 :: m) 0 key =
        some (lineOff ls (ls.findIdx fun l => (find key l).isSome) + n) := by
  have h0 : ∀ {j : ℕ} {ls : List (List UInt8)}, Clean ls → 0 ∉ image [] j ls := by
    intro j ls hc
    induction ls generalizing j with
    | nil => simp [image]
    | cons l ls ih =>
      have hl := (hc l (List.mem_cons_self ..)).1
      have := @ih (j + 1) fun l hl => hc l (List.mem_cons_of_mem _ hl)
      simp [image, hl, this]
  obtain ⟨hi, n, h₁, h₂⟩ := find_image 0 hk h10 h
  refine ⟨hi, n, h₁, ?_⟩
  rw [strstr, List.drop_zero, read_append (h0 hc), read_bytes, List.takeWhile_cons_of_neg (by simp),
    List.append_nil, h₂, Option.map_some, Nat.zero_add]

end Lines

/-! ## Several searches -/

section Searches

variable {α : Type} {l : List α} {p : α → α → Bool}

/-- Each element that is searched for is the first to meet the search. -/
def FirstOwn (p : α → α → Bool) (l : List α) : Prop :=
  ∀ i (hi : i < l.length), l.findIdx (p l[i]) = i

theorem pairwise_iff_firstOwn (hrefl : ∀ a ∈ l, p a a = true) :
    (l.Pairwise fun a b => p b a = false) ↔ FirstOwn p l := by
  rw [List.pairwise_iff_getElem]
  constructor
  · intro h i hi
    exact (List.findIdx_eq hi).2 ⟨hrefl _ (List.getElem_mem hi), fun j hj => h j i (by omega) hi hj⟩
  · intro h i j hi hj hij
    exact ((List.findIdx_eq hj).1 (h j hj)).2 i hij

theorem nodup_iff_firstOwn (hrefl : ∀ a ∈ l, p a a = true) :
    (l.map fun a => l.findIdx (p a)).Nodup ↔ FirstOwn p l := by
  constructor
  · intro h i
    induction i using Nat.strong_induction_on with
    | _ i ih =>
      intro hi
      have hle : l.findIdx (p l[i]) ≤ i := by
        by_contra hn
        have := List.not_of_lt_findIdx (not_le.1 hn)
        rw [hrefl _ (List.getElem_mem hi)] at this
        cases this
      by_contra hne
      -- a search stopped too early ends where the search for that element ends
      have hj := ih _ (lt_of_le_of_ne hle hne) (lt_of_le_of_lt hle hi)
      have hinj := List.inj_on_of_nodup_map h (List.getElem_mem (lt_of_le_of_lt hle hi))
        (List.getElem_mem hi) hj
      exact hne ((List.Nodup.getElem_inj_iff (h.of_map _)).1 hinj)
  · intro h
    have hrange : (l.map fun a => l.findIdx (p a)) = List.range l.length :=
      List.ext_getElem (by simp) fun i h₁ _ => by simpa using h i (by simpa using h₁)
    rw [hrange]
    exact List.nodup_range

/-- **Searches that do not meet.**  The searches for the elements of a list end at
different elements if and only if no element is met by the search for a later one. -/
theorem nodup_findIdx_iff (hrefl : ∀ a ∈ l, p a a = true) :
    (l.map fun a => l.findIdx (p a)).Nodup ↔ l.Pairwise fun a b => p b a = false :=
  (nodup_iff_firstOwn hrefl).trans (pairwise_iff_firstOwn hrefl).symm

end Searches

end CLib
