import Lpt.Base.Lines

/-!
# Texts that are cut in place

A tokenizer that works in place overwrites line ends with NULs, and every later search
runs on what the earlier ones have left.

* `JustAfter`, `LineFrom` — where a key is found, and the line that begins there, in the
  terms of the text alone.
* `Cut m m'` — `m'` is the memory `m` after some of its line ends have been overwritten.
* `Cut.strchr_iff` — a search for a line end in a cut memory succeeds exactly if the line
  end it finds in the untouched memory has not been overwritten.
* `Cut.read_line` — the rest of a line whose end has been overwritten.
-/

namespace CLib

section Searches

variable {key s t : List UInt8} {n pos : ℕ} {c : UInt8}

/-- `pos` lies just after the first occurrence of `key` in `t`. -/
def JustAfter (key t : List UInt8) (pos : ℕ) : Prop :=
  ∃ n, pos = n + key.length ∧ key <+: t.drop n ∧ ∀ k < n, ¬ key <+: t.drop k

/-- `v` is the text from `pos` up to the first line feed at or behind it. -/
def LineFrom (t : List UInt8) (pos : ℕ) (v : List UInt8) : Prop :=
  10 ∉ v ∧ ∃ b, t.drop pos = v ++ 10 :: b

/-- A line of a text is one of the memory that holds it. -/
theorem LineFrom.memory {v : List UInt8} (h : LineFrom t pos v) (hpos : pos ≤ t.length)
    (rest : List UInt8) : LineFrom (t ++ 0 :: rest) pos v := by
  obtain ⟨h10, b, heq⟩ := h
  refine ⟨h10, b ++ 0 :: rest, ?_⟩
  rw [List.drop_append_of_le_length hpos, heq, List.append_assoc, List.cons_append]

/-- What is found is the first occurrence. -/
theorem find_eq_some_iff (hk : key ≠ []) :
    find key s = some n ↔ key <+: s.drop n ∧ ∀ k < n, ¬ key <+: s.drop k := by
  induction s generalizing n with
  | nil =>
    rw [find, if_neg hk]
    simp [hk]
  | cons d s ih =>
    unfold find
    by_cases hp : key.isPrefixOf (d :: s) = true
    · rw [if_pos hp]
      rw [List.isPrefixOf_iff_prefix] at hp
      constructor
      · intro h
        cases h
        exact ⟨hp, fun k hk => absurd hk (Nat.not_lt_zero k)⟩
      · rintro ⟨-, hno⟩
        cases n with
        | zero => rfl
        | succ n => exact absurd hp (hno 0 (Nat.succ_pos n))
    · rw [if_neg hp, Option.map_eq_some_iff]
      rw [List.isPrefixOf_iff_prefix] at hp
      constructor
      · rintro ⟨m, hm, rfl⟩
        obtain ⟨hpre, hno⟩ := ih.1 hm
        refine ⟨hpre, ?_⟩
        intro k hk
        cases k with
        | zero => exact hp
        | succ k => exact hno k (Nat.lt_of_succ_lt_succ hk)
      · rintro ⟨hpre, hno⟩
        cases n with
        | zero => exact absurd hpre hp
        | succ n =>
          exact ⟨n, ih.2 ⟨hpre, fun k hk => hno (k + 1) (Nat.succ_lt_succ hk)⟩, rfl⟩

theorem justAfter_iff (hk : key ≠ []) :
    JustAfter key t pos ↔ ∃ n, find key t = some n ∧ pos = n + key.length := by
  unfold JustAfter
  apply exists_congr
  intro n
  rw [find_eq_some_iff hk]
  exact and_comm

theorem JustAfter.le_length (hk : key ≠ []) (h : JustAfter key t pos) : pos ≤ t.length := by
  obtain ⟨n, hn, rfl⟩ := (justAfter_iff hk).1 h
  exact find_add_length_le hk hn

/-- The first occurrence of a single character, with what lies around it. -/
theorem find_singleton_eq_some_iff :
    find [c] s = some n ↔ ∃ u v, s = u ++ c :: v ∧ c ∉ u ∧ n = u.length := by
  constructor
  · intro h
    have hmem : c ∈ s := by
      have hin : [c] <:+: s := find_isSome_iff.1 (by rw [h]; rfl)
      exact hin.subset (List.mem_singleton_self c)
    obtain ⟨u, v, rfl, hu⟩ := List.eq_append_cons_of_mem hmem
    rw [find_singleton hu] at h
    cases h
    exact ⟨u, v, rfl, hu, rfl⟩
  · rintro ⟨u, v, rfl, hu, rfl⟩
    exact find_singleton hu

/-- `strstr` in the memory of a string. -/
theorem strstr_text (t : CStr) (rest key : List UInt8) :
    strstr (t.bytes ++ 0 :: rest) 0 key = find key t.bytes := by
  rw [strstr, List.drop_zero, CStr.read_append_nul]
  cases find key t.bytes <;> simp

/-- The key of a `strstr` that succeeds, and the place it is used with. -/
theorem strstr_text_iff (hk : key ≠ []) (t : CStr) (rest : List UInt8) :
    (∃ n, strstr (t.bytes ++ 0 :: rest) 0 key = some n ∧ pos = n + key.length) ↔
      JustAfter key t.bytes pos := by
  rw [justAfter_iff hk]
  simp only [strstr_text]

/-- `strchr` for a line end in the memory of a string. -/
theorem strchr_text_iff (t : CStr) (rest : List UInt8) {a : ℕ} (hpos : pos ≤ t.bytes.length) :
    strchr (t.bytes ++ 0 :: rest) pos 10 = some a ↔
      ∃ v : CStr, LineFrom t.bytes pos v.bytes ∧ a = pos + v.length := by
  have hread : (CStr.read ((t.bytes ++ 0 :: rest).drop pos)).bytes = t.bytes.drop pos := by
    rw [List.drop_append_of_le_length hpos]
    exact congrArg CStr.bytes (CStr.read_append_nul (t.drop pos) rest)
  rw [strchr, strstr, hread, Option.map_eq_some_iff]
  constructor
  · rintro ⟨n, hn, rfl⟩
    obtain ⟨u, b, heq, hu, rfl⟩ := find_singleton_eq_some_iff.1 hn
    have h0 : 0 ∉ u := fun h => t.nulFree (List.mem_of_mem_drop (heq ▸ List.mem_append_left _ h))
    exact ⟨⟨u, h0⟩, ⟨hu, b, heq⟩, rfl⟩
  · rintro ⟨v, ⟨hv, b, heq⟩, rfl⟩
    exact ⟨v.length, find_singleton_eq_some_iff.2 ⟨v.bytes, b, heq, hv, rfl⟩, rfl⟩

end Searches

/-! ## Memory with some line ends overwritten -/

/-- `m'` is the memory `m` after some of its line ends have been overwritten with a NUL. -/
def Cut (m m' : List UInt8) : Prop :=
  ∀ i : ℕ, m'[i]? = m[i]? ∨ (m[i]? = some 10 ∧ m'[i]? = some 0)

/-- `strchr`, byte by byte. -/
theorem strchr_eq_some_iff {m : List UInt8} {off a : ℕ} :
    strchr m off 10 = some a ↔ off ≤ a ∧ m[a]? = some 10 ∧
      ∀ i, off ≤ i → i < a → m[i]? ≠ some 10 ∧ m[i]? ≠ some 0 := by
  rw [strchr, strstr, Option.map_eq_some_iff]
  simp only [find_singleton_eq_some_iff, read_bytes]
  constructor
  · rintro ⟨n, ⟨u, v, heq, hu, rfl⟩, rfl⟩
    obtain ⟨w, hw⟩ : u ++ 10 :: v <+: m.drop off := heq ▸ List.takeWhile_prefix _
    have h0 : 0 ∉ u := by
      have hread := (CStr.read (m.drop off)).nulFree
      rw [read_bytes, heq] at hread
      exact fun h => hread (List.mem_append_left _ h)
    have hget : ∀ j, m[off + j]? = (u ++ 10 :: (v ++ w))[j]? := fun j => by
      rw [← List.getElem?_drop, ← hw]
      simp
    refine ⟨Nat.le_add_right .., ?_, fun i hi₁ hi₂ => ?_⟩
    · rw [hget, List.getElem?_append_right le_rfl, Nat.sub_self]
      rfl
    · obtain ⟨j, rfl⟩ := Nat.exists_eq_add_of_le hi₁
      have hj : j < u.length := by omega
      rw [hget, List.getElem?_append_left hj, List.getElem?_eq_getElem hj]
      exact ⟨fun h => hu (Option.some.inj h ▸ List.getElem_mem hj),
        fun h => h0 (Option.some.inj h ▸ List.getElem_mem hj)⟩
  · rintro ⟨hle, ha, hbefore⟩
    obtain ⟨n, rfl⟩ := Nat.exists_eq_add_of_le hle
    obtain ⟨hlt, hval⟩ := List.getElem?_eq_some_iff.1 ha
    have hsplit : m.drop off = (m.drop off).take n ++ 10 :: m.drop (off + n + 1) := by
      conv_lhs => rw [← List.take_append_drop n (m.drop off)]
      rw [List.drop_drop, List.drop_eq_getElem_cons hlt, hval]
    have hlen : ((m.drop off).take n).length = n := by
      rw [List.length_take, List.length_drop]
      omega
    have hmem : ∀ c ∈ (m.drop off).take n, c ≠ 10 ∧ c ≠ 0 := by
      intro c hc
      obtain ⟨j, hj, rfl⟩ := List.getElem_of_mem hc
      have hj' : j < n := hlen ▸ hj
      have := hbefore (off + j) (Nat.le_add_right ..) (by omega)
      rw [List.getElem?_eq_getElem (by omega)] at this
      rw [List.getElem_take, List.getElem_drop]
      exact ⟨fun h => this.1 (congrArg some h), fun h => this.2 (congrArg some h)⟩
    have hread : (m.drop off).takeWhile (· != 0) =
        (m.drop off).take n ++ 10 :: (m.drop (off + n + 1)).takeWhile (· != 0) := by
      conv_lhs => rw [hsplit]
      rw [List.takeWhile_append_of_pos fun c hc => by simpa using (hmem c hc).2,
        List.takeWhile_cons_of_pos (by decide)]
    exact ⟨n, ⟨_, _, hread, fun h => (hmem 10 h).1 rfl, hlen.symm⟩, rfl⟩

namespace Cut

variable {m m' key v : List UInt8} {a b off : ℕ}

theorem refl (m : List UInt8) : Cut m m := fun _ => Or.inl rfl

/-- One more line end is overwritten. -/
theorem set (h : Cut m m') (ha : m[a]? = some 10) : Cut m (m'.set a 0) := by
  intro i
  by_cases hi : a = i
  · subst hi
    by_cases hlt : a < m'.length
    · exact Or.inr ⟨ha, List.getElem?_set_self hlt⟩
    · rw [List.set_eq_of_length_le (not_lt.1 hlt)]
      exact h a
  · rw [List.getElem?_set_ne hi]
    exact h i

/-- A byte that has been overwritten is no line end any more. -/
theorem getElem?_set_iff {m : List UInt8} {a b : ℕ} :
    (m.set a 0)[b]? = some 10 ↔ a ≠ b ∧ m[b]? = some 10 := by
  rw [List.getElem?_set]
  by_cases hab : a = b
  · rw [if_pos hab]
    split_ifs <;> simp [hab]
  · rw [if_neg hab]
    simp [hab]

/-- **A search for a line end in a memory that has been cut** finds what it finds in the
untouched memory, unless that line end has been overwritten. -/
theorem strchr_iff (h : Cut m m') :
    strchr m' off 10 = some a ↔ strchr m off 10 = some a ∧ m'[a]? = some 10 := by
  rw [strchr_eq_some_iff, strchr_eq_some_iff]
  constructor
  · rintro ⟨hle, ha, hbefore⟩
    refine ⟨⟨hle, ?_, fun i h₁ h₂ => ?_⟩, ha⟩
    · rcases h a with heq | ⟨heq, -⟩
      · exact heq ▸ ha
      · exact heq
    · rcases h i with heq | ⟨-, heq⟩
      · exact heq ▸ hbefore i h₁ h₂
      · exact absurd heq (hbefore i h₁ h₂).2
  · rintro ⟨⟨hle, -, hbefore⟩, ha⟩
    refine ⟨hle, ha, ?_⟩
    intro i h₁ h₂
    rcases h i with heq | ⟨heq, -⟩
    · exact heq ▸ hbefore i h₁ h₂
    · exact absurd heq (hbefore i h₁ h₂).1

/-- The rest of a line whose end has been overwritten, read as a string. -/
theorem read_line (h : Cut m m') (hline : LineFrom m off v) (hv : 0 ∉ v)
    (hend : m'[off + v.length]? = some 0) : (CStr.read (m'.drop off)).bytes = v := by
  obtain ⟨h10, b, heq⟩ := hline
  obtain ⟨hlt, hval⟩ := List.getElem?_eq_some_iff.1 hend
  have htake : (m'.drop off).take v.length = v := by
    apply List.ext_getElem?
    intro i
    by_cases hi : i < v.length
    · have hm : m[off + i]? = v[i]? := by
        rw [← List.getElem?_drop, heq, List.getElem?_append_left hi]
      rw [List.getElem?_take_of_lt hi, List.getElem?_drop, ← hm]
      rcases h (off + i) with hi' | ⟨hi', -⟩
      · exact hi'
      · rw [hm] at hi'
        exact absurd (List.mem_of_getElem? hi') h10
    · rw [List.getElem?_eq_none (not_lt.1 hi),
        List.getElem?_eq_none ((List.length_take_le ..).trans (not_lt.1 hi))]
  have hsplit : m'.drop off = v ++ 0 :: m'.drop (off + v.length + 1) := by
    conv_lhs => rw [← List.take_append_drop v.length (m'.drop off)]
    rw [htake, List.drop_drop, List.drop_eq_getElem_cons hlt, hval]
  rw [hsplit]
  exact congrArg CStr.bytes (CStr.read_append_nul ⟨v, hv⟩ _)

/-- A key without line feeds and NULs at the beginning of the memory. -/
theorem prefix_iff (h : Cut m m') (h0 : 0 ∉ key) (h10 : 10 ∉ key) : key <+: m' ↔ key <+: m := by
  rw [List.prefix_iff_getElem?, List.prefix_iff_getElem?]
  refine forall_congr' fun i => forall_congr' fun hi => ?_
  rcases h i with heq | ⟨heq, heq'⟩
  · rw [heq]
  · have hne0 : some (0 : UInt8) ≠ some key[i] :=
      fun hn => h0 (Option.some.inj hn ▸ List.getElem_mem hi)
    have hne10 : some (10 : UInt8) ≠ some key[i] :=
      fun hn => h10 (Option.some.inj hn ▸ List.getElem_mem hi)
    rw [heq, heq']
    exact iff_of_false hne0 hne10

end Cut

/-- A comparison with a key looks at the bytes before the first NUL, which the key does not
contain. -/
theorem startsWith_iff {m key : List UInt8} (h0 : 0 ∉ key) :
    startsWith m 0 key = true ↔ key <+: m := by
  rw [startsWith, List.drop_zero, List.isPrefixOf_iff_prefix, read_bytes]
  constructor
  · exact fun h => h.trans (List.takeWhile_prefix _)
  · rintro ⟨w, rfl⟩
    rw [List.takeWhile_append_of_pos fun c hc => by
      simpa using fun hc0 : c = 0 => h0 (hc0 ▸ hc)]
    exact List.prefix_append ..

theorem store_singleton {m : List UInt8} {a : ℕ} (ha : a < m.length) (d : UInt8) :
    store m a [d] = m.set a d := by
  rw [store, List.takeD_eq_take _ ha.le, List.set_eq_take_append_cons_drop, if_pos ha]
  simp

end CLib
