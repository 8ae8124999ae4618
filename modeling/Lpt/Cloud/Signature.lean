import Lpt.Cloud.Request

/-!
# What the signature covers

`swMD5Code` renders an id as the decimal code of a character, the second half of the id, the
code again, the id, and the code once more, and hashes the first 63 characters of that.

* `signText` — the whole rendering.
* `signText_inj` — different ids have different renderings, although the code is not
  separated from what follows it.
* `exists_collision` — an id whose rendering is cut shares its message with another one.
* `md5Message_unique_iff` — an id has a message of its own exactly if its rendering is
  shorter than the buffer by two characters or more.
-/

namespace SwCloud

open CLib

/-! ## Codes of characters -/

/-- The code of a character. -/
def charCode (c : UInt8) : List UInt8 := decimal (charVal c)

/-- What is needed of the code of a character. -/
structure CodeFacts (c : UInt8) : Prop where
  nulFree : 0 ∉ charCode c
  pos : 0 < (charCode c).length
  length_le : (charCode c).length ≤ 4
  /-- Only the code of a NUL begins with a zero. -/
  zero : (charCode c).head? = some 48 ↔ c = 0
  /-- Only the first character may be a sign. -/
  digits : ∀ d ∈ (charCode c).tail, 48 ≤ d ∧ d ≤ 57
  /-- The code of a digit is a number of two digits from 48 on. -/
  ofDigit : 48 ≤ c → c ≤ 57 → (charCode c).length = 2 ∧
    ((charCode c).head? = some 52 ∨ (charCode c).head? = some 53)
  /-- A code of three characters has a sign or begins with 1. -/
  long : 3 ≤ (charCode c).length → (charCode c).head? = some 45 ∨ (charCode c).head? = some 49

theorem codeFacts (c : UInt8) : CodeFacts c := by
  have hall : ∀ n : Fin 256, let c := UInt8.ofNat n
      (0 ∉ charCode c ∧ 0 < (charCode c).length ∧ (charCode c).length ≤ 4) ∧
      ((charCode c).head? = some 48 ↔ c = 0) ∧
      (charCode c).tail.all (fun d => decide (48 ≤ d ∧ d ≤ 57)) = true ∧
      (48 ≤ c → c ≤ 57 → (charCode c).length = 2 ∧
        ((charCode c).head? = some 52 ∨ (charCode c).head? = some 53)) ∧
      (3 ≤ (charCode c).length →
        (charCode c).head? = some 45 ∨ (charCode c).head? = some 49) := by
    decide +kernel
  have hc := hall ⟨c.toNat, c.toNat_lt⟩
  simp only [UInt8.ofNat_toNat] at hc
  obtain ⟨⟨h₁, h₂, h₃⟩, h₄, h₅, h₆, h₇⟩ := hc
  exact ⟨h₁, h₂, h₃, h₄, by simpa using h₅, h₆, h₇⟩

section Codes

variable {x y : UInt8} {u v : List UInt8}

theorem head?_charCode_append (x : UInt8) (u : List UInt8) :
    (charCode x ++ u).head? = (charCode x).head? :=
  List.head?_append_of_ne_nil _ (List.ne_nil_of_length_pos (codeFacts x).pos)

/-- A code that is followed by its character is not the beginning of a longer code. -/
theorem charCode_eq_of_front (h : charCode x ++ x :: u = charCode y ++ v)
    (hpre : charCode x <+: charCode y) : charCode x = charCode y := by
  obtain ⟨w, hw⟩ := hpre
  cases w with
  | nil => rwa [List.append_nil] at hw
  | cons d w =>
    rw [← hw, List.append_assoc, List.append_cancel_left_eq, List.cons_append,
      List.cons.injEq] at h
    obtain ⟨rfl, -⟩ := h
    -- the character is a digit, so its code is too large to have another digit behind it
    have htail : x ∈ (charCode y).tail := by
      rw [← hw, List.tail_append_of_ne_nil (List.ne_nil_of_length_pos (codeFacts x).pos)]
      exact List.mem_append_right _ (List.mem_cons_self ..)
    obtain ⟨hlo, hhi⟩ := (codeFacts y).digits x htail
    obtain ⟨hlen, hhead⟩ := (codeFacts x).ofDigit hlo hhi
    have hlong : 3 ≤ (charCode y).length := by
      rw [← hw, List.length_append, List.length_cons, hlen]
      omega
    have hsame : (charCode y).head? = (charCode x).head? := by
      rw [← hw, head?_charCode_append]
    have hfirst := (codeFacts y).long hlong
    rw [hsame] at hfirst
    rcases hhead with hhead | hhead
    · rw [hhead] at hfirst
      simp at hfirst
    · rw [hhead] at hfirst
      simp at hfirst

/-- **The code can be told from what follows it**, its own character. -/
theorem charCode_eq (h : charCode x ++ x :: u = charCode y ++ y :: v) :
    charCode x = charCode y := by
  have hx : charCode x <+: charCode y ++ y :: v := h ▸ List.prefix_append _ _
  rcases List.prefix_or_prefix_of_prefix hx (List.prefix_append _ _) with hpre | hpre
  · exact charCode_eq_of_front h hpre
  · exact (charCode_eq_of_front h.symm hpre).symm

end Codes

/-! ## The rendering -/

/-- The second half of an id. -/
def signMid (id : CStr) : CStr := id.drop (id.length / 2 + 1)

/-- The code in the rendering. -/
def signCode (id : CStr) : List UInt8 := charCode ((signMid id).bytes.headD 0)

/-- The rendering of an id, as long as it is. -/
def signText (id : CStr) : List UInt8 :=
  signCode id ++ (signMid id).bytes ++ signCode id ++ id.bytes ++ signCode id

/-- The number of its characters. -/
def signLength (id : CStr) : ℕ := 3 * (signCode id).length + (signMid id).length + id.length

section Rendering

variable {a b : CStr}

/-- What is hashed is the rendering, up to 63 characters of it. -/
theorem md5Message_eq (id : CStr) :
    md5Message id = store (List.replicate 64 0) 0 ((signText id).take 63) := rfl

theorem length_signText (id : CStr) : (signText id).length = signLength id := by
  unfold signText signLength CStr.length
  simp only [List.length_append]
  omega

theorem length_signMid (id : CStr) : (signMid id).length = id.length - (id.length / 2 + 1) :=
  List.length_drop

theorem signText_nulFree (id : CStr) : 0 ∉ signText id := by
  have hcode : 0 ∉ signCode id := (codeFacts _).nulFree
  unfold signText
  simp only [List.mem_append, not_or]
  exact ⟨⟨⟨⟨hcode, (signMid id).nulFree⟩, hcode⟩, id.nulFree⟩, hcode⟩

/-- Messages are the same exactly if the first 63 characters of the renderings are. -/
theorem md5Message_eq_iff :
    md5Message a = md5Message b ↔ (signText a).take 63 = (signText b).take 63 := by
  have hread : ∀ id, (CStr.read (md5Message id)).bytes = (signText id).take 63 := by
    intro id
    have hlen : ((signText id).take 63).length ≤ 63 := List.length_take_le _ _
    have hfree : 0 ∉ (signText id).take 63 := fun h => signText_nulFree id (List.mem_of_mem_take h)
    obtain ⟨k, hk⟩ : ∃ k, 64 - ((signText id).take 63).length = k + 1 :=
      ⟨63 - ((signText id).take 63).length, by omega⟩
    rw [md5Message_eq, store_zero, List.drop_replicate, hk, List.replicate_succ, read_append_zero,
      read_of_nulFree hfree]
  constructor
  · intro h
    rw [← hread a, ← hread b, h]
  · intro h
    rw [md5Message_eq, md5Message_eq, h]

/-- The second half is empty exactly if the code is that of a NUL. -/
theorem headD_eq_zero_iff (m : CStr) : m.bytes.headD 0 = 0 ↔ m.bytes = [] := by
  obtain ⟨bs, hbs⟩ := m
  cases bs with
  | nil => exact iff_of_true rfl rfl
  | cons c bs =>
    have hc : c ≠ 0 := fun h => hbs (h ▸ List.mem_cons_self ..)
    exact iff_of_false hc (List.cons_ne_nil _ _)

/-- The code is what the rendering begins with. -/
theorem signText_cons (id : CStr) :
    ∃ t, signText id = signCode id ++ ((signMid id).bytes ++ t) := by
  refine ⟨signCode id ++ (id.bytes ++ signCode id), ?_⟩
  unfold signText
  simp only [List.append_assoc]

/-- Ids with the same rendering have the same code. -/
theorem signCode_eq (h : signText a = signText b) : signCode a = signCode b := by
  obtain ⟨t, ht⟩ := signText_cons a
  obtain ⟨t', ht'⟩ := signText_cons b
  rw [ht, ht'] at h
  have hhead := congrArg List.head? h
  unfold signCode at h hhead ⊢
  rw [head?_charCode_append, head?_charCode_append] at hhead
  have hzero : (signMid a).bytes.headD 0 = 0 ↔ (signMid b).bytes.headD 0 = 0 := by
    rw [← (codeFacts _).zero, ← (codeFacts _).zero, hhead]
  by_cases hempty : (signMid a).bytes.headD 0 = 0
  · rw [hempty, hzero.1 hempty]
  · have hcons : ∀ m : CStr, m.bytes.headD 0 ≠ 0 →
        ∀ t, ∃ u, m.bytes ++ t = m.bytes.headD 0 :: u := by
      intro m hm t
      obtain ⟨c, bs, hbs⟩ := List.exists_cons_of_ne_nil (fun h => hm ((headD_eq_zero_iff m).2 h))
      exact ⟨bs ++ t, by rw [hbs]; rfl⟩
    obtain ⟨u, hu⟩ := hcons _ hempty t
    obtain ⟨v, hv⟩ := hcons _ (fun h => hempty (hzero.2 h)) t'
    rw [hu, hv] at h
    exact charCode_eq h

/-- **Different ids have different renderings.** -/
theorem signText_inj (ha : a.bytes ≠ []) (hb : b.bytes ≠ []) (h : signText a = signText b) :
    a = b := by
  have hcode := signCode_eq h
  have hlen := congrArg List.length h
  have hpos : 0 < a.length ∧ 0 < b.length :=
    ⟨List.length_pos_of_ne_nil ha, List.length_pos_of_ne_nil hb⟩
  rw [length_signText, length_signText, signLength, signLength, hcode, length_signMid,
    length_signMid] at hlen
  have hsame : a.length = b.length := by omega
  have hmid : (signMid a).bytes.length = (signMid b).bytes.length := by
    show (signMid a).length = (signMid b).length
    rw [length_signMid, length_signMid, hsame]
  unfold signText at h
  rw [hcode] at h
  have hfront := List.append_cancel_right h
  have hid := List.append_inj_right hfront (by simp only [List.length_append, hmid])
  exact CStr.ext hid

/-! ## The cut -/

/-- A rendering that fits with room to spare is not the beginning of another one. -/
theorem md5Message_inj (ha : a.bytes ≠ []) (hb : b.bytes ≠ []) (hfit : signLength a ≤ 62)
    (h : md5Message b = md5Message a) : b = a := by
  rw [md5Message_eq_iff] at h
  have hlena := length_signText a
  have htake : (signText a).take 63 = signText a := List.take_of_length_le (by omega)
  rw [htake] at h
  have hlen := congrArg List.length h
  rw [List.length_take] at hlen
  rw [List.take_of_length_le (by omega)] at h
  exact signText_inj hb ha h

/-- Every text is the second half of some id other than `a`. -/
theorem exists_signMid (a q : CStr) : ∃ b : CStr, b.bytes ≠ [] ∧ b ≠ a ∧ signMid b = q := by
  let c : UInt8 := if a.bytes.head? = some 1 then 2 else 1
  have hc : c ≠ 0 ∧ a.bytes.head? ≠ some c := by
    by_cases h1 : a.bytes.head? = some 1
    · simp [c, h1]
    · simp [c, h1]
  have hfree : 0 ∉ List.replicate (q.length + 1) c ++ q.bytes := by
    rw [List.mem_append]
    rintro (h | h)
    · exact hc.1 (List.eq_of_mem_replicate h).symm
    · exact q.nulFree h
  refine ⟨⟨List.replicate (q.length + 1) c ++ q.bytes, hfree⟩, by simp, ?_, ?_⟩
  · intro hba
    apply hc.2
    rw [← hba]
    rfl
  · have hlen : (List.replicate (q.length + 1) c ++ q.bytes).length = 2 * q.length + 1 := by
      rw [List.length_append, List.length_replicate, CStr.length]
      omega
    apply CStr.ext
    show (List.replicate (q.length + 1) c ++ q.bytes).drop
      ((List.replicate (q.length + 1) c ++ q.bytes).length / 2 + 1) = q.bytes
    rw [hlen, show (2 * q.length + 1) / 2 + 1 = q.length + 1 by omega]
    exact List.drop_left' List.length_replicate

/-- **An id whose rendering is cut** shares its message with another id: one whose second
half is what follows the first code, as far as that is hashed. -/
theorem exists_collision (hcut : 63 ≤ signLength a) :
    ∃ b : CStr, b.bytes ≠ [] ∧ b ≠ a ∧ md5Message b = md5Message a := by
  have hcode : (signCode a).length ≤ 4 := (codeFacts _).length_le
  have hmidne : (signMid a).bytes ≠ [] := by
    intro hnil
    have hlen : (signMid a).length = 0 := congrArg List.length hnil
    have hmid := length_signMid a
    unfold signLength at hcut
    omega
  obtain ⟨t, ht⟩ := signText_cons a
  have hfree : 0 ∉ ((signMid a).bytes ++ t).take (63 - (signCode a).length) := by
    intro h
    apply signText_nulFree a
    rw [ht]
    exact List.mem_append_right _ (List.mem_of_mem_take h)
  obtain ⟨b, hb, hne, hmid⟩ := exists_signMid a ⟨_, hfree⟩
  have hmidb : (signMid b).bytes = ((signMid a).bytes ++ t).take (63 - (signCode a).length) := by
    rw [hmid]
  have hbcode : signCode b = signCode a := by
    obtain ⟨m, ms, hms⟩ := List.exists_cons_of_ne_nil hmidne
    obtain ⟨k, hk⟩ : ∃ k, 63 - (signCode a).length = k + 1 :=
      ⟨62 - (signCode a).length, by omega⟩
    rw [hk, hms, List.cons_append, List.take_succ_cons] at hmidb
    unfold signCode
    rw [hmidb, hms]
    rfl
  refine ⟨b, hb, hne, ?_⟩
  obtain ⟨t', ht'⟩ := signText_cons b
  have htake : ∀ x,
      (signCode a ++ x).take 63 = signCode a ++ x.take (63 - (signCode a).length) := by
    intro x
    rw [List.take_append, List.take_of_length_le (by omega)]
  have hlen : (signMid b).bytes.length = 63 - (signCode a).length := by
    have htext := length_signText a
    rw [ht, List.length_append] at htext
    rw [hmidb, List.length_take]
    omega
  rw [md5Message_eq_iff, ht, ht', hbcode, htake, htake, List.take_left' hlen, hmidb]

/-- **When the signature covers what it signs**: no other id has the message of `a`, exactly
if the rendering of `a` has at most 62 characters. -/
theorem md5Message_unique_iff (ha : a.bytes ≠ []) :
    (∀ b : CStr, b.bytes ≠ [] → b ≠ a → md5Message b ≠ md5Message a) ↔ signLength a ≤ 62 := by
  constructor
  · intro h
    by_contra hn
    obtain ⟨b, hb, hne, heq⟩ := exists_collision (a := a) (by omega)
    exact h b hb hne heq
  · intro hfit b hb hne heq
    exact hne (md5Message_inj ha hb hfit heq)

end Rendering

/-- An id to which the law applies: the address of a network interface. -/
theorem md5Message_unique_mac :
    md5Message (CStr.lit "001122AABBCD") ≠ md5Message (CStr.lit "001122AABBCC") :=
  (md5Message_unique_iff (by decide)).2 (by decide +kernel) _ (by decide) (by decide)

/-- An account, a username and a password of 130 characters together, with the last
character of the password as given. -/
def longCredentials (c : UInt8) (hc : c ≠ 0) : CStr where
  bytes := List.replicate 129 97 ++ [c]
  nulFree := by
    rw [List.mem_append, List.mem_singleton]
    rintro (h | h)
    · cases List.eq_of_mem_replicate h
    · exact hc h.symm

/-- Two passwords that differ in their last character are hashed in the same message. -/
theorem md5Message_collision :
    ¬ ∀ a b : CStr, a.bytes ≠ [] → b.bytes ≠ [] → a ≠ b → md5Message a ≠ md5Message b := by
  intro hall
  have hne : longCredentials 97 (by decide) ≠ longCredentials 98 (by decide) := by decide +kernel
  exact hall _ _ (by decide) (by decide) hne (by decide +kernel)

end SwCloud
