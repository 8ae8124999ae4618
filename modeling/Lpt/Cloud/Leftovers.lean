import Lpt.Base.Numbers
import Lpt.Cloud.Control
import Lpt.Cloud.Framing

/-!
# What earlier packets leave in the buffer

The buffer of `network_device_control` is not initialised, and the content of a packet need not
end with a NUL.  Then the content goes on with what lies in the buffer behind the packet.

* `Settled` — the contents without a NUL that decide by themselves what is done.
* `settled_iff` — no bytes behind such a content make a difference, and behind any other
  content some bytes do.
* `ownBytes_iff` — which packets are judged by their own bytes.
-/

namespace SwCloud

open CLib Effect

variable {P : CldProtocol}

/-! ## Orders told apart -/

section Heads

variable {route : List UInt8} {o : Order}

theorem head_cloudSendPacket (cmd : ℕ) (t : CStr) (flags : ℕ) (res : List UInt8) :
    ∃ o, (cloudSendPacket (P := P) cmd t flags res).head = some o ∧
      (o = .logTooLarge cmd ∨ ∃ n, o = .stack n) := by
  unfold cloudSendPacket
  by_cases hbig : P.cldMaxPktsize ≤ P.sizeofCldhdr + t.length
  · rw [if_pos hbig]
    exact ⟨.logTooLarge cmd, rfl, Or.inl rfl⟩
  · rw [if_neg hbig]
    exact ⟨.stack _, rfl, Or.inr ⟨_, rfl⟩⟩

theorem head_respond (route answer : List UInt8) :
    ∃ o, (respond (P := P) route answer).head = some o ∧
      (o = .logTooLarge P.cldcmdDevctl ∨ ∃ n, o = .stack n) := by
  obtain ⟨o, ho, h⟩ := head_cloudSendPacket (P := P) P.cldcmdDevctl (CStr.read (route ++ answer))
    P.pktflgResponse []
  exact ⟨o, Prog.head_bind ho _, h⟩

/-- Every order but the empty one does something. -/
theorem Order.head_serve (h : o ≠ .ignored) : (o.serve (P := P) route).head ≠ none := by
  cases o with
  | echo t =>
    obtain ⟨o, ho, -⟩ := head_respond (P := P) route t
    show (respond route t).head ≠ none
    rw [ho]
    exact Option.some_ne_none o
  | rename name =>
    intro h
    cases h
  | unbind =>
    obtain ⟨o, ho, -⟩ := head_cloudSendPacket (P := P) P.cldcmdUbindev
      ((CStr.lit "").take (P.cldMaxPktsize - 1)) 0
      (textBuf P ((CStr.lit "").take (P.cldMaxPktsize - 1)))
    have hreq : (cloudDoUbind (P := P)).head = some o := Prog.head_bind ho _
    unfold Order.serve
    rw [Prog.head_bind hreq]
    exact Option.some_ne_none o
  | getResolution =>
    intro h
    cases h
  | resolution size =>
    cases size with
    | none =>
      obtain ⟨o, ho, -⟩ := head_respond (P := P) route (text "ER\n")
      show (respond route (text "ER\n")).head ≠ none
      rw [ho]
      exact Option.some_ne_none o
    | some size =>
      intro h
      cases h
  | ignored => exact absurd rfl h

theorem serve_ne_ignored {route' : List UInt8} (h : o ≠ .ignored) :
    o.serve (P := P) route ≠ Order.ignored.serve route' := by
  intro heq
  have hhead : (o.serve (P := P) route).head = none := by
    rw [heq]
    rfl
  exact Order.head_serve h hhead

theorem rename_inj {n₁ n₂ : List UInt8}
    (h : (Order.rename n₁).serve (P := P) route = (Order.rename n₂).serve route) :
    CStr.read n₁ = CStr.read n₂ := by
  have hhead := congrArg Prog.head h
  exact Op.swSystemSetProductName.inj (Option.some.inj hhead)

theorem resolution_inj {s₁ s₂ : ℤ × ℤ}
    (h : (Order.resolution (some s₁)).serve (P := P) route =
      (Order.resolution (some s₂)).serve route) : s₁ = s₂ := by
  have hhead := congrArg Prog.head h
  obtain ⟨hw, hh⟩ := Op.swVideoCtrlSetResolution.inj (Option.some.inj hhead)
  exact Prod.ext hw hh

theorem resolution_none_ne {size : ℤ × ℤ} :
    (Order.resolution none).serve (P := P) route ≠
      (Order.resolution (some size)).serve route := by
  intro h
  obtain ⟨o, ho, hkind⟩ := head_respond (P := P) route (text "ER\n")
  have hhead := congrArg Prog.head h
  have hsome : some o = some (.swVideoCtrlSetResolution size.1 size.2) := ho.symm.trans hhead
  obtain rfl := Option.some.inj hsome
  rcases hkind with hkind | ⟨n, hkind⟩
  · cases hkind
  · cases hkind

/-- A response that fits can be written, at least as far as the connection allows. -/
theorem exists_respond {answer : List UInt8} (w : World P)
    (hfits : P.sizeofCldhdr + (CStr.read (route ++ answer)).length < P.cldMaxPktsize) :
    ∃ r w', Runs (respond route answer) w r w' := by
  let t := CStr.read (route ++ answer)
  let past : List UInt8 := List.replicate (P.sizeofCldhdr + padded t.length - P.cldMaxPktsize) 0
  refine ⟨-1, w.log (.wrote w.cloud.fd (packetHdr P P.cldcmdDevctl P.pktflgResponse t)
    (packetPayload P t past) (-1)), ?_⟩
  unfold respond sendText
  rw [runs_bind]
  refine ⟨(-1, []), _, ?_, runs_pure.2 ⟨rfl, rfl⟩⟩
  unfold cloudSendPacket
  rw [if_neg (not_le.2 hfits)]
  simp only [runs_bind, runs_stack, runs_getCloud]
  refine ⟨past, w, ⟨List.length_replicate, rfl⟩, _, w, ⟨rfl, rfl⟩, -1, _,
    runs_tcpWritePacket_failed _ _ _, ?_⟩
  rw [if_pos (by decide)]
  exact runs_pure.2 ⟨rfl, rfl⟩

/-- Different answers behind the same route are different responses. -/
theorem respond_inj {t₁ t₂ : List UInt8} (hr : 0 ∉ route) (h₁ : 0 ∉ t₁) (h₂ : 0 ∉ t₂)
    (hf₁ : P.sizeofCldhdr + (route.length + t₁.length) < P.cldMaxPktsize)
    (hf₂ : P.sizeofCldhdr + (route.length + t₂.length) < P.cldMaxPktsize)
    (h : respond (P := P) route t₁ = respond route t₂) : t₁ = t₂ := by
  have hlen : (CStr.read (route ++ t₁)).length = route.length + t₁.length := by
    unfold CStr.length
    rw [read_of_nulFree fun h => (List.mem_append.1 h).elim hr h₁, List.length_append]
  rw [← hlen] at hf₁
  obtain ⟨r, w', hrun⟩ := exists_respond (onlineWorld P) hf₁
  rw [hlen] at hf₁
  obtain ⟨es, htr, hes⟩ := respond_replies hrun hr h₁ hf₁
  obtain ⟨es', htr', hes'⟩ := respond_replies (h ▸ hrun) hr h₂ hf₂
  have heq : es = es' := List.append_cancel_right (htr.symm.trans htr')
  rw [heq, hes'] at hes
  have happ : route ++ t₂ = route ++ t₁ := (Prod.mk.inj (List.cons.inj hes).1).2
  exact (List.append_cancel_left happ).symm

end Heads

/-! ## Contents that decide by themselves -/

/-- The arguments of `RESOLUTION` that at most `room` more bytes cannot change. -/
inductive NumbersSettled (room : ℕ) : List UInt8 → Prop
  /-- There is no room for a width, its line feed and a height. -/
  | blank {k : ℕ} : room ≤ 2 → NumbersSettled room (List.replicate k 10)
  /-- There is no room for the line feed of the width and a height. -/
  | width {k : ℕ} {a : List UInt8} : a ≠ [] → 10 ∉ a → room ≤ 1 →
      NumbersSettled room (List.replicate k 10 ++ a)
  /-- The height has no line feed, and a character that is no digit behind its digits; or it
  is a number that reads like one that is too large, and is too large with a digit more. -/
  | height {k l : ℕ} {a b : List UInt8} : a ≠ [] → 10 ∉ a → b ≠ [] → 10 ∉ b →
      NumberEnded b ∨ Saturated b →
      NumbersSettled room (List.replicate k 10 ++ (a ++ 10 :: (List.replicate l 10 ++ b)))
  /-- Both lines have their line feeds. -/
  | both {k l : ℕ} {a b rest : List UInt8} : a ≠ [] → 10 ∉ a → b ≠ [] → 10 ∉ b →
      NumbersSettled room
        (List.replicate k 10 ++ (a ++ 10 :: (List.replicate l 10 ++ (b ++ 10 :: rest))))

/-- The room for a content in the buffer. -/
def contentRoom (P : CldProtocol) : ℕ := P.cldMaxPktsize - contentOff P

/-- The contents without a NUL that the bytes behind them in the buffer cannot change. -/
inductive Settled (P : CldProtocol) (route : List UInt8) : List UInt8 → Prop
  /-- There are no bytes behind it. -/
  | full {q : List UInt8} : contentRoom P ≤ q.length → Settled P route q
  /-- It has no command, and there is no room to complete one. -/
  | ignored {q : List UInt8} : (∀ tag ∈ controlTags, ¬ tag <+: q) →
      (∀ tag ∈ controlTags, q <+: tag → contentRoom P < tag.length) → Settled P route q
  /-- What is echoed is not seen behind the route. -/
  | echo {t : List UInt8} : 0 ∈ route → Settled P route (text "ECHO\n" ++ t)
  /-- The line of the name has its line feed. -/
  | rename {k : ℕ} {a rest : List UInt8} : a ≠ [] → 10 ∉ a →
      Settled P route (text "RENAME\n" ++ (List.replicate k 10 ++ (a ++ 10 :: rest)))
  | unbind (t : List UInt8) : Settled P route (text "UNBIND\n" ++ t)
  | getResolution (t : List UInt8) : Settled P route (text "GET_RESOLUTION\n" ++ t)
  | resolution {u : List UInt8} :
      NumbersSettled (contentRoom P - (text "RESOLUTION\n" ++ u).length) u →
      Settled P route (text "RESOLUTION\n" ++ u)

section Settling

variable {route q u x a b rest : List UInt8} {k l room : ℕ}

theorem resolutionOf_blank (k : ℕ) : resolutionOf (List.replicate k 10) = none := by
  unfold resolutionOf
  rw [nextToken_blank]
  rfl

theorem resolutionOf_last (k : ℕ) (ha : a ≠ []) (hs : 10 ∉ a) :
    resolutionOf (List.replicate k 10 ++ a) = none := by
  unfold resolutionOf
  rw [nextToken_last k ha hs]
  rfl

theorem resolutionOf_ended (k : ℕ) (rest : List UInt8) (ha : a ≠ []) (hs : 10 ∉ a) :
    resolutionOf (List.replicate k 10 ++ (a ++ 10 :: rest)) =
      (nextToken 10 rest).map fun height => (atoi (CStr.read a), atoi (CStr.read height.1)) := by
  unfold resolutionOf
  rw [nextToken_ended k rest ha hs]
  rfl

theorem resolutionOf_ended_append (k : ℕ) (rest x : List UInt8) (ha : a ≠ []) (hs : 10 ∉ a) :
    resolutionOf (List.replicate k 10 ++ (a ++ 10 :: rest) ++ x) =
      (nextToken 10 (rest ++ x)).map
        fun height => (atoi (CStr.read a), atoi (CStr.read height.1)) := by
  rw [List.append_assoc, List.append_assoc, List.cons_append, resolutionOf_ended k _ ha hs]

/-- A text without a line feed ends where the bytes behind it have one. -/
theorem nextToken_append_line (k : ℕ) (ha : a ≠ []) (hs : 10 ∉ a) (x : List UInt8) :
    nextToken 10 (List.replicate k 10 ++ (a ++ x)) =
      some (a ++ x.takeWhile (· != 10), (x.dropWhile (· != 10)).drop 1) := by
  have hline : 10 ∉ a ++ x.takeWhile (· != 10) := by
    rw [List.mem_append]
    rintro (h | h)
    · exact hs h
    · simpa using List.mem_takeWhile_imp h
  have hhead : (x.dropWhile (· != 10)).head? = none ∨ (x.dropWhile (· != 10)).head? = some 10 := by
    cases hx : x.dropWhile (· != 10) with
    | nil => exact Or.inl rfl
    | cons c y =>
      have hc := List.head?_dropWhile_not (· != 10) x
      rw [hx] at hc
      exact Or.inr (by simpa using hc)
  rw [← nextToken_append k (List.append_ne_nil_of_left_ne_nil ha _) hline hhead, List.append_assoc,
    List.takeWhile_append_dropWhile]

/-- Two bytes have no room for two lines. -/
theorem resolutionOf_short (k : ℕ) (hx : x.length ≤ 2) :
    resolutionOf (List.replicate k 10 ++ x) = none := by
  cases front 10 x with
  | blank j =>
    rw [← List.replicate_add]
    exact resolutionOf_blank (k + j)
  | last j ha hs =>
    rw [← List.append_assoc, ← List.replicate_add]
    exact resolutionOf_last (k + j) ha hs
  | @ended j a rest ha hs =>
    have hpos := List.length_pos_iff.2 ha
    have hnil : rest = [] := by
      apply List.eq_nil_of_length_eq_zero
      simp only [List.length_append, List.length_cons] at hx
      omega
    rw [← List.append_assoc, ← List.replicate_add, resolutionOf_ended (k + j) rest ha hs, hnil]
    rfl

/-- Some bytes behind the arguments change nothing. -/
theorem NumbersSettled.resolutionOf_append (h : NumbersSettled room u) (h0 : 0 ∉ u) (hx0 : 0 ∉ x)
    (hx : x.length ≤ room) : resolutionOf (u ++ x) = resolutionOf u := by
  cases h with
  | @blank k hroom =>
    rw [resolutionOf_blank, resolutionOf_short k (hx.trans hroom)]
  | @width k a ha hs hroom =>
    have hnil : (x.dropWhile (· != 10)).drop 1 = [] := by
      have hle := (List.dropWhile_sublist (· != 10) (l := x)).length_le
      apply List.drop_eq_nil_of_le
      omega
    rw [resolutionOf_last k ha hs, List.append_assoc, resolutionOf,
      nextToken_append_line k ha hs, hnil]
    rfl
  | @height k l a b ha hs hb hs' hfixed =>
    have hb0 : 0 ∉ b := fun h => h0 (by simp [h])
    have hline : 0 ∉ x.takeWhile (· != 10) := fun h => hx0 (List.takeWhile_subset _ h)
    have hatoi : atoi (CStr.read (b ++ x.takeWhile (· != 10))) = atoi (CStr.read b) := by
      rcases hfixed with hended | hlarge
      · exact atoi_append hended hb0 hline
      · exact hlarge.atoi_append hb0 hline
    rw [resolutionOf_ended_append k _ x ha hs, resolutionOf_ended k _ ha hs, List.append_assoc,
      nextToken_append_line l hb hs', nextToken_last l hb hs', Option.map_some, Option.map_some,
      hatoi]
  | @both k l a b rest ha hs hb hs' =>
    rw [resolutionOf_ended_append k _ x ha hs, resolutionOf_ended k _ ha hs, List.append_assoc,
      List.append_assoc, List.cons_append, nextToken_ended l _ hb hs', nextToken_ended l _ hb hs']
    rfl

/-- **What a settled content orders** does not depend on the bytes behind it. -/
theorem Settled.serve_eq (h : Settled P route q) (h0 : 0 ∉ q) (hx0 : 0 ∉ x)
    (hx : x.length ≤ contentRoom P - q.length) :
    ((orderOf (q ++ x)).serve route : CloudM P ℤ) = (orderOf q).serve route := by
  cases h with
  | full hfull =>
    have hnil : x = [] := List.eq_nil_of_length_eq_zero (by omega)
    rw [hnil, List.append_nil]
  | ignored hno hshort =>
    have hno' : ∀ tag ∈ controlTags, ¬ tag <+: q ++ x := by
      intro tag htag hpre
      rcases List.prefix_or_prefix_of_prefix hpre (List.prefix_append q x) with hq | hq
      · exact hno tag htag hq
      · have hlt := hshort tag htag hq
        have hle := hpre.length_le
        rw [List.length_append] at hle
        by_cases hroom : q.length ≤ contentRoom P
        · omega
        · have hnil : x = [] := List.eq_nil_of_length_eq_zero (by omega)
          rw [hnil, List.append_nil] at hpre
          exact hno tag htag hpre
    rw [orderOf_eq_ignored hno, orderOf_eq_ignored hno']
  | @echo t hroute =>
    rw [List.append_assoc]
    show respond route (t ++ x) = respond route t
    unfold respond
    rw [read_append_of_mem hroute, read_append_of_mem hroute]
  | @rename k a rest ha hs =>
    have hname : upToToken 10 (List.replicate k 10 ++ (a ++ 10 :: rest) ++ x) =
        upToToken 10 (List.replicate k 10 ++ (a ++ 10 :: rest)) := by
      rw [List.append_assoc, List.append_assoc, List.cons_append, upToToken_ended k _ ha hs,
        upToToken_ended k _ ha hs]
    rw [List.append_assoc]
    exact congrArg (fun name => Order.serve route (.rename name)) hname
  | unbind t =>
    rw [List.append_assoc]
    rfl
  | getResolution t =>
    rw [List.append_assoc]
    rfl
  | @resolution u hu =>
    have h0' : 0 ∉ u := fun h => h0 (List.mem_append_right _ h)
    rw [List.append_assoc]
    show Order.serve route (.resolution (resolutionOf (u ++ x))) =
      Order.serve route (.resolution (resolutionOf u))
    rw [hu.resolutionOf_append h0' hx0 hx]

/-- The bytes behind a content make no difference, as many of them as there is room for.
Behind an empty content the route may be anything. -/
def Steady (P : CldProtocol) (route q : List UInt8) : Prop :=
  ∀ x₁ x₂ : List UInt8, 0 ∉ x₁ → 0 ∉ x₂ → x₁.length ≤ contentRoom P - q.length →
    x₂.length ≤ contentRoom P - q.length → ∃ route₁ route₂,
      (q ≠ [] → route₁ = route ∧ route₂ = route) ∧
        ((orderOf (q ++ x₁)).serve route₁ : CloudM P ℤ) = (orderOf (q ++ x₂)).serve route₂

theorem controlTags_spec : ∀ tag ∈ controlTags, tag ≠ [] ∧ 0 ∉ tag ∧ orderOf tag ≠ .ignored := by
  decide

/-- Behind a command, the route is the packet's own. -/
theorem Steady.serve_eq {tag t : List UInt8} (h : Steady P route (tag ++ t)) (htag : tag ≠ [])
    (x₁ x₂ : List UInt8) (h₁ : 0 ∉ x₁) (h₂ : 0 ∉ x₂)
    (hx₁ : x₁.length ≤ contentRoom P - (tag ++ t).length)
    (hx₂ : x₂.length ≤ contentRoom P - (tag ++ t).length) :
    ((orderOf (tag ++ (t ++ x₁))).serve route : CloudM P ℤ) =
      (orderOf (tag ++ (t ++ x₂))).serve route := by
  obtain ⟨route₁, route₂, hroute, heq⟩ := h x₁ x₂ h₁ h₂ hx₁ hx₂
  obtain ⟨rfl, rfl⟩ := hroute (List.append_ne_nil_of_left_ne_nil htag t)
  rwa [List.append_assoc, List.append_assoc] at heq

theorem Steady.zero_mem_route {t : List UInt8} (h : Steady P route (text "ECHO\n" ++ t))
    (h0 : 0 ∉ t) (hlen : route.length ≤ P.cldRtsize + 1)
    (hroom : (text "ECHO\n" ++ t).length < contentRoom P) : 0 ∈ route := by
  by_contra hr
  have heq : respond (P := P) route (t ++ []) = respond route (t ++ [1]) :=
    h.serve_eq (by decide) [] [1] (by decide) (by decide) (Nat.zero_le _) (Nat.sub_pos_of_lt hroom)
  have htag : (text "ECHO\n").length = 5 := rfl
  unfold contentRoom contentOff at hroom
  rw [List.length_append] at hroom
  rw [List.append_nil] at heq
  have hsame : t = t ++ [1] := by
    apply respond_inj hr h0 (by simp [h0]) _ _ heq
    · omega
    · rw [List.length_append, List.length_singleton]
      omega
  simp at hsame

theorem Steady.exists_name {t : List UInt8} (h : Steady P route (text "RENAME\n" ++ t))
    (h0 : 0 ∉ t) (hroom : (text "RENAME\n" ++ t).length < contentRoom P) :
    ∃ k a rest, a ≠ [] ∧ 10 ∉ a ∧ t = List.replicate k 10 ++ (a ++ 10 :: rest) := by
  have heq : (Order.rename (upToToken 10 (t ++ []))).serve (P := P) route =
      (Order.rename (upToToken 10 (t ++ [1]))).serve route :=
    h.serve_eq (by decide) [] [1] (by decide) (by decide) (Nat.zero_le _) (Nat.sub_pos_of_lt hroom)
  have hbytes := congrArg CStr.bytes (rename_inj heq)
  rw [List.append_nil] at hbytes
  cases front 10 t with
  | blank k =>
    rw [upToToken_blank, upToToken_last k (by decide) (by decide), read_of_nulFree h0,
      read_of_nulFree (by simp)] at hbytes
    simp at hbytes
  | @last k a ha hs =>
    rw [upToToken_last k ha hs, List.append_assoc, upToToken_last k (by simp) (by simpa using hs),
      read_of_nulFree h0, read_of_nulFree (by simpa using h0)] at hbytes
    simp at hbytes
  | ended k rest ha hs => exact ⟨k, _, rest, ha, hs, rfl⟩

theorem Steady.numbersSettled (h : Steady P route (text "RESOLUTION\n" ++ u)) (h0 : 0 ∉ u)
    (hroom : (text "RESOLUTION\n" ++ u).length < contentRoom P) :
    NumbersSettled (contentRoom P - (text "RESOLUTION\n" ++ u).length) u := by
  have hserve : ∀ x₁ x₂ : List UInt8, 0 ∉ x₁ → 0 ∉ x₂ →
      x₁.length ≤ contentRoom P - (text "RESOLUTION\n" ++ u).length →
      x₂.length ≤ contentRoom P - (text "RESOLUTION\n" ++ u).length →
      (Order.resolution (resolutionOf (u ++ x₁))).serve (P := P) route =
        (Order.resolution (resolutionOf (u ++ x₂))).serve route := h.serve_eq (by decide)
  -- a height that some bytes complete is an answer that some bytes change
  have hmore : ∀ x : List UInt8, 0 ∉ x → resolutionOf u = none → (resolutionOf (u ++ x)).isSome →
      contentRoom P - (text "RESOLUTION\n" ++ u).length < x.length := by
    intro x hx hnone hsome
    by_contra hle
    have heq := hserve [] x (by decide) hx (Nat.zero_le _) (not_lt.1 hle)
    obtain ⟨size, hsize⟩ := Option.isSome_iff_exists.1 hsome
    rw [List.append_nil, hnone, hsize] at heq
    exact resolution_none_ne heq
  have hpos := Nat.sub_pos_of_lt hroom
  generalize contentRoom P - (text "RESOLUTION\n" ++ u).length = room at *
  cases front 10 u with
  | blank k =>
    have hsome : (resolutionOf (List.replicate k 10 ++ ([49] ++ 10 :: [49]))).isSome := by
      rw [resolutionOf_ended k [49] (by decide) (by decide)]
      rfl
    exact .blank (Nat.le_of_lt_succ (hmore _ (by decide) (resolutionOf_blank k) hsome))
  | @last k a ha hs =>
    have hsome : (resolutionOf (List.replicate k 10 ++ a ++ 10 :: [49])).isSome := by
      rw [List.append_assoc, resolutionOf_ended k [49] ha hs]
      rfl
    exact .width ha hs (Nat.le_of_lt_succ (hmore _ (by decide) (resolutionOf_last k ha hs) hsome))
  | @ended k a rest ha hs =>
    cases front 10 rest with
    | blank l =>
      have hnone : resolutionOf (List.replicate k 10 ++ (a ++ 10 :: List.replicate l 10)) =
          none := by
        rw [resolutionOf_ended k _ ha hs, nextToken_blank]
        rfl
      have hsome : (resolutionOf
          (List.replicate k 10 ++ (a ++ 10 :: List.replicate l 10) ++ [49])).isSome := by
        rw [resolutionOf_ended_append k _ _ ha hs, nextToken_last l (by decide) (by decide)]
        rfl
      exact absurd (hmore _ (by decide) hnone hsome) (not_lt.2 hpos)
    | @last l b hb hs' =>
      by_cases hended : NumberEnded b
      · exact .height ha hs hb hs' (Or.inl hended)
      · have hsize : ∀ x : List UInt8, 10 ∉ x → resolutionOf
            (List.replicate k 10 ++ (a ++ 10 :: (List.replicate l 10 ++ b)) ++ x) =
              some (atoi (CStr.read a), atoi (CStr.read (b ++ x))) := by
          intro x hx
          rw [resolutionOf_ended_append k _ _ ha hs, List.append_assoc,
            nextToken_last l (by simp [hb]) (by simp [hs', hx])]
          rfl
        -- a digit behind the height leaves its value as it is
        have hdigit : ∀ d : UInt8, d ≠ 0 → d ≠ 10 →
            atoi (CStr.read (b ++ [d])) = atoi (CStr.read b) := by
          intro d hd0 hd
          have heq := hserve [d] [] (by simpa using hd0.symm) (by decide) hpos (Nat.zero_le _)
          rw [hsize [d] (by simpa using hd.symm), hsize [] (by decide), List.append_nil] at heq
          exact (Prod.mk.inj (resolution_inj heq)).2
        have hb0 : 0 ∉ b := fun h => h0 (by simp [h])
        exact .height ha hs hb hs' (Or.inr (saturated_of_append_digit hended hb0
          (hdigit 48 (by decide) (by decide)) (hdigit 49 (by decide) (by decide))))
    | ended l rest' hb hs' => exact .both ha hs hb hs'

/-- **The settled contents** are those the bytes behind them make no difference to. -/
theorem settled_iff (h0 : 0 ∉ q) (hlen : route.length ≤ P.cldRtsize + 1) :
    Settled P route q ↔ Steady P route q := by
  constructor
  · intro h x₁ x₂ h₁ h₂ hx₁ hx₂
    exact ⟨route, route, fun _ => ⟨rfl, rfl⟩,
      (h.serve_eq h0 h₁ hx₁).trans (h.serve_eq h0 h₂ hx₂).symm⟩
  · intro h
    by_cases hfull : contentRoom P ≤ q.length
    · exact .full hfull
    · have hroom := not_le.1 hfull
      by_cases htag : ∃ tag ∈ controlTags, tag <+: q
      · obtain ⟨tag, hmem, t, rfl⟩ := htag
        have h0' : 0 ∉ t := fun h => h0 (List.mem_append_right _ h)
        simp only [controlTags, List.mem_cons, List.not_mem_nil, or_false] at hmem
        rcases hmem with rfl | rfl | rfl | rfl | rfl
        · exact .echo (h.zero_mem_route h0' hlen hroom)
        · obtain ⟨k, a, rest, ha, hs, rfl⟩ := h.exists_name h0' hroom
          exact .rename ha hs
        · exact .unbind t
        · exact .getResolution t
        · exact .resolution (h.numbersSettled h0' hroom)
      · have hno : ∀ tag ∈ controlTags, ¬ tag <+: q := fun tag hmem hpre => htag ⟨tag, hmem, hpre⟩
        apply Settled.ignored hno
        -- the rest of a command would be one
        rintro tag hmem ⟨x, rfl⟩
        by_contra hle
        obtain ⟨-, htag0, hne⟩ := controlTags_spec _ hmem
        rw [List.length_append, not_lt] at hle
        obtain ⟨route₁, route₂, -, heq⟩ := h x [] (fun h => htag0 (List.mem_append_right _ h))
          (by decide) (by omega) (Nat.zero_le _)
        rw [List.append_nil, orderOf_eq_ignored hno] at heq
        exact serve_ne_ignored hne heq

/-- Without a content the route does not matter. -/
theorem Settled.congr_route {route' : List UInt8} (h : Settled P route q)
    (hroute : q ≠ [] → route' = route) : Settled P route' q := by
  by_cases hq : q = []
  · cases h with
    | full hfull => exact .full hfull
    | ignored hno hshort => exact .ignored hno hshort
    | echo _ => cases hq
    | rename _ _ => cases hq
    | unbind _ => cases hq
    | getResolution _ => cases hq
    | resolution _ => cases hq
  · rw [hroute hq]
    exact h

theorem orderOf_serve_congr {route' : List UInt8} (hroute : q ≠ [] → route' = route) :
    ((orderOf q).serve route' : CloudM P ℤ) = (orderOf q).serve route := by
  by_cases hq : q = []
  · rw [hq]
    rfl
  · rw [hroute hq]

end Settling

/-! ## In the buffer -/

/-- The packets whose payload decides by itself what is done: the content has a NUL, or is
settled. -/
def SelfContained (P : CldProtocol) (p : List UInt8) : Prop :=
  0 ∈ p.drop (P.cldRtsize + 1) ∨ Settled P (p.take (P.cldRtsize + 1)) (p.drop (P.cldRtsize + 1))

/-- A packet from this stream is served alike whatever was in the buffer before. -/
def OwnBytes (P : CldProtocol) (s : List UInt8) (es : List ReadEv) : Prop :=
  ∀ buf₁ buf₂ r₁ r₂, buf₁.length = P.cldMaxPktsize → buf₂.length = P.cldMaxPktsize →
    cloudRecvPacket P buf₁ s es = some r₁ → cloudRecvPacket P buf₂ s es = some r₂ →
      (serveControl r₁.mem : CloudM P ℤ) = serveControl r₂.mem

section Memory

variable {hd p buf s : List UInt8} {es : List ReadEv} {r : RecvResult}

/-- The content goes on with what was behind the packet. -/
theorem drop_contentOff (hhd : hd.length = P.sizeofCldhdr) (p buf : List UInt8) :
    (store buf 0 (hd ++ p)).drop (contentOff P) = p.drop (P.cldRtsize + 1) ++
      buf.drop (contentOff P + (p.drop (P.cldRtsize + 1)).length) := by
  have hoff : contentOff P = hd.length + (P.cldRtsize + 1) := by
    rw [hhd]
    rfl
  rw [store_zero, List.append_assoc, hoff, List.drop_length_add_append, List.drop_append,
    List.drop_drop, List.length_append, List.length_drop]
  congr 2
  omega

/-- Before a content that is not empty there is a whole route. -/
theorem drop_sizeofCldhdr (hhd : hd.length = P.sizeofCldhdr) (hp : p.drop (P.cldRtsize + 1) ≠ [])
    (buf : List UInt8) : ((store buf 0 (hd ++ p)).take (contentOff P)).drop P.sizeofCldhdr =
      p.take (P.cldRtsize + 1) := by
  have hlt : P.cldRtsize + 1 ≤ p.length := by
    by_contra hn
    exact hp (List.drop_eq_nil_of_le (by omega))
  rw [contentOff, add_assoc, List.drop_take, Nat.add_sub_cancel_left, store_zero, List.append_assoc,
    List.drop_left' hhd, List.take_append_of_le_length hlt]

/-- What is done about a packet, as a function of what was behind it. -/
theorem serveControl_store (hhd : hd.length = P.sizeofCldhdr)
    (h0 : 0 ∉ p.drop (P.cldRtsize + 1)) (buf : List UInt8) : ∃ route,
      (p.drop (P.cldRtsize + 1) ≠ [] → route = p.take (P.cldRtsize + 1)) ∧
        (serveControl (store buf 0 (hd ++ p)) : CloudM P ℤ) =
          (orderOf (p.drop (P.cldRtsize + 1) ++ (CStr.read
            (buf.drop (contentOff P + (p.drop (P.cldRtsize + 1)).length))).bytes)).serve route := by
  refine ⟨_, fun hp => drop_sizeofCldhdr hhd hp buf, ?_⟩
  rw [serveControl_eq, drop_contentOff hhd, read_append h0]

/-- Any bytes can be behind a packet, as many as there is room for. -/
theorem exists_buffer {off : ℕ} {x : List UInt8} (hx0 : 0 ∉ x)
    (hx : x.length ≤ P.cldMaxPktsize - off) :
    ∃ buf : List UInt8, buf.length = P.cldMaxPktsize ∧ (CStr.read (buf.drop off)).bytes = x := by
  refine ⟨(List.replicate off 0 ++ (x ++ List.replicate P.cldMaxPktsize 0)).take P.cldMaxPktsize,
    ?_, ?_⟩
  · rw [List.length_take, List.length_append, List.length_append, List.length_replicate,
      List.length_replicate]
    omega
  · rw [List.drop_take, List.drop_left' List.length_replicate, List.take_append,
      List.take_of_length_le hx, read_append hx0, List.take_replicate]
    cases min (P.cldMaxPktsize - off - x.length) P.cldMaxPktsize with
    | zero => exact List.append_nil x
    | succ n => exact List.append_nil x

/-- **Which packets are served by their own bytes.** -/
theorem serveControl_store_iff (hhd : hd.length = P.sizeofCldhdr) :
    (∀ buf₁ buf₂, buf₁.length = P.cldMaxPktsize → buf₂.length = P.cldMaxPktsize →
      (serveControl (store buf₁ 0 (hd ++ p)) : CloudM P ℤ) =
        serveControl (store buf₂ 0 (hd ++ p))) ↔ SelfContained P p := by
  unfold SelfContained
  by_cases h0 : 0 ∈ p.drop (P.cldRtsize + 1)
  · constructor
    · exact fun _ => Or.inl h0
    · intro _ buf₁ buf₂ _ _
      have hp := List.ne_nil_of_mem h0
      rw [serveControl_eq, serveControl_eq, drop_contentOff hhd, drop_contentOff hhd,
        read_append_of_mem h0, read_append_of_mem h0, drop_sizeofCldhdr hhd hp,
        drop_sizeofCldhdr hhd hp]
  · have hlen : (p.take (P.cldRtsize + 1)).length ≤ P.cldRtsize + 1 := List.length_take_le _ _
    have hroom : ∀ q : List UInt8, contentRoom P - q.length =
        P.cldMaxPktsize - (contentOff P + q.length) := fun q => Nat.sub_sub _ _ _
    rw [or_iff_right h0]
    constructor
    · intro h
      rw [settled_iff h0 hlen]
      intro x₁ x₂ h₁ h₂ hx₁ hx₂
      rw [hroom] at hx₁ hx₂
      obtain ⟨buf₁, hbuf₁, hread₁⟩ := exists_buffer h₁ hx₁
      obtain ⟨buf₂, hbuf₂, hread₂⟩ := exists_buffer h₂ hx₂
      obtain ⟨route₁, hroute₁, hserve₁⟩ := serveControl_store hhd h0 buf₁
      obtain ⟨route₂, hroute₂, hserve₂⟩ := serveControl_store hhd h0 buf₂
      rw [hread₁] at hserve₁
      rw [hread₂] at hserve₂
      refine ⟨route₁, route₂, fun hp => ⟨hroute₁ hp, hroute₂ hp⟩, ?_⟩
      rw [← hserve₁, ← hserve₂]
      exact h buf₁ buf₂ hbuf₁ hbuf₂
    · intro h
      have hown : ∀ buf : List UInt8, buf.length = P.cldMaxPktsize →
          (serveControl (store buf 0 (hd ++ p)) : CloudM P ℤ) =
            (orderOf (p.drop (P.cldRtsize + 1))).serve (p.take (P.cldRtsize + 1)) := by
        intro buf hbuf
        obtain ⟨route, hroute, hserve⟩ := serveControl_store hhd h0 buf
        have hle : (CStr.read (buf.drop
            (contentOff P + (p.drop (P.cldRtsize + 1)).length))).bytes.length ≤
              contentRoom P - (p.drop (P.cldRtsize + 1)).length := by
          rw [hroom, ← hbuf, ← List.length_drop]
          exact (List.takeWhile_sublist _).length_le
        rw [hserve, (h.congr_route hroute).serve_eq h0 (CStr.read _).nulFree hle]
        exact orderOf_serve_congr hroute
      intro buf₁ buf₂ hbuf₁ hbuf₂
      rw [hown buf₁ hbuf₁, hown buf₂ hbuf₂]

/-- A packet that is received is stored over what was in the buffer, whatever that was. -/
theorem cloudRecvPacket_store (h : cloudRecvPacket P buf s es = some r) (hpos : 0 < r.ret) :
    ∃ hd, hd.length = P.sizeofCldhdr ∧
      ∀ buf', ∃ r', cloudRecvPacket P buf' s es = some r' ∧
        r'.mem = store buf' 0 (hd ++ replyPayload P r.mem) := by
  cases cloudRecvPacket_iff.1 h with
  | noHeader _ _ => exact absurd hpos (show ¬ (0 : ℤ) < -1 by decide)
  | @payload r₁ r₂ h₁ hr₁ hlen h₂ =>
    have hheader : sizeBytes P (store (store buf 0 r₁.bytes) P.sizeofCldhdr r₂.bytes) =
        sizeBytes P r₁.bytes := by
      rw [sizeBytes_store hlen, store_zero, sizeBytes_append hlen]
    have hr₂ : r₂.ret = 0 := by
      by_contra hr₂
      rw [if_neg hr₂] at hpos
      exact absurd hpos (show ¬ (0 : ℤ) < -1 by decide)
    have hfull := (tcpRead_received (sizeBytes_range P r₁.bytes).1 h₂ hr₂).2
    have hp : replyPayload P (store (store buf 0 r₁.bytes) P.sizeofCldhdr r₂.bytes) =
        r₂.bytes := by
      rw [replyPayload, hheader, ← hfull, Int.toNat_natCast, store_store _ _ hlen,
        List.append_assoc, List.drop_left' hlen, List.take_left]
    rw [hp]
    refine ⟨r₁.bytes, hlen, ?_⟩
    intro buf'
    -- the call reads the same bytes whatever it stores them over
    refine ⟨_, cloudRecvPacket_iff.2 (.payload h₁ hr₁ hlen h₂), ?_⟩
    rw [store_store _ _ hlen, store_zero, List.length_append, hlen]

/-- **Which packets are judged by their own bytes**: of the packets that are received, exactly
the self-contained ones. -/
theorem ownBytes_iff (h : cloudRecvPacket P buf s es = some r) (hpos : 0 < r.ret) :
    OwnBytes P s es ↔ SelfContained P (replyPayload P r.mem) := by
  obtain ⟨hd, hhd, hall⟩ := cloudRecvPacket_store h hpos
  rw [← serveControl_store_iff hhd]
  constructor
  · intro hown buf₁ buf₂ hbuf₁ hbuf₂
    obtain ⟨r₁, hr₁, hmem₁⟩ := hall buf₁
    obtain ⟨r₂, hr₂, hmem₂⟩ := hall buf₂
    rw [← hmem₁, ← hmem₂]
    exact hown buf₁ buf₂ r₁ r₂ hbuf₁ hbuf₂ hr₁ hr₂
  · intro hall' buf₁ buf₂ r₁ r₂ hbuf₁ hbuf₂ hr₁ hr₂
    obtain ⟨r₁', hr₁', hmem₁⟩ := hall buf₁
    obtain ⟨r₂', hr₂', hmem₂⟩ := hall buf₂
    obtain rfl := Option.some.inj (hr₁.symm.trans hr₁')
    obtain rfl := Option.some.inj (hr₂.symm.trans hr₂')
    rw [hmem₁, hmem₂]
    exact hall' buf₁ buf₂ hbuf₁ hbuf₂

end Memory

/-- The packet that asks for an unbind, on the route `route`. -/
def unbindPacket : List UInt8 := sampleEnc ⟨77, 1, 6, 0, 3⟩ ++ text "routeUNBIND\n"

/-- The same packet, cut short. -/
def cutPacket : List UInt8 := sampleEnc ⟨77, 1, 6, 0, 2⟩ ++ text "routeUNB"

theorem ownBytes_unbindPacket : OwnBytes sampleProtocol unbindPacket [.data 8, .data 12] := by
  have hrecv : cloudRecvPacket sampleProtocol [] unbindPacket [.data 8, .data 12] =
      some ⟨20, unbindPacket, [], []⟩ := by decide +kernel
  have hp : replyPayload sampleProtocol unbindPacket = text "routeUNBIND\n" := by decide +kernel
  apply (ownBytes_iff hrecv (by decide)).2
  rw [hp]
  exact Or.inr (.unbind [])

/-- **A packet of eight bytes is an unbind** where a whole one was before, and nothing
elsewhere. -/
theorem cutPacket_unbinds : ∃ r₁ r₂,
    cloudRecvPacket sampleProtocol (List.replicate 64 0) cutPacket [.data 8, .data 8] = some r₁ ∧
    cloudRecvPacket sampleProtocol (unbindPacket ++ List.replicate 44 0) cutPacket
      [.data 8, .data 8] = some r₂ ∧
    (serveControl r₁.mem : CloudM sampleProtocol ℤ) = pure 0 ∧
    (serveControl r₂.mem : CloudM sampleProtocol ℤ) = Order.unbind.serve (text "route") ∧
    ¬ OwnBytes sampleProtocol cutPacket [.data 8, .data 8] := by
  have hrecv₁ : cloudRecvPacket sampleProtocol (List.replicate 64 0) cutPacket
      [.data 8, .data 8] = some ⟨16, cutPacket ++ List.replicate 48 0, [], []⟩ := by
    decide +kernel
  have hrecv₂ : cloudRecvPacket sampleProtocol (unbindPacket ++ List.replicate 44 0) cutPacket
      [.data 8, .data 8] =
        some ⟨16, cutPacket ++ (text "IND\n" ++ List.replicate 44 0), [], []⟩ := by
    decide +kernel
  have hserve₁ : (serveControl (cutPacket ++ List.replicate 48 0) : CloudM sampleProtocol ℤ) =
      Order.ignored.serve (text "route") := by
    have horder : orderOf (CStr.read ((cutPacket ++ List.replicate 48 0).drop
        (contentOff sampleProtocol))).bytes = .ignored := by decide +kernel
    rw [serveControl_eq, horder]
    rfl
  have hserve₂ : (serveControl (cutPacket ++ (text "IND\n" ++ List.replicate 44 0)) :
      CloudM sampleProtocol ℤ) = Order.unbind.serve (text "route") := by
    have horder : orderOf (CStr.read ((cutPacket ++ (text "IND\n" ++ List.replicate 44 0)).drop
        (contentOff sampleProtocol))).bytes = .unbind := by decide +kernel
    have hroute : ((cutPacket ++ (text "IND\n" ++ List.replicate 44 0)).take
        (contentOff sampleProtocol)).drop sampleProtocol.sizeofCldhdr = text "route" := by
      decide +kernel
    rw [serveControl_eq, horder, hroute]
  refine ⟨_, _, hrecv₁, hrecv₂, hserve₁, hserve₂, ?_⟩
  intro hown
  have heq := hown _ _ _ _ (by decide) (by decide +kernel) hrecv₁ hrecv₂
  rw [hserve₁, hserve₂] at heq
  exact serve_ne_ignored (by decide) heq.symm

end SwCloud
