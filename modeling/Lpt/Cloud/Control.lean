import Lpt.Base.Paths
import Lpt.Base.Tokens
import Lpt.Cloud.Device
import Lpt.Cloud.RequestBuffer

/-!
# What a control packet says

`network_device_control` looks up a command at a fixed offset of its buffer, takes its
arguments out of the buffer, in place, and puts the answer over the command, in place.  All
of this is a function of two strings: the route and the content.

* `Order` and `orderOf` — the commands with their arguments, and the order a content gives.
* `Order.serve` — what is done about an order, and the answer behind a route.
* `serveControl_eq` — the code on its buffer does what the order of its content says.
* `control_keeps_route` — the one response to a command has the route of its packet.
-/

namespace SwCloud

open CLib Effect

variable {P : CldProtocol}

/-! ## Orders -/

/-- A command, with its arguments. -/
inductive Order where
  /-- To send this text back. -/
  | echo (t : List UInt8)
  /-- To take this name: the first line that is not empty, with the line feeds before it. -/
  | rename (name : List UInt8)
  | unbind
  | getResolution
  /-- Width and height, if both are there. -/
  | resolution (size : Option (ℤ × ℤ))
  /-- No command at all. -/
  | ignored
  deriving DecidableEq

/-- The width and the height in the arguments of `RESOLUTION`. -/
def resolutionOf (u : List UInt8) : Option (ℤ × ℤ) :=
  (nextToken 10 u).bind fun width =>
    (nextToken 10 width.2).map fun height =>
      (atoi (CStr.read width.1), atoi (CStr.read height.1))

/-- The order that a content gives. -/
def orderOf (c : List UInt8) : Order :=
  if (text "ECHO\n").isPrefixOf c then .echo (c.drop 5)
  else if (text "RENAME\n").isPrefixOf c then .rename (upToToken 10 (c.drop 7))
  else if (text "UNBIND\n").isPrefixOf c then .unbind
  else if (text "GET_RESOLUTION\n").isPrefixOf c then .getResolution
  else if (text "RESOLUTION\n").isPrefixOf c then .resolution (resolutionOf (c.drop 11))
  else .ignored

/-- A response with this text. -/
def sendText (t : CStr) : CloudM P ℤ := do
  let (ret, _) ← cloudSendPacket P.cldcmdDevctl t P.pktflgResponse []
  if ret ≠ 0 then return -1
  else return 0

/-- A response with this answer behind the route. -/
def respond (route answer : List UInt8) : CloudM P ℤ := sendText (CStr.read (route ++ answer))

/-- What is done about an order that came with this route. -/
def Order.serve (route : List UInt8) : Order → CloudM P ℤ
  | .echo t => respond route t
  | .rename name => do
      let ret ← swSystemSetProductName (CStr.read name)
      respond route (text (if ret = .succeed then "OK\n" else "ER\n"))
  | .unbind => do
      let ret ← cloudDoUbind
      if ret = .succeed then do
        modifyCloud fun c => { c with binded := false }
        cloudSetStatus .connected
        sysConfSetString .account Field.zero
        sysConfSetString .password Field.zero
        respond route (text "OK\n")
      else respond route (text "ER\n")
  | .getResolution => do
      let (width, height) ← swVideoCtrlGetResolution
      respond route (decimal width ++ text "*" ++ decimal height)
  | .resolution (some (width, height)) => do
      let ret ← swVideoCtrlSetResolution width height
      respond route (text (if ret = 0 then "OK\n" else "ER\n"))
  | .resolution none => respond route (text "ER\n")
  | .ignored => return 0

/-! ## The code on its buffer -/

/-- `network_device_control` after a packet has been received. -/
def serveControl (buf : List UInt8) : CloudM P ℤ :=
  if startsWith buf (contentOff P) (text "ECHO\n") then controlEcho buf
  else if startsWith buf (contentOff P) (text "RENAME\n") then controlRename buf
  else if startsWith buf (contentOff P) (text "UNBIND\n") then controlUnbind buf
  else if startsWith buf (contentOff P) (text "GET_RESOLUTION\n") then controlGetResolution buf
  else if startsWith buf (contentOff P) (text "RESOLUTION\n") then controlResolution buf
  else return 0

theorem networkDeviceControl_eq : (networkDeviceControl : CloudM P ℤ) = (do
    let buf ← stack P.cldMaxPktsize
    lock
    let (ret, buf) ← receiveControl buf
    unlock
    if ret = 0 then return 0
    else if ret < 0 then return -1
    else serveControl buf) :=
  rfl

section Buffer

variable {A B buf mem : List UInt8}

/-- What is put over the content is read behind the route, whatever was done to the content. -/
theorem sendControl_putContent (hA : A.length = contentOff P) (B t : List UInt8) :
    (sendControl (putContent P (A ++ B) t) : CloudM P ℤ) =
      respond (A.drop P.sizeofCldhdr) t := by
  have hle : P.sizeofCldhdr ≤ A.length := by
    rw [hA, contentOff]
    omega
  show sendText (CStr.read ((putContent P (A ++ B) t).drop P.sizeofCldhdr)) = _
  unfold respond putContent store
  rw [List.takeD_eq_take _ (by simp [hA]), List.take_left' hA, List.append_assoc,
    List.drop_append_of_le_length hle, List.append_assoc, ← List.append_assoc]
  exact congrArg sendText (read_append_zero _ _)

theorem serve_echo (hA : A.length = contentOff P) (B : List UInt8) :
    (controlEcho (A ++ (text "ECHO\n" ++ B)) : CloudM P ℤ) =
      (Order.echo (CStr.read B).bytes).serve (A.drop P.sizeofCldhdr) := by
  have hdrop : (A ++ (text "ECHO\n" ++ B)).drop (contentOff P + 5) = B := by
    rw [← List.append_assoc]
    exact List.drop_left' (by rw [List.length_append, hA]; rfl)
  unfold controlEcho
  simp only [hdrop]
  exact sendControl_putContent hA _ _

theorem serve_rename (hA : A.length = contentOff P) (B : List UInt8) :
    (controlRename (A ++ (text "RENAME\n" ++ B)) : CloudM P ℤ) =
      (Order.rename (upToToken 10 (CStr.read B).bytes)).serve (A.drop P.sizeofCldhdr) := by
  have hoff : (A ++ text "RENAME\n").length = contentOff P + 7 := by
    rw [List.length_append, hA]
    rfl
  have hline : (10 : UInt8) ≠ 0 := by decide
  obtain ⟨B', hmem, hread⟩ := read_strtokR hline (A ++ text "RENAME\n") B
  have hname : CStr.read ((A ++ text "RENAME\n" ++ B').drop (contentOff P + 7)) =
      CStr.read (upToToken 10 (CStr.read B).bytes) := by
    rw [List.drop_left' hoff, ← hread, read_read]
  rw [hoff] at hmem
  unfold controlRename Order.serve
  rw [← List.append_assoc]
  simp only [hmem, hname]
  simp only [List.append_assoc, sendControl_putContent hA]

theorem serve_resolution (hA : A.length = contentOff P) (B : List UInt8) :
    (controlResolution (A ++ (text "RESOLUTION\n" ++ B)) : CloudM P ℤ) =
      (Order.resolution (resolutionOf (CStr.read B).bytes)).serve (A.drop P.sizeofCldhdr) := by
  have hoff : (A ++ text "RESOLUTION\n").length = contentOff P + 11 := by
    rw [List.length_append, hA]
    rfl
  have hput : ∀ {A' : List UInt8}, A ++ text "RESOLUTION\n" <+: A' → ∀ B' t : List UInt8,
      (sendControl (putContent P (A' ++ B') t) : CloudM P ℤ) =
        respond (A.drop P.sizeofCldhdr) t := by
    rintro A' ⟨C, rfl⟩ B' t
    rw [List.append_assoc, List.append_assoc, sendControl_putContent hA]
  unfold controlResolution
  rw [← List.append_assoc, ← hoff]
  have hline : (10 : UInt8) ≠ 0 := by decide
  have hw := strtokR_strtok hline (A ++ text "RESOLUTION\n") B
  generalize strtokR (A ++ text "RESOLUTION\n" ++ B) (A ++ text "RESOLUTION\n").length 10 = w at hw
  have her : ∀ {A' B' : List UInt8} {h : Token}, A ++ text "RESOLUTION\n" <+: A' →
      Strtok 10 A' B' h → (sendControl (putContent P h.mem (text "ER\n")) : CloudM P ℤ) =
        respond (A.drop P.sizeofCldhdr) (text "ER\n") := by
    intro A' B' h hA' hh
    obtain ⟨A'', B'', hmem, hA''⟩ := hh.mem_eq
    rw [hmem, hput (hA'.trans hA'')]
  unfold resolutionOf
  cases hw with
  | @none A' B' hnext hA' _ =>
    -- no width
    rw [hnext]
    exact her hA' (strtokR_strtok (by decide) A' B')
  | @some A' B' rest a i hnext hA' hB' hread =>
    have hh := strtokR_strtok hline A' B'
    rw [hnext, Option.bind_some]
    simp only
    generalize strtokR (A' ++ B') A'.length 10 = h at hh
    have hsend := her hA' hh
    cases hh with
    | none hnext' _ _ =>
      -- a width and no height
      rw [hB'] at hnext'
      rw [hnext']
      exact hsend
    | @some A'' B'' rest' b j hnext' hA'' hB'' hread' =>
      rw [hB'] at hnext'
      have hheight := hread' B'' fun h => hB''.trans h
      have hwidth : (CStr.read ((A'' ++ B'').drop i)).bytes = a := by
        obtain ⟨C, rfl⟩ := hA''
        rw [List.append_assoc]
        apply hread
        rintro rfl
        cases hnext'
      rw [hnext', ← hwidth, ← hheight, Option.map_some]
      simp only [read_read, hput (hA'.trans hA'')]
      rfl

/-- A buffer whose content starts with a command. -/
theorem exists_content {key : List UInt8} {off : ℕ} (hk : key ≠ []) (h0 : 0 ∉ key)
    (h : startsWith buf off key = true) : ∃ A B, buf = A ++ (key ++ B) ∧ A.length = off ∧
      (CStr.read (buf.drop off)).bytes = key ++ (CStr.read B).bytes := by
  have hpre : key <+: buf.drop off :=
    (List.isPrefixOf_iff_prefix.1 h).trans (List.takeWhile_prefix _)
  obtain ⟨B, hB⟩ := hpre
  have hlt : off ≤ buf.length := by
    by_contra hn
    rw [List.drop_eq_nil_of_le (by omega)] at hB
    exact hk (List.append_eq_nil_iff.1 hB).1
  refine ⟨buf.take off, B, ?_, by rw [List.length_take, Nat.min_eq_left hlt], ?_⟩
  · rw [hB, List.take_append_drop]
  · rw [← hB, read_append h0]

/-- **The code does what the order says.** -/
theorem serveControl_eq (buf : List UInt8) : (serveControl buf : CloudM P ℤ) =
    (orderOf (CStr.read (buf.drop (contentOff P))).bytes).serve
      ((buf.take (contentOff P)).drop P.sizeofCldhdr) := by
  unfold serveControl orderOf startsWith
  split_ifs with h₁ h₂ h₃ h₄ h₅
  · obtain ⟨A, B, rfl, hA, hread⟩ := exists_content (by decide) (by decide) h₁
    rw [hread, List.take_left' hA]
    exact serve_echo hA B
  · obtain ⟨A, B, rfl, hA, hread⟩ := exists_content (by decide) (by decide) h₂
    rw [hread, List.take_left' hA]
    exact serve_rename hA B
  · obtain ⟨A, B, rfl, hA, hread⟩ := exists_content (by decide) (by decide) h₃
    rw [List.take_left' hA]
    unfold controlUnbind Order.serve
    simp only [sendControl_putContent hA]
  · obtain ⟨A, B, rfl, hA, hread⟩ := exists_content (by decide) (by decide) h₄
    rw [List.take_left' hA]
    unfold controlGetResolution Order.serve
    simp only [sendControl_putContent hA]
  · obtain ⟨A, B, rfl, hA, hread⟩ := exists_content (by decide) (by decide) h₅
    rw [hread, List.take_left' hA]
    exact serve_resolution hA B
  · rfl

end Buffer

/-! ## Responses -/

/-- The command and the text of a response, if this is the event of its being written. -/
def Event.responded (P : CldProtocol) : Event → Option (ℕ × List UInt8)
  | .wrote _ hdr payload _ =>
      if hdr.flags &&& P.pktflgResponse ≠ 0 then some (hdr.cmd, (CStr.read payload).bytes) else none
  | _ => none

/-- The responses that were written, newest first. -/
def responses (P : CldProtocol) (es : List Event) : List (ℕ × List UInt8) :=
  es.filterMap (Event.responded P)

/-- On the way from `w` to `w'` exactly these responses were written. -/
def Replies (w w' : World P) (rs : List (ℕ × List UInt8)) : Prop :=
  ∃ es, w'.trace = es ++ w.trace ∧ responses P es = rs

/-- The inputs in which a pair of numbers is a pair of `int`s. -/
def Input.IsInts : Input → Prop
  | .ints a b => toInt32 a = a ∧ toInt32 b = b
  | _ => True

instance (i : Input) : Decidable i.IsInts := by
  cases i with
  | ints a b => exact inferInstanceAs (Decidable (_ ∧ _))
  | _ => exact inferInstanceAs (Decidable True)

/-- The surroundings of the module when resolutions are `int`s. -/
def intHandle (P : CldProtocol) : Handler (Op P) (Ans P) Input (World P) :=
  fun o i w => if i.IsInts then handle P o i w else none

/-- The answers to an order that was served with these calls. -/
def Order.Answers (cs : List (Call (Op P) (Ans P))) : Order → List UInt8 → Prop
  | .echo t, answer => answer = t
  | .rename _, answer | .unbind, answer | .resolution _, answer =>
      answer = text "OK\n" ∨ answer = text "ER\n"
  | .getResolution, answer => ∃ width height, ⟨.swVideoCtrlGetResolution, (width, height)⟩ ∈ cs ∧
      answer = decimal width ++ text "*" ++ decimal height
  | .ignored, _ => False

section Responding

variable {w w' w₁ : World P} {rs rs' : List (ℕ × List UInt8)}

theorem Replies.of_eq (h : w'.trace = w.trace) : Replies w w' [] := ⟨[], h, rfl⟩

theorem Replies.trans (h : Replies w w₁ rs) (h' : Replies w₁ w' rs') :
    Replies w w' (rs' ++ rs) := by
  obtain ⟨es, htr, hes⟩ := h
  obtain ⟨es', htr', hes'⟩ := h'
  refine ⟨es' ++ es, by rw [htr', htr, List.append_assoc], ?_⟩
  unfold responses at *
  rw [List.filterMap_append, hes, hes']

theorem runs_of_intHandle {α : Type} {p : CloudM P α} {a : α}
    (h : p.Outcome (intHandle P) w a w') : Runs p w a w' := by
  apply h.mono
  intro o i w x hx
  unfold intHandle at hx
  split_ifs at hx
  exact hx

theorem responded_packet {t : CStr} (h : P.sizeofCldhdr + t.length < P.cldMaxPktsize)
    (cmd flags : ℕ) (past : List UInt8) (fd ret : ℤ) :
    Event.responded P (.wrote fd (packetHdr P cmd flags t) (packetPayload P t past) ret) =
      if flags &&& P.pktflgResponse ≠ 0 then some (cmd, t.bytes) else none := by
  show (if flags &&& P.pktflgResponse ≠ 0 then
    some (cmd, (CStr.read (packetPayload P t past)).bytes) else none) = _
  rw [packetPayload, read_payloadOf h]

/-- A request is no response. -/
theorem Transmits.replies {cmd : ℕ} {t : CStr} {res : List UInt8} {x : ℤ × List UInt8}
    (h : Transmits cmd t res w x w') : Replies w w' [] := by
  have hflags : ¬ 0 &&& P.pktflgResponse ≠ 0 := by simp
  cases h with
  | tooLarge _ => exact ⟨[_], rfl, rfl⟩
  | writeFailed hfits _ =>
    refine ⟨[_], rfl, ?_⟩
    unfold responses
    rw [List.filterMap_cons, responded_packet hfits, if_neg hflags]
    rfl
  | noReply hfits _ =>
    refine ⟨[_, _], rfl, ?_⟩
    unfold responses
    rw [List.filterMap_cons, List.filterMap_cons, responded_packet hfits, if_neg hflags]
    rfl
  | answered hfits _ _ _ _ =>
    refine ⟨[_, _], rfl, ?_⟩
    unfold responses
    rw [List.filterMap_cons, List.filterMap_cons, responded_packet hfits, if_neg hflags]
    rfl

/-- **A response that fits is written**, with the route before the answer. -/
theorem respond_replies {route answer : List UInt8} {r : ℤ}
    (h : Runs (respond route answer) w r w') (hr : 0 ∉ route) (ha : 0 ∉ answer)
    (hfits : P.sizeofCldhdr + (route.length + answer.length) < P.cldMaxPktsize) :
    Replies w w' [(P.cldcmdDevctl, route ++ answer)] := by
  have hbytes : (CStr.read (route ++ answer)).bytes = route ++ answer :=
    read_of_nulFree fun h => (List.mem_append.1 h).elim hr ha
  have hlen : (CStr.read (route ++ answer)).length = route.length + answer.length := by
    unfold CStr.length
    rw [hbytes, List.length_append]
  unfold respond sendText at h
  simp only [runs_bind] at h
  obtain ⟨⟨ret, res⟩, w₁, hs, h⟩ := h
  obtain rfl : w' = w₁ := by
    rw [runs_ite, runs_pure, runs_pure] at h
    exact h.elim (·.2.2) (·.2.2)
  rcases runs_cloudSendPacket_flagged P.pktflgResponse_and hs with
    ⟨hbig, -⟩ | ⟨past, ret', hf, rfl, -⟩
  · omega
  · refine ⟨[_], rfl, ?_⟩
    have hflag : P.pktflgResponse &&& P.pktflgResponse ≠ 0 := by
      rw [Nat.and_self]
      exact P.pktflgResponse_ne_zero
    unfold responses
    rw [List.filterMap_cons, responded_packet hf, if_pos hflag, hbytes]
    rfl

/-- The decimal digits of an `int`. -/
theorem decimal_spec {z : ℤ} (hz : toInt32 z = z) : (decimal z).length ≤ 11 ∧ 0 ∉ decimal z := by
  obtain ⟨hlo, hhi⟩ := toInt32_eq_self_iff.1 hz
  have hlen : (Nat.toDigits 10 z.natAbs).length ≤ 10 :=
    (Nat.length_toDigits_le_iff (by decide) (by decide)).2 (by omega)
  have hdigits : 0 ∉ (Nat.toDigits 10 z.natAbs).map fun c => UInt8.ofNat c.toNat := by
    intro h
    obtain ⟨c, hc, h0⟩ := List.mem_map.1 h
    have hdigit := Nat.isDigit_of_mem_toDigits (by decide) (by decide) hc
    have hrange : 48 ≤ c.toNat ∧ c.toNat ≤ 57 := by
      simp only [Char.isDigit, Bool.and_eq_true, decide_eq_true_eq] at hdigit
      exact hdigit
    have hnat := congrArg UInt8.toNat h0
    rw [UInt8.toNat_ofNat'] at hnat
    have h00 : (0 : UInt8).toNat = 0 := rfl
    omega
  unfold decimal
  constructor
  · rw [List.length_append, List.length_map]
    split_ifs
    · rw [List.length_singleton]
      omega
    · rw [List.length_nil]
      omega
  · rw [List.mem_append]
    rintro (h | h)
    · split_ifs at h
      · simp at h
      · simp at h
    · exact hdigits h

section Answers

variable {route : List UInt8} {r : ℤ} {cs : List (Call (Op P) (Ans P))}

/-- One of the two short answers is written. -/
theorem respond_word {t : List UInt8} (hr : 0 ∉ route)
    (hroom : P.sizeofCldhdr + (route.length + 32) ≤ P.cldMaxPktsize)
    (ht : t = text "OK\n" ∨ t = text "ER\n") (h : Runs (respond route t) w r w') :
    Replies w w' [(P.cldcmdDevctl, route ++ t)] := by
  have hlen : t.length = 3 ∧ 0 ∉ t := by
    rcases ht with rfl | rfl
    · decide
    · decide
  exact respond_replies h hr hlen.2 (by omega)

/-- The answer that tells whether something was done is one of the two. -/
theorem word_of_cond (c : Prop) [Decidable c] : text (if c then "OK\n" else "ER\n") = text "OK\n" ∨
    text (if c then "OK\n" else "ER\n") = text "ER\n" := by
  by_cases hc : c
  · exact Or.inl (by rw [if_pos hc])
  · exact Or.inr (by rw [if_neg hc])

/-- Whether the server was asked or not, there is one response. -/
theorem serve_unbind_replies (hr : 0 ∉ route)
    (hroom : P.sizeofCldhdr + (route.length + 32) ≤ P.cldMaxPktsize)
    (h : Runs (Order.serve route .unbind) w r w') :
    ∃ answer, (answer = text "OK\n" ∨ answer = text "ER\n") ∧
      Replies w w' [(P.cldcmdDevctl, route ++ answer)] := by
  unfold Order.serve cloudDoUbind at h
  simp only [runs_bind, runs_ite, runs_modifyCloud, runs_cloudSetStatus,
    runs_sysConfSetString] at h
  obtain ⟨ret, w₁, hu, h⟩ := h
  obtain ⟨_, _, htrans, -⟩ := runs_cloudRequest_transmits hu
  have hquiet := htrans.replies
  rcases h with ⟨-, _, _, rfl, _, _, rfl, _, _, rfl, _, _, rfl, hs⟩ | ⟨-, hs⟩
  · obtain ⟨es, htr, hes⟩ := respond_word hr hroom (Or.inl rfl) hs
    have hpost : Replies w₁ w' [(P.cldcmdDevctl, route ++ text "OK\n")] := ⟨es, htr, hes⟩
    exact ⟨_, Or.inl rfl, hquiet.trans hpost⟩
  · exact ⟨_, Or.inr rfl, hquiet.trans (respond_word hr hroom (Or.inr rfl) hs)⟩

/-- The two numbers that are got are those that are sent, and they fit, as they are `int`s. -/
theorem serve_getResolution_replies (hr : 0 ∉ route)
    (hroom : P.sizeofCldhdr + (route.length + 32) ≤ P.cldMaxPktsize)
    (hs : Steps (intHandle P) (Order.serve route .getResolution) w cs (.ret r) w') :
    ∃ answer, Order.getResolution.Answers cs answer ∧
      Replies w w' [(P.cldcmdDevctl, route ++ answer)] := by
  unfold Order.serve at hs
  obtain ⟨⟨width, height⟩, w₁, cs₁, cs₂, rfl, hget, hsend⟩ := hs.of_bind_ret
  have hints : toInt32 width = width ∧ toInt32 height = height := by
    obtain ⟨i, hi⟩ := Prog.outcome_call.1 hget.outcome
    unfold intHandle at hi
    split_ifs at hi with hok
    cases i with
    | ints a b => cases hi; exact hok
    | _ => cases hi
  have hcall : ⟨.swVideoCtrlGetResolution, (width, height)⟩ ∈ cs₁ ++ cs₂ := by
    cases hget with
    | call _ hdone =>
      cases hdone
      exact List.mem_cons_self ..
  obtain rfl := runs_swVideoCtrlGetResolution.1 (runs_of_intHandle hget.outcome)
  obtain ⟨hw, hw0⟩ := decimal_spec hints.1
  obtain ⟨hh, hh0⟩ := decimal_spec hints.2
  refine ⟨_, ⟨width, height, hcall, rfl⟩,
    respond_replies (runs_of_intHandle hsend.outcome) hr ?_ ?_⟩
  · simp [hw0, hh0, text]
  · rw [List.length_append, List.length_append]
    have : (text "*").length = 1 := rfl
    omega

/-- **The one response to an order.** -/
theorem Order.serve_replies {o : Order}
    (hs : Steps (intHandle P) (o.serve route) w cs (.ret r) w')
    (hr : 0 ∉ route) (hroom : P.sizeofCldhdr + (route.length + 32) ≤ P.cldMaxPktsize)
    (hecho : ∀ t, o = .echo t →
      0 ∉ t ∧ P.sizeofCldhdr + (route.length + t.length) < P.cldMaxPktsize) :
    (o = .ignored ∧ w' = w) ∨
      ∃ answer, o.Answers cs answer ∧ Replies w w' [(P.cldcmdDevctl, route ++ answer)] := by
  have hrun := runs_of_intHandle hs.outcome
  cases o with
  | echo t =>
    obtain ⟨h0, hfits⟩ := hecho t rfl
    exact Or.inr ⟨t, rfl, respond_replies hrun hr h0 hfits⟩
  | rename name =>
    unfold Order.serve at hrun
    simp only [runs_bind, runs_swSystemSetProductName] at hrun
    obtain ⟨ret, _, rfl, hrun⟩ := hrun
    exact Or.inr ⟨_, word_of_cond _, respond_word hr hroom (word_of_cond _) hrun⟩
  | unbind => exact Or.inr (serve_unbind_replies hr hroom hrun)
  | getResolution => exact Or.inr (serve_getResolution_replies hr hroom hs)
  | resolution size =>
    cases size with
    | none => exact Or.inr ⟨_, Or.inr rfl, respond_word hr hroom (Or.inr rfl) hrun⟩
    | some size =>
      unfold Order.serve at hrun
      simp only [runs_bind, runs_swVideoCtrlSetResolution] at hrun
      obtain ⟨ret, _, rfl, hrun⟩ := hrun
      exact Or.inr ⟨_, word_of_cond _, respond_word hr hroom (word_of_cond _) hrun⟩
  | ignored =>
    obtain ⟨-, rfl⟩ := hs.outcome
    exact Or.inl ⟨rfl, rfl⟩

end Answers

end Responding

/-! ## The law of the route -/

/-- The tags of the commands. -/
def controlTags : List (List UInt8) :=
  [text "ECHO\n", text "RENAME\n", text "UNBIND\n", text "GET_RESOLUTION\n", text "RESOLUTION\n"]

/-- In a call that asked for the operations `cs`, with these answers, and left the events `es`,
the one response to a command keeps the route and answers the command, and to another content
nothing is sent. -/
structure KeepsRoute (P : CldProtocol) (route content : List UInt8)
    (cs : List (Call (Op P) (Ans P))) (es : List Event) : Prop where
  echo : ∀ t, content = text "ECHO\n" ++ t → responses P es = [(P.cldcmdDevctl, route ++ t)]
  acknowledged : ∀ tag ∈ [text "RENAME\n", text "UNBIND\n", text "RESOLUTION\n"],
    tag <+: content → ∃ answer ∈ [text "OK\n", text "ER\n"],
      responses P es = [(P.cldcmdDevctl, route ++ answer)]
  /-- The numbers are those that `swVideoCtrlGetResolution` has given. -/
  resolution : text "GET_RESOLUTION\n" <+: content → ∃ width height : ℤ,
    ⟨.swVideoCtrlGetResolution, (width, height)⟩ ∈ cs ∧
      responses P es = [(P.cldcmdDevctl, route ++ (decimal width ++ text "*" ++ decimal height))]
  other : (∀ tag ∈ controlTags, ¬ tag <+: content) → handed es = []

section Law

variable {w w' : World P} {route content : List UInt8} {cs : List (Call (Op P) (Ans P))}

/-- A content without a command is no order. -/
theorem orderOf_eq_ignored (h : ∀ tag ∈ controlTags, ¬ tag <+: content) :
    orderOf content = .ignored := by
  unfold orderOf
  simp only [controlTags, List.forall_mem_cons, ← List.isPrefixOf_iff_prefix] at h
  obtain ⟨h₁, h₂, h₃, h₄, h₅, -⟩ := h
  rw [if_neg h₁, if_neg h₂, if_neg h₃, if_neg h₄, if_neg h₅]

/-- The response to the order of a content is the one the law asks for. -/
theorem keepsRoute_of_order {es es' : List Event}
    (h : (orderOf content = .ignored ∧ es = es') ∨
      ∃ answer, (orderOf content).Answers cs answer ∧
        responses P es = [(P.cldcmdDevctl, route ++ answer)])
    (hquiet : handed es' = []) : KeepsRoute P route content cs es := by
  constructor
  · rintro t rfl
    obtain ⟨hign, -⟩ | ⟨answer, rfl, hes⟩ := h
    · cases hign
    · exact hes
  · rintro tag htag ⟨t, rfl⟩
    have hanswer : ∀ answer, (orderOf (tag ++ t)).Answers cs answer →
        answer ∈ [text "OK\n", text "ER\n"] := by
      simp only [List.mem_cons, List.not_mem_nil, or_false] at htag ⊢
      rcases htag with rfl | rfl | rfl
      all_goals exact fun answer h => h
    have hne : orderOf (tag ++ t) ≠ .ignored := by
      simp only [List.mem_cons, List.not_mem_nil, or_false] at htag
      rcases htag with rfl | rfl | rfl
      all_goals
        intro h
        cases h
    obtain ⟨hign, -⟩ | ⟨answer, ha, hes⟩ := h
    · exact absurd hign hne
    · exact ⟨answer, hanswer answer ha, hes⟩
  · rintro ⟨t, rfl⟩
    obtain ⟨hign, -⟩ | ⟨answer, ⟨width, height, hcall, rfl⟩, hes⟩ := h
    · cases hign
    · exact ⟨width, height, hcall, hes⟩
  · intro hno
    rw [orderOf_eq_ignored hno] at h
    obtain ⟨-, rfl⟩ | ⟨answer, ha, -⟩ := h
    · exact hquiet
    · cases ha

/-- The part under the lock reads a packet, or nothing. -/
theorem runs_receiveControl {buf : List UInt8} {x : ℤ × List UInt8}
    (h : Runs (receiveControl buf) w x w') :
    (x.1 = 0 ∧ w' = w) ∨ w' = w.log (.received .control w.cloud.fd x.1 x.2) := by
  unfold receiveControl at h
  simp only [runs_bind, runs_ite, runs_getCloud, runs_pure] at h
  obtain ⟨event, w₁, hevent, h⟩ := h
  obtain ⟨rfl, -⟩ := runs_networkReadEvent hevent
  rcases h with ⟨-, _, _, ⟨rfl, rfl⟩, hrecv⟩ | ⟨-, rfl, rfl⟩
  · exact Or.inr (runs_recvPacket hrecv).1
  · exact Or.inl ⟨rfl, rfl⟩

/-- A call that begins with the receipt of a packet serves that packet. -/
theorem steps_received {mem : List UInt8} {r ret : ℤ}
    (hs : Steps (intHandle P) networkDeviceControl w cs (.ret r) w')
    (hrecv : (w.since w').getLast? = some (.received .control w.cloud.fd ret mem))
    (hpos : 0 < ret) : ∃ cs₁, cs₁ <:+ cs ∧ Steps (intHandle P) (serveControl mem)
      (w.log (.received .control w.cloud.fd ret mem)) cs₁ (.ret r) w' := by
  rw [networkDeviceControl_eq] at hs
  obtain ⟨buf, w₁, cs₁, _, rfl, hstack, hs₁⟩ := hs.of_bind_ret
  obtain ⟨_, w₂, cs₂, _, rfl, hlock, hs₂⟩ := hs₁.of_bind_ret
  obtain ⟨⟨ret₀, mem₀⟩, w₃, cs₃, _, rfl, hreceive, hs₃⟩ := hs₂.of_bind_ret
  obtain ⟨_, w₄, cs₄, cs₅, rfl, hunlock, hs₄⟩ := hs₃.of_bind_ret
  obtain ⟨-, hw₁⟩ := runs_stack.1 (runs_of_intHandle hstack.outcome)
  have hw₂ := runs_lock.1 (runs_of_intHandle hlock.outcome)
  have hw₄ := runs_unlock.1 (runs_of_intHandle hunlock.outcome)
  subst hw₁ hw₂ hw₄
  rcases runs_receiveControl (runs_of_intHandle hreceive.outcome) with ⟨h0, rfl⟩ | rfl
  · -- without a packet nothing happens
    rw [if_pos h0] at hs₄
    obtain ⟨-, rfl⟩ := hs₄.outcome
    have hnil : ∀ v : World P, v.since v = [] := fun v => World.since_eq rfl
    rw [hnil] at hrecv
    cases hrecv
  · obtain ⟨es, htr⟩ := runs_suffix (runs_of_intHandle hs₄.outcome)
    have hsince : w₂.since w' = es ++ [.received .control w₂.cloud.fd ret₀ mem₀] := by
      apply World.since_eq
      rw [← htr, List.append_assoc]
      rfl
    rw [hsince, List.getLast?_concat] at hrecv
    cases hrecv
    rw [if_neg (by omega), if_neg (by omega)] at hs₄
    exact ⟨cs₅, ⟨cs₁ ++ (cs₂ ++ (cs₃ ++ cs₄)), by simp only [List.append_assoc]⟩, hs₄⟩

/-- The answers stay what they are if there are more calls. -/
theorem Order.Answers.mono {o : Order} {cs' : List (Call (Op P) (Ans P))} {answer : List UInt8}
    (h : o.Answers cs answer) (hsub : cs ⊆ cs') : o.Answers cs' answer := by
  cases o with
  | getResolution =>
    obtain ⟨width, height, hcall, rfl⟩ := h
    exact ⟨width, height, hsub hcall, rfl⟩
  | _ => exact h

/-- **Control replies keep the route.**  The first event of the call is a packet whose payload
is a route and a content that ends with a NUL; resolutions are `int`s, and there is room
for the packet, and for the route with an answer of 32 bytes. -/
theorem control_keeps_route {mem rest : List UInt8} {t : CStr} {r ret : ℤ}
    (hs : Steps (intHandle P) networkDeviceControl w cs (.ret r) w')
    (hrecv : (w.since w').getLast? = some (.received .control w.cloud.fd ret mem)) (hpos : 0 < ret)
    (hp : replyPayload P mem = route ++ (t.bytes ++ 0 :: rest))
    (hlen : route.length = P.cldRtsize + 1) (hroute : 0 ∉ route)
    (hfit : P.sizeofCldhdr + (replyPayload P mem).length ≤ P.cldMaxPktsize)
    (hroom : P.sizeofCldhdr + (P.cldRtsize + 1 + 32) ≤ P.cldMaxPktsize) :
    KeepsRoute P route t.bytes cs (w.since w') := by
  obtain ⟨cs₁, hsuffix, hserve⟩ := steps_received hs hrecv hpos
  obtain ⟨past, hmem⟩ : ∃ past, mem.drop P.sizeofCldhdr = route ++ (t.bytes ++ 0 :: past) := by
    refine ⟨rest ++ (mem.drop P.sizeofCldhdr).drop (sizeBytes P mem).toNat, ?_⟩
    have hsplit : replyPayload P mem ++ (mem.drop P.sizeofCldhdr).drop (sizeBytes P mem).toNat =
        mem.drop P.sizeofCldhdr := List.take_append_drop ..
    rw [hp, List.append_assoc, List.append_assoc, List.cons_append] at hsplit
    exact hsplit.symm
  have hcontent : CStr.read (mem.drop (contentOff P)) = t := by
    rw [contentOff, add_assoc, ← List.drop_drop, hmem, ← hlen, List.drop_left,
      CStr.read_append_nul]
  have hroute_eq : (mem.take (contentOff P)).drop P.sizeofCldhdr = route := by
    rw [contentOff, List.drop_take, hmem, add_assoc, Nat.add_sub_cancel_left, ← hlen,
      List.take_left]
  rw [serveControl_eq, hcontent, hroute_eq] at hserve
  have hecho : ∀ t', orderOf t.bytes = .echo t' →
      0 ∉ t' ∧ P.sizeofCldhdr + (route.length + t'.length) < P.cldMaxPktsize := by
    intro t' ht'
    have heq : t' = t.bytes.drop 5 := by
      unfold orderOf at ht'
      split_ifs at ht'
      exact (Order.echo.inj ht').symm
    rw [hp] at hfit
    simp only [List.length_append, List.length_cons] at hfit
    have hle : t'.length ≤ t.bytes.length := by
      rw [heq, List.length_drop]
      omega
    exact ⟨fun h0 => t.nulFree (List.mem_of_mem_drop (heq ▸ h0)), by omega⟩
  have hall : ∀ es, w'.trace = es ++ (w.log (.received .control w.cloud.fd ret mem)).trace →
      w.since w' = es ++ [.received .control w.cloud.fd ret mem] := by
    intro es htr
    apply World.since_eq
    rw [htr, List.append_assoc]
    rfl
  rcases Order.serve_replies hserve hroute (by omega) hecho with ⟨hign, rfl⟩ | ⟨answer, ha, hes⟩
  · rw [hall [] rfl]
    exact keepsRoute_of_order (Or.inl ⟨hign, rfl⟩) rfl
  · obtain ⟨es, htr, hes⟩ := hes
    rw [hall es htr]
    apply keepsRoute_of_order (Or.inr ⟨answer, ha.mono hsuffix.subset, ?_⟩)
      (show handed [] = [] from rfl)
    unfold responses at hes ⊢
    rw [List.filterMap_append, hes]
    rfl

end Law

/-- The packet that asks for the resolution, on the route `route`. -/
def resolutionPacket : List UInt8 :=
  sampleEnc ⟨77, 1, 6, 0, 6⟩ ++ text "route" ++ text "GET_RESOLUTION\n" ++ [0, 0, 0, 0]

/-- A call to which the law applies. -/
theorem control_keeps_route_resolution : ∃ (w' : World sampleProtocol) (r : ℤ)
    (cs : List (Call (Op sampleProtocol) (Ans sampleProtocol))),
    Steps (intHandle sampleProtocol) networkDeviceControl (onlineWorld sampleProtocol) cs
        (.ret r) w' ∧
      KeepsRoute sampleProtocol (text "route") (text "GET_RESOLUTION\n") cs
        ((onlineWorld sampleProtocol).since w') := by
  have hq : (networkDeviceControl.replay (intHandle sampleProtocol) (quiet sampleProtocol)
      [.bytes (List.replicate 64 1), .select .ready, .reads resolutionPacket [.data 8, .data 24],
        .ints 640 480, .bytes [], .writes [.sent 64]] (onlineWorld sampleProtocol)).any
      (fun x => decide (((onlineWorld sampleProtocol).since x.2).getLast? =
        some (.received .control 3 32 (resolutionPacket ++ List.replicate 32 1)))) = true := by
    decide +kernel
  obtain ⟨r, w', hrun, hrecv⟩ := Prog.exists_outcome _ _ hq
  obtain ⟨cs, hs⟩ := hrun.exists_steps
  have hp : replyPayload sampleProtocol (resolutionPacket ++ List.replicate 32 1) =
      text "route" ++ ((CStr.lit "GET_RESOLUTION\n").bytes ++ 0 :: [0, 0, 0]) := by
    decide +kernel
  refine ⟨w', r, cs, hs, ?_⟩
  exact control_keeps_route (t := CStr.lit "GET_RESOLUTION\n") hs hrecv (by decide) hp
    (by decide +kernel) (by decide +kernel) (by decide +kernel) (by decide)

end SwCloud
