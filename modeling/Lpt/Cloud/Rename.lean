import Lpt.Base.Codec
import Lpt.Base.Paths
import Lpt.Cloud.Leftovers
import Lpt.Cloud.Phrases
import Lpt.Cloud.Register

/-!
# What a name may not do to the UPDEV packets

A name that arrives with `RENAME` is handed to another module, comes back as a notification,
and is then one of the six lines of every `UPDEV` packet.  A line feed in it would be read
as the end of its line.

* `KeepsFormat` — the name has no line feed, and the packets that carry it have six lines.
* `lines_splitOn` — lines without line feeds are what a text is split into again.
* `rename_keeps_format_iff` — the names that are handed on keep the format unless the
  text behind the command begins with a line feed.
-/

namespace SwCloud

open CLib Effect

variable {P : CldProtocol}

/-! ## Six lines -/

/-- The fields of the `UPDEV` packet other than the name have no line feeds. -/
structure LineFree (d : DevInfo P) : Prop where
  model : 10 ∉ d.model.str.bytes
  admin : 10 ∉ d.admin.str.bytes
  password : 10 ∉ d.password.str.bytes
  eip : 10 ∉ d.eip.str.bytes
  eport : 10 ∉ d.eport.str.bytes

/-- The text has six lines, and splitting it gives back the six fields. -/
structure SixLines (d : DevInfo P) (t : List UInt8) : Prop where
  count : t.count 10 = 6
  split : t.splitOn 10 = [d.model.str.bytes, d.desc.str.bytes, d.admin.str.bytes,
    d.password.str.bytes, d.eip.str.bytes, d.eport.str.bytes, []]

/-- **The name does not break the format.**  It has no line feed, and after it has come back
through `msg_sysname_change`, with other fields that have none, the `UPDEV` packets still
have their six lines. -/
structure KeepsFormat (P : CldProtocol) (name : CStr) : Prop where
  lineFree : 10 ∉ name.bytes
  sixLines : ∀ {w w₁ w₂ w₃ : World P} {r : CommonStatus}, w.cloud.status = .connected →
    LineFree w.cloud.devinfo → Runs (msgSysnameChange (some name)) w () w₁ →
    w₂.cloud.devinfo = w₁.cloud.devinfo → Runs cloudDoUpdate w₂ r w₃ →
    ∀ fd hdr payload ret, .wrote fd hdr payload ret ∈ w₂.since w₃ →
      SixLines (sysnameInfo name w.cloud.devinfo) (CStr.read payload).bytes

section Format

variable {w w' : World P} {name : CStr}

theorem lines_bytes (ss : List CStr) :
    (lines ss).bytes = Codec.joinFields 10 (ss.map CStr.bytes) := by
  induction ss with
  | nil => rfl
  | cons s ss ih =>
    rw [List.map_cons, Codec.joinFields_cons, ← ih]
    show s.bytes ++ [10] ++ (lines ss).bytes = _
    rw [List.append_assoc, List.singleton_append]

/-- **Lines without line feeds** are what the text of them is split into. -/
theorem lines_splitOn {ss : List CStr} (h : ∀ s ∈ ss, 10 ∉ s.bytes) :
    (lines ss).bytes.splitOn 10 = ss.map CStr.bytes ++ [[]] := by
  rw [lines_bytes, Codec.splitOn_joinFields, Codec.flatMap_splitOn_eq (List.forall_mem_map.2 h)]

/-- The text of an update whose fields have no line feeds. -/
theorem updateText_sixLines {d : DevInfo P} (hd : LineFree d) (hdesc : 10 ∉ d.desc.str.bytes) :
    SixLines d (updateText d).bytes := by
  have hall : ∀ s ∈ [d.model.str, d.desc.str, d.admin.str, d.password.str, d.eip.str, d.eport.str],
      10 ∉ s.bytes := by
    simp only [List.forall_mem_cons]
    exact ⟨hd.model, hdesc, hd.admin, hd.password, hd.eip, hd.eport, List.forall_mem_nil _⟩
  exact ⟨count_lines hall, lines_splitOn hall⟩

/-- A condition on the packets of a step holds of each event in which one is written. -/
theorem Writes.of_mem {R : List Event → ℤ → CldHdr → List UInt8 → Prop} {fd ret : ℤ}
    {hdr : CldHdr} {payload : List UInt8} (h : Writes R w.trace w'.trace)
    (hmem : .wrote fd hdr payload ret ∈ w.since w') : ∃ older, R older fd hdr payload := by
  obtain ⟨es, htr⟩ : w.trace <:+ w'.trace := by
    generalize w'.trace = tr at h
    induction h with
    | refl => exact List.suffix_refl _
    | other _ _ ih => exact ih.trans (List.suffix_cons ..)
    | wrote _ _ ih => exact ih.trans (List.suffix_cons ..)
  rw [World.since_eq htr.symm] at hmem
  obtain ⟨newer, older, rfl⟩ := List.append_of_mem hmem
  rw [List.append_assoc, List.cons_append] at htr
  exact ⟨_, h.spec htr.symm (List.suffix_append ..)⟩

/-- The packets of an update carry the device information. -/
theorem cloudDoUpdate_carries {r : CommonStatus} (h : Runs cloudDoUpdate w r w') {fd ret : ℤ}
    {hdr : CldHdr} {payload : List UInt8} (hmem : .wrote fd hdr payload ret ∈ w.since w') :
    CStr.read payload = updateText w.cloud.devinfo := by
  obtain ⟨w₁, hreq, htr⟩ := (runs_cloudDoUpdate h).events_trace
  have hwrites : Writes (fun _ _ _ payload => CStr.read payload = updateText w.cloud.devinfo)
      w.trace w'.trace := by
    rw [htr]
    exact hreq.writes fun _ _ hc => hc.text_eq
  obtain ⟨-, heq⟩ := hwrites.of_mem hmem
  exact heq

/-- **The names that keep the format** are those without a line feed. -/
theorem keepsFormat_iff : KeepsFormat P name ↔ 10 ∉ name.bytes := by
  refine ⟨fun h => h.lineFree, fun hname => ⟨hname, ?_⟩⟩
  intro w w₁ w₂ w₃ r hs hd hchange hinfo hupdate fd hdr payload ret hmem
  rw [runs_msgSysnameChange] at hchange
  have hnotified : w₁.cloud.devinfo = sysnameInfo name w.cloud.devinfo := by
    rw [hchange, World.delivered, if_pos hs]
    rfl
  rw [cloudDoUpdate_carries hupdate hmem, hinfo, hnotified]
  have hother : LineFree (sysnameInfo name w.cloud.devinfo) :=
    ⟨hd.model, hd.admin, hd.password, hd.eip, hd.eport⟩
  exact updateText_sixLines hother fun h => hname (List.mem_of_mem_take h)

end Format

/-! ## The name that is handed on -/

/-- Whether an operation hands a name to the system module. -/
def Op.renames : Op P → Bool
  | .swSystemSetProductName _ => true
  | _ => false

/-- Every control packet on the path `cs` has the content `RENAME`, with the text `t` up to
a NUL. -/
def ReceivesRename (t : CStr) (cs : List (Call (Op P) (Ans P))) : Prop :=
  ∀ fd buf r, ⟨.recvPacket .control fd buf, r⟩ ∈ cs → 0 < r.1 →
    ∃ route rest, route.length = P.cldRtsize + 1 ∧
      replyPayload P r.2 = route ++ (text "RENAME\n" ++ t.bytes ++ 0 :: rest)

section Handing

variable {w w' : World P} {cs : List (Call (Op P) (Ans P))} {q : CloudM P ℤ} {name : CStr}
  {x : CommonStatus}

theorem avoids_perform {o : Op P} (h : o.renames = false) :
    (perform o).Obeys (Discipline.avoid Op.renames) () () :=
  obeys_perform (Discipline.avoid_eq h)

/-- A response hands on no name. -/
theorem avoids_respond (route answer : List UInt8) :
    (respond (P := P) route answer).Obeys (Discipline.avoid Op.renames) () () := by
  have hsending : ∀ o : Op P, o.sending →
      (Discipline.avoid Op.renames : Discipline (Op P) (Ans P) Unit) () o = some fun _ => () := by
    intro o ho
    apply Discipline.avoid_eq
    cases o <;> first | rfl | exact ho.elim
  have hpure : ∀ r : ℤ, (pure r : CloudM P ℤ).Obeys (Discipline.avoid Op.renames) () () :=
    fun _ => rfl
  unfold respond sendText
  exact (obeys_cloudSendPacket hsending _ _ _ _).bind fun _ => obeys_ite (hpure _) (hpure _)

theorem avoids_networkReadEvent (mwait : ℤ) :
    (networkReadEvent (P := P) mwait).Obeys (Discipline.avoid Op.renames) () () := by
  unfold networkReadEvent
  apply (avoids_perform rfl).bind
  intro c
  refine obeys_ite ((avoids_perform rfl).bind fun _ => rfl) ?_
  apply (avoids_perform rfl).bind
  intro r
  cases r <;> rfl

/-- The receipt of a packet hands on no name. -/
theorem avoids_receiveControl (buf : List UInt8) :
    (receiveControl (P := P) buf).Obeys (Discipline.avoid Op.renames) () () := by
  unfold receiveControl
  refine (avoids_networkReadEvent 1).bind fun event => obeys_ite ?_ rfl
  exact (avoids_perform rfl).bind fun c => avoids_perform rfl

/-- A packet that has been received was received by an operation of the path. -/
theorem steps_receiveControl {buf : List UInt8} {r : ℤ × List UInt8}
    (hs : Steps (handle P) (receiveControl buf) w cs (.ret r) w') (hpos : 0 < r.1) :
    ∃ fd, ⟨.recvPacket .control fd buf, r⟩ ∈ cs := by
  unfold receiveControl at hs
  obtain ⟨event, w₁, cs₁, cs₂, rfl, -, hrest⟩ := hs.of_bind_ret
  cases event with
  | false =>
    cases hrest
    exact absurd hpos (lt_irrefl 0)
  | true =>
    obtain ⟨c, w₂, cs₃, cs₄, rfl, -, hrecv⟩ := Steps.of_bind_ret hrest
    cases hrecv with
    | call _ hdone =>
      cases hdone
      exact ⟨c.fd, by simp⟩

/-- A path on which a name is handed on has received a packet, and hands it on while it
serves that packet. -/
theorem steps_serveControl (hs : Steps (handle P) networkDeviceControl w cs q w')
    (hname : ⟨.swSystemSetProductName name, x⟩ ∈ cs) :
    ∃ fd buf r w₁ cs₁, ⟨.recvPacket .control fd buf, r⟩ ∈ cs ∧ 0 < r.1 ∧
      Steps (handle P) (serveControl r.2) w₁ cs₁ q w' ∧
      ⟨.swSystemSetProductName name, x⟩ ∈ cs₁ := by
  rw [networkDeviceControl_eq] at hs
  obtain ⟨buf, w₁, cs₁, cs₂, rfl, -, hs, hname⟩ := hs.of_bind_mem (avoids_perform rfl) hname rfl
  obtain ⟨_, w₂, cs₃, cs₄, rfl, -, hs, hname⟩ := hs.of_bind_mem (avoids_perform rfl) hname rfl
  obtain ⟨r, w₃, cs₅, cs₆, rfl, hreceive, hs, hname⟩ :=
    hs.of_bind_mem (avoids_receiveControl buf) hname rfl
  obtain ⟨_, w₄, cs₇, cs₈, rfl, -, hs, hname⟩ := hs.of_bind_mem (avoids_perform rfl) hname rfl
  have hret : ∀ {z : ℤ}, ¬ Steps (handle P) (pure z : CloudM P ℤ) w₄ cs₈ q w' := by
    intro z hdone
    cases hdone
    cases hname
  by_cases h0 : r.1 = 0
  · rw [if_pos h0] at hs
    exact absurd hs hret
  · rw [if_neg h0] at hs
    by_cases hneg : r.1 < 0
    · rw [if_pos hneg] at hs
      exact absurd hs hret
    · rw [if_neg hneg] at hs
      have hpos : 0 < r.1 := by omega
      obtain ⟨fd, hrecv⟩ := steps_receiveControl hreceive hpos
      exact ⟨fd, buf, r, w₄, cs₈, by simp [hrecv], hpos, hs, hname⟩

/-- **The name that is handed on**: the text behind `RENAME`, up to the end of its first
line that is not empty. -/
theorem name_of_path {t : CStr} (hs : Steps (handle P) networkDeviceControl w cs q w')
    (hrecv : ReceivesRename t cs) (hname : ⟨.swSystemSetProductName name, x⟩ ∈ cs) :
    name.bytes = upToToken 10 t.bytes := by
  obtain ⟨fd, buf, r, w₁, cs₁, hmem, hpos, hserve, hname⟩ := steps_serveControl hs hname
  obtain ⟨route, rest, hlen, hp⟩ := hrecv fd buf r hmem hpos
  have hcontent : (CStr.read (r.2.drop (contentOff P))).bytes = text "RENAME\n" ++ t.bytes := by
    have hsplit : replyPayload P r.2 ++ (r.2.drop P.sizeofCldhdr).drop (sizeBytes P r.2).toNat =
        r.2.drop P.sizeofCldhdr := List.take_append_drop ..
    have hfree : 0 ∉ text "RENAME\n" ++ t.bytes := by
      rw [List.mem_append]
      exact fun h => h.elim (by decide) t.nulFree
    rw [contentOff, add_assoc, ← List.drop_drop, ← hsplit, hp, List.append_assoc, ← hlen,
      List.drop_left, List.append_assoc, List.cons_append, read_append_zero,
      read_of_nulFree hfree]
  have horder : orderOf (text "RENAME\n" ++ t.bytes) = .rename (upToToken 10 t.bytes) := rfl
  rw [serveControl_eq, hcontent, horder] at hserve
  have hread : (CStr.read (upToToken 10 t.bytes)).bytes = upToToken 10 t.bytes :=
    read_of_nulFree fun h => t.nulFree ((upToToken_front 10 t.bytes).subset h)
  cases hserve with
  | refl => cases hname
  | call _ hrest =>
    rcases List.mem_cons.1 hname with heq | hlater
    · cases heq
      exact hread
    · -- nothing else is handed on
      have hno := hrest.avoids (avoids_respond _ _) _ hlater
      cases hno

/-- **When a name keeps the format.**  The path has received one control packet, with the
content `RENAME` and the text `t`, and hands on a name. -/
theorem rename_keeps_format_iff {t : CStr}
    (hs : Steps (handle P) networkDeviceControl w cs q w') (hrecv : ReceivesRename t cs)
    (hname : ⟨.swSystemSetProductName name, x⟩ ∈ cs) :
    KeepsFormat P name ↔ t.bytes.head? ≠ some 10 := by
  rw [keepsFormat_iff, name_of_path hs hrecv hname, mem_upToToken_iff]

end Handing

/-! ## Two packets -/

/-- The packet that asks for a name, on the route `route`. -/
def renamePacket (t : List UInt8) : List UInt8 :=
  sampleEnc ⟨77, 1, 6, 0, 5⟩ ++ text "route" ++ text "RENAME\n" ++ t ++ [0, 0, 0, 0]

/-- The buffer with the packet in it. -/
def renameMemory (t : List UInt8) : List UInt8 := renamePacket t ++ List.replicate 36 1

/-- A path on which the packet is received and a name is handed on. -/
theorem exists_rename_path {t : CStr} (ht : t = CStr.lit "NEW\n" ∨ t = CStr.lit "\nNEW") :
    ∃ cs q w', Steps (handle sampleProtocol) networkDeviceControl (onlineWorld sampleProtocol)
      cs q w' ∧ ReceivesRename t cs ∧
      (⟨.recvPacket .control 3 (List.replicate 64 1), (28, renameMemory t.bytes)⟩ :
        Call (Op _) (Ans sampleProtocol)) ∈ cs ∧
      (⟨.swSystemSetProductName (CStr.read (upToToken 10 t.bytes)), .succeed⟩ :
        Call (Op _) (Ans sampleProtocol)) ∈ cs := by
  let buf : List UInt8 := List.replicate 64 1
  let mem := renameMemory t.bytes
  have hrecv : handle sampleProtocol (.recvPacket .control 3 buf)
      (.reads (renamePacket t.bytes) [.data 8, .data 20]) (onlineWorld sampleProtocol) =
        some ((28, mem), (onlineWorld sampleProtocol).log (.received .control 3 28 mem)) := by
    rcases ht with rfl | rfl
    · rfl
    · rfl
  have hserve : (serveControl mem : CloudM sampleProtocol ℤ) =
      (Order.rename (upToToken 10 t.bytes)).serve (text "route") := by
    rw [serveControl_eq]
    rcases ht with rfl | rfl
    · rfl
    · rfl
  let w₁ := (onlineWorld sampleProtocol).log (.received .control 3 28 mem)
  have hs : Steps (handle sampleProtocol) networkDeviceControl (onlineWorld sampleProtocol)
      [⟨.stack 64, buf⟩, ⟨.lock, ()⟩, ⟨.get, (onlineWorld sampleProtocol).cloud⟩,
        ⟨.select 3 1, .ready⟩, ⟨.get, (onlineWorld sampleProtocol).cloud⟩,
        ⟨.recvPacket .control 3 buf, (28, mem)⟩, ⟨.unlock, ()⟩,
        ⟨.swSystemSetProductName (CStr.read (upToToken 10 t.bytes)), .succeed⟩]
      (respond (text "route") (text "OK\n")) w₁ := by
    refine .call (i := .bytes buf) rfl (.call (i := .none) rfl (.call (i := .none) rfl ?_))
    refine .call (i := .select .ready) rfl (.call (i := .none) rfl (.call hrecv ?_))
    refine .call (i := .none) rfl ?_
    show Steps _ (serveControl mem) _ _ _ _
    rw [hserve]
    exact .call (i := .status .succeed) rfl .refl
  refine ⟨_, _, _, hs, ?_, by simp [buf, mem], by simp⟩
  intro fd buf' r hmem hpos
  have hr : r = (28, mem) := by
    simp only [List.mem_cons, Sigma.mk.injEq, List.not_mem_nil, or_false] at hmem
    rcases hmem with ⟨h, -⟩ | ⟨h, -⟩ | ⟨h, -⟩ | ⟨h, -⟩ | ⟨h, -⟩ | ⟨h, heq⟩ | ⟨h, -⟩ | ⟨h, -⟩
    all_goals cases h
    exact eq_of_heq heq
  subst hr
  refine ⟨text "route", [0, 0, 0], rfl, ?_⟩
  rcases ht with rfl | rfl
  · rfl
  · rfl

/-- A name to which the law applies: the packet has `NEW` and a line feed behind the command,
and `NEW` is handed on. -/
theorem rename_keeps_format_new : ∃ cs q w', Steps (handle sampleProtocol) networkDeviceControl
      (onlineWorld sampleProtocol) cs q w' ∧
    (⟨.recvPacket .control 3 (List.replicate 64 1), (28, renameMemory (text "NEW\n"))⟩ :
      Call (Op _) (Ans sampleProtocol)) ∈ cs ∧
    (⟨.swSystemSetProductName (CStr.lit "NEW"), .succeed⟩ :
      Call (Op _) (Ans sampleProtocol)) ∈ cs ∧
    KeepsFormat sampleProtocol (CStr.lit "NEW") := by
  obtain ⟨cs, q, w', hs, hrecv, hpacket, hname⟩ :=
    exists_rename_path (t := CStr.lit "NEW\n") (Or.inl rfl)
  exact ⟨cs, q, w', hs, hpacket, hname, (rename_keeps_format_iff hs hrecv hname).2 (by decide)⟩

/-- The name behind a line feed is handed on with the line feed. -/
theorem rename_hands_on_line_feed :
    ¬ ∀ (w w' : World sampleProtocol) (cs : List (Call (Op sampleProtocol) (Ans sampleProtocol)))
      (q : CloudM sampleProtocol ℤ) (t name : CStr) (x : CommonStatus),
      Steps (handle sampleProtocol) networkDeviceControl w cs q w' → ReceivesRename t cs →
      ⟨.swSystemSetProductName name, x⟩ ∈ cs → KeepsFormat sampleProtocol name := by
  intro hall
  obtain ⟨cs, q, w', hs, hrecv, -, hname⟩ :=
    exists_rename_path (t := CStr.lit "\nNEW") (Or.inr rfl)
  have hkeeps := hall _ _ _ _ _ _ _ hs hrecv hname
  rw [keepsFormat_iff, name_of_path hs hrecv hname] at hkeeps
  exact hkeeps (by decide)

end SwCloud
