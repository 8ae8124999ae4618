import Lpt.Cloud.Frames
import Lpt.Cloud.Framing
import Lpt.Cloud.Notices
import Lpt.Cloud.Rename

/-!
# What the server can read

The bytes that the module writes on a connection are headers and payloads, and a payload is a
text of lines.  A server that has nothing but the bytes reads the packets off the headers, and
the values of a packet off its lines.

* `Word` — what the module has to say: six kinds of packets, with their values.
* `Speaks` — which action says what, with the values of the state in which it begins.
* `OnWire` — the bytes that the calls of `tcp_write` have handed over.
* `hear` — what is read of a stream of bytes.
* `server_hears` — as long as all packets can be written the server reads exactly what the
  actions have said, packet by packet, but for the packets that have a line feed in a value.
* `server_deaf` — one packet that could not be written whole, and nothing can be read any more.
-/

namespace SwCloud

open CLib Effect Trans

variable {P : CldProtocol}

/-! ## Words -/

/-- What is said in one packet. -/
inductive Word where
  | regUsr (account username password code : CStr)
  | auth (account password id : CStr)
  | ubindev
  | bindev (id code : CStr)
  | updev (model desc admin password eip eport : CStr)
  /-- The answer to a device-control packet, with its route. -/
  | devctl (answer : CStr)
  deriving DecidableEq

namespace Word

/-- The command of the packet. -/
def cmd (P : CldProtocol) : Word → ℕ
  | .regUsr .. => P.cldcmdRegusr
  | .auth .. => P.cldcmdAuth
  | .ubindev => P.cldcmdUbindev
  | .bindev .. => P.cldcmdBindev
  | .updev .. => P.cldcmdUpdev
  | .devctl _ => P.cldcmdDevctl

/-- The values, one for each line. -/
def fields : Word → List CStr
  | .regUsr account username password code => [account, username, password, code]
  | .auth account password id => [account, password, id]
  | .bindev id code => [id, code]
  | .updev model desc admin password eip eport => [model, desc, admin, password, eip, eport]
  | .ubindev | .devctl _ => []

/-- The text of the packet. -/
def text : Word → CStr
  | .devctl answer => answer
  | x => lines x.fields

/-- No value has a line feed. -/
def LineFree (x : Word) : Prop := ∀ s ∈ x.fields, 10 ∉ s.bytes

instance (x : Word) : Decidable x.LineFree :=
  inferInstanceAs (Decidable (∀ s ∈ x.fields, 10 ∉ s.bytes))

/-- The word of a command with these values, if it has as many. -/
def ofFields (P : CldProtocol) (cmd : ℕ) : List CStr → Option Word
  | [] => if cmd = P.cldcmdUbindev then some .ubindev else none
  | [id, code] => if cmd = P.cldcmdBindev then some (.bindev id code) else none
  | [account, password, id] =>
      if cmd = P.cldcmdAuth then some (.auth account password id) else none
  | [account, username, password, code] =>
      if cmd = P.cldcmdRegusr then some (.regUsr account username password code) else none
  | [model, desc, admin, password, eip, eport] =>
      if cmd = P.cldcmdUpdev then some (.updev model desc admin password eip eport) else none
  | _ => none

/-- What is read of a packet. -/
def ofText (P : CldProtocol) (cmd : ℕ) (t : CStr) : Option Word :=
  if cmd = P.cldcmdDevctl then some (.devctl t)
  else (Codec.fieldsOf 10 t.bytes).bind fun fs => ofFields P cmd (fs.map CStr.read)

end Word

/-! ## Who says what -/

/-- The word of an `AUTH`. -/
def authWord (c : Cloud P) : Word := .auth c.account.str c.password.str c.devinfo.id.str

/-- The word of an `UPDEV`. -/
def updateWord (d : DevInfo P) : Word :=
  .updev d.model.str d.desc.str d.admin.str d.password.str d.eip.str d.eport.str

/-- The daemon listens for device-control packets. -/
def Listens (w : World P) : Prop :=
  (w.cloud.status = .connected ∧ w.cloud.binded = true) ∨
    (w.cloud.status = .init ∧ w.cloud.binded = false)

/-- A binding can be asked for. -/
def Bindable (w : World P) : Prop := w.cloud.binded = true → w.cloud.status = .broken

/-- **What an action can say** that begins in `w`. -/
inductive Speaks (w : World P) : Action → Word → Prop
  | login : w.cloud.status = .connecting → w.cloud.binded = true →
      Speaks w .daemon (authWord w.cloud)
  | update : w.cloud.status = .connecting ∨ w.cloud.status = .connected → w.cloud.binded = true →
      Speaks w .daemon (updateWord w.cloud.devinfo)
  | answer (t : CStr) : Listens w → Speaks w .daemon (.devctl t)
  /-- The server has asked for it. -/
  | released : Listens w → Speaks w .daemon .ubindev
  | register {account username password code : CStr} :
      (¬ (account.bytes = [] ∧ username.bytes = [] ∧ password.bytes = []) →
        code = md5Hex P (account ++ username ++ password)) →
      Speaks w (.regUsr (some account) (some username) (some password))
        (.regUsr account username password code)
  | bindLogin {user password devicename : CStr} : Bindable w →
      Speaks w (.bind (some user) (some password) (some devicename))
        (.auth (Field.snprintf user : Field P.cloudNameLen).str
          (Field.snprintf password : Field P.cloudNameLen).str w.cloud.devinfo.id.str)
  | bind {user password devicename code : CStr} : Bindable w →
      (w.cloud.devinfo.id.str.bytes ≠ [] → code = md5Hex P w.cloud.devinfo.id.str) →
      Speaks w (.bind (some user) (some password) (some devicename))
        (.bindev w.cloud.devinfo.id.str code)
  | bindUpdate {user password devicename : CStr} : Bindable w →
      Speaks w (.bind (some user) (some password) (some devicename))
        (updateWord (sysnameInfo devicename w.cloud.devinfo))
  | unbindLogin : w.cloud.binded = true → w.cloud.status ≠ .connected →
      Speaks w .ubind (authWord w.cloud)
  | unbind : w.cloud.binded = true → Speaks w .ubind .ubindev

/-- The packet has been said by the action `a`, which has begun in `w`. -/
def SaidBy (w : World P) (a : Action) (_ : List Event) (_ : ℤ) (hdr : CldHdr)
    (payload : List UInt8) : Prop :=
  ∃ x, Speaks w a x ∧ hdr.cmd = x.cmd P ∧ CStr.read payload = x.text

section Saying

variable {w w' v v' : World P} {a : Action} {r : CommonStatus} {x : Word}

theorem Requests.said (hq : Requests (x.cmd P) x.text v r v') (hx : Speaks w a x) :
    Writes (SaidBy w a) v.trace v'.trace :=
  hq.writes fun _ _ hc => ⟨x, hx, hc.cmd_eq, hc.text_eq⟩

theorem Auths.said (ha : Auths v r v') (hi : SameInfo w v) (hx : Speaks w a (authWord w.cloud)) :
    Writes (SaidBy w a) v.trace v'.trace := by
  unfold Auths at ha
  rw [hi.authText_eq] at ha
  exact Requests.said (x := authWord w.cloud) ha hx

theorem Updates.said {d : DevInfo P} (hu : Updates v r v') (hd : v.cloud.devinfo = d)
    (hx : Speaks w a (updateWord d)) : Writes (SaidBy w a) v.trace v'.trace := by
  obtain ⟨v₁, hq, htr⟩ := hu.events_trace
  rw [hd] at hq
  rw [htr]
  exact Requests.said (x := updateWord d) hq hx

theorem Ubinds.said (hu : Ubinds v r v') (hx : Speaks w a .ubindev) :
    Writes (SaidBy w a) v.trace v'.trace :=
  Requests.said (x := .ubindev) hu hx

theorem Control.said {n : ℤ} (hc : Control v n v') (hl : Listens w) :
    Writes (SaidBy w .daemon) v.trace v'.trace := by
  have hrecv : ∀ ret mem, Writes (SaidBy w .daemon) v.trace
      (v.log (.received .control v.cloud.fd ret mem)).trace := fun _ _ => .other .refl nofun
  cases hc with
  | idle => exact .refl
  | lost _ => exact hrecv _ _
  | ignored _ => exact hrecv _ _
  | replied _ hserved hresponds =>
    have hasked : ∀ {v₁ v₂ : World P}, Served v₁ v₂ →
        Writes (SaidBy w .daemon) v₁.trace v₂.trace := by
      rintro v₁ v₂ (- | hu | hu)
      · exact .refl
      · exact hu.said (.released hl)
      · exact hu.said (.released hl)
    have hanswered : ∀ {v₁ v₂ : World P} {n : ℤ}, Responds v₁ n v₂ →
        Writes (SaidBy w .daemon) v₁.trace v₂.trace := by
      rintro v₁ v₂ n (- | hcar)
      · exact .other .refl nofun
      · exact .wrote .refl ⟨_, .answer _ hl, hcar.cmd_eq, hcar.text_eq⟩
    exact ((hrecv _ _).trans (hasked hserved)).trans (hanswered hresponds)

theorem Polls.said (hp : Polls v v') (hl : Listens w) :
    Writes (SaidBy w .daemon) v.trace v'.trace := by
  cases hp with
  | quiet => exact .refl
  | served _ hc => exact hc.said hl
  | failed _ _ hc => exact (hc.said hl).trans (World.disconnect_writes _)

/-- What one iteration of the daemon says. -/
theorem DaemonStep.said (hd : DaemonStep w w') : Writes (SaidBy w .daemon) w.trace w'.trace := by
  cases hd with
  | initIdle hs hb hp => exact hp.said (Or.inr ⟨hs, hb⟩)
  | initBound _ _ => exact .refl
  | connectFailed _ hc _ => exact hc.effect.writes _
  | connectUnbound _ _ hc => exact hc.effect.writes _
  | authFailed hs hb hc ha _ =>
    exact (hc.effect.writes _).trans (ha.said hc.sameInfo (.login hs hb))
  | updateFailed hs hb hc ha hu _ =>
    have hi := hc.sameInfo.trans (Requests.sameInfo ha)
    exact ((hc.effect.writes _).trans (ha.said hc.sameInfo (.login hs hb))).trans
      (hu.said hi.devinfo_eq (.update (Or.inl hs) hb))
  | connected hs hb hc ha hu =>
    have hi := hc.sameInfo.trans (Requests.sameInfo ha)
    exact ((hc.effect.writes _).trans (ha.said hc.sameInfo (.login hs hb))).trans
      (hu.said hi.devinfo_eq (.update (Or.inl hs) hb))
  | dropUnbound _ _ => exact .refl
  | upToDate hs hb _ hp => exact hp.said (Or.inl ⟨hs, hb⟩)
  | refreshFailed hs hb _ _ hu _ => exact hu.said rfl (.update (Or.inr hs) hb)
  | refreshed hs hb _ _ hu hp =>
    have hsent : Writes (SaidBy w .daemon) w.trace _ := hu.said rfl (.update (Or.inr hs) hb)
    exact hsent.trans (hp.said (Or.inl ⟨hs, hb⟩))
  | gaveUp _ _ => exact w.disconnect_writes
  | waiting _ _ _ _ => exact w.disconnect_writes
  | retry _ _ _ _ => exact w.disconnect_writes
  | broken _ => exact w.disconnect_writes
  | restart _ => exact w.disconnect_writes

theorem UBindOnline.said (hu : UBindOnline v r v') (hb : w.cloud.binded = true) :
    Writes (SaidBy w .ubind) v.trace v'.trace := by
  cases hu with
  | acknowledged hu => exact (hu.said (.unbind hb)).trans (World.disconnect_writes (.unbound _ _))
  | failed hu _ => exact (hu.said (.unbind hb)).trans (World.setStatus_disconnect_writes _ _)

theorem UBindStep.said (hu : UBindStep w r w') : Writes (SaidBy w .ubind) w.trace w'.trace := by
  cases hu with
  | notBound _ => exact .refl
  | noConnection _ _ hc _ =>
    exact (hc.effect.writes _).trans (World.setStatus_disconnect_writes _ _)
  | authFailed hb hs hc ha _ =>
    exact ((hc.effect.writes _).trans (ha.said hc.sameInfo (.unbindLogin hb hs))).trans
      (World.setStatus_disconnect_writes _ _)
  | offline hb hs hc ha ho =>
    exact ((hc.effect.writes _).trans (ha.said hc.sameInfo (.unbindLogin hb hs))).trans
      (ho.said hb)
  | online hb _ ho => exact ho.said hb

/-! ### Requests with a check code -/

theorem runs_cloudDoBind_text (h : Runs cloudDoBind v r v') :
    ∃ code, Requests P.cldcmdBindev
      (lines [v.cloud.devinfo.id.str, CStr.read (swMD5Code P v.cloud.devinfo.id.str code).2])
      v r v' := by
  simp only [cloudDoBind, runs_bind, runs_stack, runs_getCloud] at h
  obtain ⟨code, _, ⟨-, rfl⟩, _, _, ⟨rfl, rfl⟩, h⟩ := h
  exact ⟨code, runs_cloudRequest (fun _ => by simp) h⟩

/-- The check code of a `BINDEV`. -/
theorem cloudDoBind_said (user password devicename : CStr) (h : Runs cloudDoBind v r v')
    (hid : v.cloud.devinfo.id = w.cloud.devinfo.id) (hg : Bindable w) :
    Writes (SaidBy w (.bind (some user) (some password) (some devicename))) v.trace v'.trace := by
  obtain ⟨code, hq⟩ := runs_cloudDoBind_text h
  rw [hid] at hq
  refine Requests.said (x := .bindev _ _) hq (.bind hg fun hne => ?_)
  rw [read_swMD5Code, if_neg hne]

theorem swCloudRegUsr_said {account username password : CStr}
    (h : Runs (swCloudRegUsr (some account) (some username) (some password)) w r w') :
    Writes (SaidBy w (.regUsr (some account) (some username) (some password))) w.trace
      w'.trace := by
  refine swCloudRegUsr_writes (fun code _ _ hdr payload hc => ?_) h
  by_cases hne : account.bytes = [] ∧ username.bytes = [] ∧ password.bytes = []
  · exact ⟨_, .register fun h => absurd hne h, hc.cmd_eq, hc.text_eq⟩
  · exact ⟨_, .register fun _ => rfl, hc.cmd_eq, hc.text_eq.trans (regusrText_eq hne hc.fits)⟩

/-- What `swCloudBind` says on its connection. -/
theorem bindConnected_said {user password devicename : CStr} (hg : Bindable w)
    (hd : v.cloud.devinfo = w.cloud.devinfo)
    (h : Runs (bindConnected user password devicename) v r v') :
    Writes (SaidBy w (.bind (some user) (some password) (some devicename))) v.trace v'.trace := by
  simp only [bindConnected, runs_bind, runs_modifyCloud, runs_ite] at h
  obtain ⟨_, _, rfl, _, _, rfl, _, _, rfl, e, v₁, ha, h⟩ := h
  have ha : Auths (v.credited user password devicename) e v₁ := runs_cloudDoAuth ha
  have hinfo : v₁.cloud.devinfo = sysnameInfo devicename w.cloud.devinfo := by
    rw [(Requests.sameInfo ha).devinfo_eq, World.cloud_credited, hd]
  have hlogin : Writes (SaidBy w (.bind (some user) (some password) (some devicename)))
      (v.credited user password devicename).trace v₁.trace := by
    refine Requests.said (x := authWord (v.credited user password devicename).cloud) ha ?_
    have hid : (v.credited user password devicename).cloud.devinfo.id = w.cloud.devinfo.id := by
      rw [← hd]
      rfl
    unfold authWord
    rw [hid]
    exact .bindLogin hg
  rcases h with ⟨rfl, e', v₂, hb, h⟩ | ⟨-, h⟩
  · have hid : v₁.cloud.devinfo.id = w.cloud.devinfo.id := by
      rw [hinfo]
      rfl
    have hbind := cloudDoBind_said user password devicename hb hid hg
    rcases h with ⟨rfl, h⟩ | ⟨-, h⟩
    · obtain ⟨-, r', v₃, hu, rfl⟩ := runs_bindSucceeded h
      obtain ⟨code, hq⟩ := runs_cloudDoBind hb
      exact (hlogin.trans hbind).trans
        (hu.said (hq.sameInfo.devinfo_eq.trans hinfo) (.bindUpdate hg))
    · obtain ⟨-, rfl⟩ := runs_bindFailed h
      exact (hlogin.trans hbind).trans (World.disconnect_writes _)
  · obtain ⟨-, rfl⟩ := runs_bindFailed h
    exact hlogin.trans (World.disconnect_writes _)

theorem bindConnect_said {user password devicename : CStr} (hg : Bindable w)
    (h : Runs (bindConnect user password devicename) w r w') :
    Writes (SaidBy w (.bind (some user) (some password) (some devicename))) w.trace
      w'.trace := by
  simp only [bindConnect, runs_bind, runs_cloudDoDisconnect, runs_ite, runs_unlock, runs_pure] at h
  obtain ⟨_, _, rfl, e, w₁, hc, h⟩ := h
  have hc := runs_cloudDoConnect hc
  refine (w.disconnect_writes.trans (hc.effect.writes _)).trans ?_
  rcases h with ⟨rfl, e', w₂, h, _, _, rfl, rfl, rfl⟩ | ⟨-, _, _, rfl, _, _, rfl, rfl, rfl⟩
  · exact bindConnected_said hg (w.disconnect_sameInfo.trans hc.sameInfo).devinfo_eq h
  · exact World.disconnect_writes _

theorem swCloudBind_said {user password devicename : CStr}
    (h : Runs (swCloudBind (some user) (some password) (some devicename)) w r w') :
    Writes (SaidBy w (.bind (some user) (some password) (some devicename))) w.trace
      w'.trace := by
  simp only [swCloudBind, runs_bind, runs_lock, runs_getCloud, runs_ite, runs_cloudGetStatus,
    runs_unlock, runs_pure] at h
  obtain ⟨_, _, rfl, _, w, ⟨rfl, rfl⟩, ⟨-, _, _, ⟨rfl, rfl⟩, ⟨-, _, _, rfl, rfl, rfl⟩ |
    ⟨hs, h⟩⟩ | ⟨hb, h⟩⟩ := h
  · exact .refl
  · exact bindConnect_said (fun _ => not_not.1 hs) h
  · exact bindConnect_said (fun hb' => absurd hb' hb) h

/-- **Every packet of a step** has been said by it. -/
theorem Step.said (h : Step w a w') : Writes (SaidBy w a) w.trace w'.trace := by
  have hm := Step.moves h
  cases hm with
  | daemon hd => exact hd.said
  | notice _ _ => exact .refl
  | restart _ => exact .refl
  | ignored _ _ => exact .refl
  | regUsr _ =>
    obtain ⟨r, _, h, -, rfl⟩ := runs_bind.1 h
    exact swCloudRegUsr_said h
  | bind _ =>
    obtain ⟨r, _, h, -, rfl⟩ := runs_bind.1 h
    exact swCloudBind_said h
  | ubind hu => exact hu.said
  | ping =>
    rw [World.pinged]
    split <;> exact .refl

end Saying

/-! ## Reading words -/

section Words

variable {x y : Word} {gs : List CStr} {cmd : ℕ}

theorem map_read_bytes (ss : List CStr) : (ss.map CStr.bytes).map CStr.read = ss := by
  rw [List.map_map]
  exact List.map_id'' (fun s => CStr.ext (read_of_nulFree s.nulFree)) ss

namespace Word

/-- Words of one command have as many values. -/
theorem length_fields_eq (h : x.cmd P = y.cmd P) : x.fields.length = y.fields.length := by
  have hne := P.cmds_ne
  cases x <;> cases y <;> first | rfl | simp_all [cmd]

/-- What is read has these values and this command. -/
theorem ofFields_spec (h : ofFields P cmd gs = some x) : x.cmd P = cmd ∧ x.fields = gs := by
  have hite : ∀ {c : Prop} [Decidable c] {y : Word}, (if c then some y else none) = some x →
      c ∧ y = x := by
    intro c _ y hy
    split_ifs at hy with hc
    exact ⟨hc, Option.some.inj hy⟩
  unfold ofFields at h
  split at h
  case h_6 => cases h
  all_goals
    obtain ⟨rfl, rfl⟩ := hite h
    exact ⟨rfl, rfl⟩

theorem ofFields_fields (hx : x.cmd P ≠ P.cldcmdDevctl) :
    ofFields P (x.cmd P) x.fields = some x := by
  cases x with
  | devctl answer => exact absurd rfl hx
  | _ => exact if_pos rfl

theorem text_bytes (hx : x.cmd P ≠ P.cldcmdDevctl) :
    x.text.bytes = Codec.joinFields 10 (x.fields.map CStr.bytes) := by
  cases x with
  | devctl answer => exact absurd rfl hx
  | _ => exact lines_bytes _

/-- **What is read of a word** is the word, if its values have no line feeds.  With one there
are more values than a word of the command has. -/
theorem ofText_text (P : CldProtocol) (x : Word) :
    ofText P (x.cmd P) x.text = if x.LineFree then some x else none := by
  unfold ofText
  by_cases hx : x.cmd P = P.cldcmdDevctl
  · cases x with
    | devctl answer =>
      have hfree : (devctl answer).LineFree := fun s hs => absurd hs List.not_mem_nil
      rw [if_pos hx, if_pos hfree]
      rfl
    | _ =>
      have hne := P.cmds_ne
      simp_all [cmd]
  rw [if_neg hx, text_bytes hx, Codec.fieldsOf_joinFields, Option.bind_some]
  have hfree : x.LineFree ↔ ∀ f ∈ x.fields.map CStr.bytes, 10 ∉ f := by
    rw [List.forall_mem_map, LineFree]
  split_ifs with h
  · rw [Codec.flatMap_splitOn_eq (hfree.1 h), map_read_bytes, ofFields_fields hx]
  · refine Option.eq_none_iff_forall_ne_some.2 fun y hy => h (hfree.2 ?_)
    obtain ⟨hcmd, hfields⟩ := ofFields_spec hy
    have hlen := length_fields_eq hcmd
    rw [hfields, List.length_map] at hlen
    rw [← Codec.length_flatMap_splitOn_iff, hlen, List.length_map]

end Word

end Words

/-! ## The wire -/

/-- The packet that was to be written. -/
def Event.packet : Event → Option (CldHdr × List UInt8)
  | .wrote _ hdr payload _ => some (hdr, payload)
  | _ => none

/-- If a packet was written, `tcp_write` has reported success. -/
def Event.Succeeds : Event → Prop
  | .wrote _ _ _ ret => ret = 0
  | _ => True

instance (e : Event) : Decidable e.Succeeds := by
  cases e <;> first | exact inferInstanceAs (Decidable (_ = _)) | exact .isTrue trivial

/-- The event has handed these bytes to the kernel. -/
def Event.Leaves (P : CldProtocol) : Event → List UInt8 → Prop
  | .wrote _ hdr payload ret, bs =>
      ∃ es r, tcpWrite (P.enc hdr ++ payload) es = some r ∧ r.ret = ret ∧ r.bytes = bs
  | _, bs => bs = []

/-- The events, newest first, have put these bytes on the wire. -/
inductive OnWire (P : CldProtocol) : List Event → List UInt8 → Prop
  | nil : OnWire P [] []
  | cons {e : Event} {es : List Event} {bs b : List UInt8} :
      OnWire P es bs → e.Leaves P b → OnWire P (e :: es) (bs ++ b)

/-- The packets of the events, oldest first. -/
def packets (es : List Event) : List (CldHdr × List UInt8) := es.reverse.filterMap Event.packet

/-- The reader's view: the header tells how many bytes belong to the payload, and the payload
is a text. -/
def frameCodec (P : CldProtocol) : Codec (CldHdr × List UInt8) (ℕ × CStr) UInt8 where
  Valid p := Framed P p.1 p.2 ∧ (P.dec (P.enc p.1)).cmd = p.1.cmd ∧
    (P.dec (P.enc p.1)).size = p.1.size
  seen p := (p.1.cmd, CStr.read p.2)
  enc p := P.enc p.1 ++ p.2
  dec bs :=
    let hdr := P.dec (bs.take P.sizeofCldhdr)
    let n := (hdr.size * 4).toNat
    if bs.length < P.sizeofCldhdr + n then none
    else some ((hdr.cmd, CStr.read ((bs.drop P.sizeofCldhdr).take n)),
      bs.drop (P.sizeofCldhdr + n))
  enc_ne_nil p _ h := by
    have hlen := P.enc_length p.1
    rw [(List.append_eq_nil_iff.1 h).1] at hlen
    exact absurd hlen P.sizeofCldhdr_pos.ne
  dec_enc p rest hp := by
    obtain ⟨hframed, hcmd, hsize⟩ := hp
    have hn : (p.1.size * 4).toNat = p.2.length := by
      rw [hframed.size_eq, Int.toNat_natCast]
    have htake : (P.enc p.1 ++ p.2 ++ rest).take P.sizeofCldhdr = P.enc p.1 := by
      rw [List.append_assoc, List.take_left' (P.enc_length _)]
    have hdrop : (P.enc p.1 ++ p.2 ++ rest).drop P.sizeofCldhdr = p.2 ++ rest := by
      rw [List.append_assoc, List.drop_left' (P.enc_length _)]
    simp only [htake, hdrop, hsize, hcmd, hn, ← List.drop_drop]
    rw [List.take_left' rfl, List.drop_left' rfl, if_neg]
    rw [List.length_append, List.length_append, P.enc_length]
    omega

/-- **What the server hears**: for each packet its word, if it can make one of it. -/
def hear (P : CldProtocol) (bs : List UInt8) : Option (List (Option Word)) :=
  ((frameCodec P).decodeAll bs).map (List.map fun p => Word.ofText P p.1 p.2)

/-- The fields of the header are wide enough for the commands and the sizes of packets. -/
def HeadersRead (P : CldProtocol) : Prop :=
  ∀ (hdr : CldHdr) (payload : List UInt8) (x : Word), Framed P hdr payload →
    hdr.cmd = x.cmd P →
    (P.dec (P.enc hdr)).cmd = hdr.cmd ∧ (P.dec (P.enc hdr)).size = hdr.size

section Wire

variable {es : List Event} {bs : List UInt8}

theorem mem_packets {p : CldHdr × List UInt8} (h : p ∈ packets es) :
    ∃ fd ret, .wrote fd p.1 p.2 ret ∈ es := by
  obtain ⟨e, he, hp⟩ := List.mem_filterMap.1 h
  cases e with
  | wrote fd hdr payload ret =>
    cases hp
    exact ⟨fd, ret, List.mem_reverse.1 he⟩
  | _ => cases hp

/-- One call of `write` can take all. -/
theorem tcpWrite_once (data : List UInt8) :
    tcpWrite data [.sent data.length] = some ⟨0, data, []⟩ := by
  unfold tcpWrite tcpWriteFrom
  simp only [List.drop_zero, List.take_length, zero_add, lt_irrefl, if_false]

/-- A success leaves the whole packet. -/
theorem Event.leaves_iff {e : Event} {b : List UInt8} (he : e.Succeeds) :
    e.Leaves P b ↔ b = e.packet.toList.flatMap (frameCodec P).enc := by
  cases e with
  | wrote fd hdr payload ret =>
    obtain rfl : ret = 0 := he
    have hone : (Event.wrote fd hdr payload 0).packet.toList.flatMap (frameCodec P).enc =
        P.enc hdr ++ payload := List.flatMap_singleton _ _
    rw [hone]
    constructor
    · rintro ⟨es, r, hr, hret, rfl⟩
      rcases tcpWriteFrom_cases hr with ⟨-, hbytes⟩ | ⟨hfail, -⟩
      · exact hbytes
      · rw [hfail] at hret
        cases hret
    · rintro rfl
      exact ⟨_, _, tcpWrite_once _, rfl, rfl⟩
  | _ => exact Iff.rfl

/-- What each event has handed over is on the wire. -/
theorem onWire_flatMap {g : Event → List UInt8} (hg : ∀ e ∈ es, e.Leaves P (g e)) :
    OnWire P es (es.reverse.flatMap g) := by
  induction es with
  | nil => exact .nil
  | cons e es ih =>
    obtain ⟨he, hes⟩ := List.forall_mem_cons.1 hg
    rw [List.reverse_cons, List.flatMap_append, List.flatMap_singleton]
    exact .cons (ih hes) he

/-- The bytes of a connection on which every `tcp_write` succeeds. -/
theorem onWire_iff (hs : ∀ e ∈ es, e.Succeeds) :
    OnWire P es bs ↔ bs = (packets es).flatMap (frameCodec P).enc := by
  have hpackets : ∀ es : List Event, (packets es).flatMap (frameCodec P).enc =
      es.reverse.flatMap fun e => e.packet.toList.flatMap (frameCodec P).enc := by
    intro es
    unfold packets
    rw [List.filterMap_eq_flatMap_toList, List.flatMap_assoc]
  rw [hpackets]
  constructor
  · intro hw
    induction hw with
    | nil => rfl
    | cons _ hb ih =>
      obtain ⟨he, hs⟩ := List.forall_mem_cons.1 hs
      rw [ih hs, (Event.leaves_iff he).1 hb, List.reverse_cons, List.flatMap_append,
        List.flatMap_singleton]
  · rintro rfl
    exact onWire_flatMap fun e he => (Event.leaves_iff (hs e he)).2 rfl

end Wire

/-! ## The runs -/

section Runs

variable {f : Conf P} {i : SysInfo P} {h : List (Move (World P) Action)} {w : World P}
  {tr tr' : List Event} {fd ret : ℤ} {hdr : CldHdr} {payload bs : List UInt8}

/-- A packet of the record is an old one, or it meets the condition. -/
theorem Writes.mem_cases {R : List Event → ℤ → CldHdr → List UInt8 → Prop} (hw : Writes R tr tr')
    (he : .wrote fd hdr payload ret ∈ tr') :
    .wrote fd hdr payload ret ∈ tr ∨ ∃ older, R older fd hdr payload := by
  induction hw with
  | refl => exact Or.inl he
  | other _ hne ih =>
    rcases List.mem_cons.1 he with heq | he
    · exact absurd heq.symm (hne _ _ _ _)
    · exact ih he
  | wrote _ hR ih =>
    rcases List.mem_cons.1 he with heq | he
    · cases heq
      exact Or.inr ⟨_, hR⟩
    · exact ih he

/-- Every packet of a run is a frame. -/
theorem Run.framed (hr : Run f i h w) (he : .wrote fd hdr payload ret ∈ w.trace) :
    Framed P hdr payload := by
  induction hr with
  | start => cases he
  | snoc _ hs ih =>
    rcases (Action.frames _ _ _ _ hs).mem_cases he with he | ⟨-, hframed⟩
    · exact ih he
    · exact hframed

/-- Every packet of a run has been said by one of its steps. -/
theorem Run.said (hr : Run f i h w) (he : .wrote fd hdr payload ret ∈ w.trace) :
    ∃ x, (∃ m ∈ h, Speaks m.pre m.label x) ∧ hdr.cmd = x.cmd P ∧ CStr.read payload = x.text := by
  induction hr with
  | start => cases he
  | snoc _ hs ih =>
    rcases (Step.said hs).mem_cases he with he | ⟨-, x, hx, hsaid⟩
    · obtain ⟨x, ⟨m, hm, hx⟩, hsaid⟩ := ih he
      exact ⟨x, ⟨m, List.mem_cons_of_mem _ hm, hx⟩, hsaid⟩
    · exact ⟨x, ⟨_, List.mem_cons_self .., hx⟩, hsaid⟩

/-- The words of packets that have all been said. -/
theorem exists_words {Q : Word → Prop} {ps : List (CldHdr × List UInt8)}
    (hps : ∀ p ∈ ps, ∃ x : Word, Q x ∧ p.1.cmd = x.cmd P ∧ CStr.read p.2 = x.text) :
    ∃ xs : List Word, (∀ x ∈ xs, Q x) ∧
      ps.map (frameCodec P).seen = xs.map fun x => (x.cmd P, x.text) := by
  induction ps with
  | nil => exact ⟨[], fun _ hx => absurd hx List.not_mem_nil, rfl⟩
  | cons p ps ih =>
    obtain ⟨⟨x, hx, hcmd, htext⟩, hps⟩ := List.forall_mem_cons.1 hps
    obtain ⟨xs, hxs, heq⟩ := ih hps
    refine ⟨x :: xs, List.forall_mem_cons.2 ⟨hx, hxs⟩, ?_⟩
    rw [List.map_cons, List.map_cons, heq]
    show (p.1.cmd, CStr.read p.2) :: _ = _
    rw [hcmd, htext]

/-- **The server hears what has been said**, and nothing else: at any moment of a run, if all
packets on the connection could be written, the bytes on it are read as the words of the actions,
packet by packet, with those left out that have a line feed in a value. -/
theorem server_hears (hP : HeadersRead P) (hr : Run f i h w) (htr : tr <:+ w.trace)
    (hs : ∀ e ∈ conn tr, e.Succeeds) (hw : OnWire P (conn tr) bs) :
    ∃ xs : List Word, (∀ x ∈ xs, ∃ m ∈ h, Speaks m.pre m.label x) ∧
      (packets (conn tr)).map (fun p => (p.1.cmd, CStr.read p.2)) =
        xs.map (fun x => (x.cmd P, x.text)) ∧
      hear P bs = some (xs.map fun x => if x.LineFree then some x else none) := by
  have hmem : ∀ p ∈ packets (conn tr), ∃ fd ret, .wrote fd p.1 p.2 ret ∈ w.trace := by
    intro p hp
    obtain ⟨fd, ret, he⟩ := mem_packets hp
    exact ⟨fd, ret, htr.subset ((List.takeWhile_sublist _).subset he)⟩
  have hsaid : ∀ p ∈ packets (conn tr), ∃ x, (∃ m ∈ h, Speaks m.pre m.label x) ∧
      p.1.cmd = x.cmd P ∧ CStr.read p.2 = x.text := by
    intro p hp
    obtain ⟨fd, ret, he⟩ := hmem p hp
    exact Run.said hr he
  have hvalid : ∀ p ∈ packets (conn tr), (frameCodec P).Valid p := by
    intro p hp
    obtain ⟨fd, ret, he⟩ := hmem p hp
    obtain ⟨x, -, hcmd, -⟩ := hsaid p hp
    exact ⟨Run.framed hr he, hP _ _ x (Run.framed hr he) hcmd⟩
  obtain ⟨xs, hxs, hseen⟩ := exists_words hsaid
  refine ⟨xs, hxs, hseen, ?_⟩
  unfold hear
  rw [(onWire_iff hs).1 hw, Codec.decodeAll_flatMap hvalid, hseen, Option.map_some, List.map_map]
  exact congrArg some (List.map_congr_left fun x _ => Word.ofText_text P x)

/-- The flags are not read. -/
theorem headersRead_sample : HeadersRead sampleProtocol := by
  intro hdr payload x hframed hcmd
  have hlow : hdr.cmd < 256 := by
    have hcodes : x.cmd sampleProtocol ≤ 6 := by cases x <;> simp [Word.cmd, sampleProtocol]
    omega
  have hmagic : hdr.magic = 77 := hframed.magic_eq
  have hver : hdr.ver = 1 := hframed.ver_eq
  have hsize := hframed.size_eq
  have hlen : 8 + payload.length ≤ 64 + 3 := hframed.length_le
  have hflags : UInt8.ofNat (hdr.flags % 256) = UInt8.ofNat hdr.flags := UInt8.ofNat_mod_size
  have henc : sampleEnc hdr = sampleEnc { hdr with flags := hdr.flags % 256 } := by
    rw [sampleEnc, sampleEnc, hflags]
  have hdec : sampleDec (sampleEnc hdr) = { hdr with flags := hdr.flags % 256 } := by
    rw [henc]
    refine sampleDec_enc _ ⟨?_, ?_, hlow, Nat.mod_lt _ (by decide), ?_, ?_⟩ <;> simp only <;> omega
  show (sampleDec (sampleEnc hdr)).cmd = _ ∧ (sampleDec (sampleEnc hdr)).size = _
  rw [hdec]
  exact ⟨rfl, rfl⟩

/-- A binding: an `AUTH`, a `BINDEV` and an `UPDEV` are heard. -/
theorem server_hears_bind : ∃ (h : List (Move (World sampleProtocol) Action))
    (w : World sampleProtocol) (bs : List UInt8) (xs : List Word),
    OnWire sampleProtocol (conn w.trace) bs ∧ xs.length = 3 ∧
      (∀ x ∈ xs, ∃ m ∈ h, Speaks m.pre m.label x) ∧
      hear sampleProtocol bs = some (xs.map fun x => if x.LineFree then some x else none) := by
  obtain ⟨h, w, hr, hs, hlen⟩ := exists_run (sampleConf (CStr.lit "") (CStr.lit "")) sampleInfo
    [(.bind (some (CStr.lit "u")) (some (CStr.lit "p")) (some (CStr.lit "n")), bindInputs 3)]
    (fun r => (∀ e ∈ conn r.2.trace, e.Succeeds) ∧ (packets (conn r.2.trace)).length = 3)
    (by decide +kernel)
  have hw := (onWire_iff (P := sampleProtocol) hs).2 rfl
  obtain ⟨xs, hxs, hseen, hheard⟩ := server_hears headersRead_sample hr List.suffix_rfl hs hw
  have hcount := congrArg List.length hseen
  rw [List.length_map, List.length_map, hlen] at hcount
  exact ⟨h, w, _, xs, hw, hcount.symm, hxs, hheard⟩

/-- The bytes of a packet whose first `write` has taken its header, and whose second has failed
if any has. -/
def Event.cutBytes : Event → List UInt8
  | .wrote _ hdr payload ret => if ret = 0 then sampleEnc hdr ++ payload else sampleEnc hdr
  | _ => []

/-- There is a payload to be cut off. -/
def Event.CanCut : Event → Prop
  | .wrote _ _ payload ret => ret = 0 ∨ (ret = -1 ∧ payload ≠ [])
  | _ => True

instance (e : Event) : Decidable e.CanCut := by
  cases e <;> first | exact inferInstanceAs (Decidable (_ ∨ _)) | exact .isTrue trivial

theorem Event.leaves_cutBytes {e : Event} (he : e.CanCut) :
    e.Leaves sampleProtocol e.cutBytes := by
  cases e with
  | wrote fd hdr payload ret =>
    rcases he with rfl | ⟨rfl, hne⟩
    · exact ⟨_, _, tcpWrite_once _, rfl, rfl⟩
    · have hcut : tcpWrite (sampleEnc hdr ++ payload) [.sent 8, .err] =
          some ⟨-1, sampleEnc hdr, []⟩ := by
        cases payload with
        | nil => exact absurd rfl hne
        | cons c payload => rfl
      exact ⟨_, _, hcut, rfl, rfl⟩
  | _ => rfl

/-- The condition cannot be left out: a `REGUSR` is cut off behind its header, the connection
goes on being used, and what has been written on it cannot be read. -/
theorem server_deaf : ∃ (h : List (Move (World sampleProtocol) Action))
    (w : World sampleProtocol) (bs : List UInt8),
    Run (sampleConf (CStr.lit "a") (CStr.lit "p")) sampleInfo h w ∧
      w.cloud.status = .connected ∧ OnWire sampleProtocol (conn w.trace) bs ∧
      hear sampleProtocol bs = none := by
  obtain ⟨h, w, hr, hcut, hs, hdeaf⟩ := exists_run (sampleConf (CStr.lit "a") (CStr.lit "p"))
    sampleInfo
    [(.daemon, []), (.daemon, connectedInputs 3),
      (.regUsr (some (CStr.lit "b")) (some (CStr.lit "c")) (some (CStr.lit "d")),
        [.bytes (List.replicate 36 0), .bytes [], .writes [.sent 8, .err]]),
      (.sysnameChange (some (CStr.lit "n")), []),
      (.daemon, replyInputs (CStr.lit "OK") ++ [.select .timeout])]
    (fun r => (∀ e ∈ conn r.2.trace, e.CanCut) ∧ r.2.cloud.status = .connected ∧
      hear sampleProtocol ((conn r.2.trace).reverse.flatMap Event.cutBytes) = none)
    (by decide +kernel)
  exact ⟨h, w, _, hr, hs, onWire_flatMap fun e he => e.leaves_cutBytes (hcut e he), hdeaf⟩

end Runs

end SwCloud
