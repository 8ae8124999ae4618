import Lpt.Base.Lines
import Lpt.Cloud.Sent

/-!
# Notifications and what the server is told

A notification is stored if it arrives while the status is `CONNECTED`, and dropped
otherwise; a `swCloudBind` that reaches its connected branch stores the name it was given.
So the device information is always what the latest stored notification of each kind
said, and every `UPDEV` carries that, over however many connections.

* `nameNotice`, `passwordNotice`, `addressNotice` — the value a step stores, by kind.
* `Reported` — the device information agrees with the latest of them.
* `updates_carry_latest` — it always does, and so does what is sent.
-/

namespace SwCloud

open CLib Effect Trans

variable {P : CldProtocol}

/-! ## The address -/

/-- The part of an address before the first colon. -/
def addrIp (t : CStr) : CStr :=
  if 58 ∈ t.bytes then t.take (t.bytes.idxOf 58) else CStr.lit "null"

/-- The part of an address after the first colon. -/
def addrPort (t : CStr) : CStr :=
  if 58 ∈ t.bytes then t.drop (t.bytes.idxOf 58 + 1) else CStr.lit "null"

/-- What is stored of an address. -/
theorem upnpInfo_eq (t : CStr) (d : DevInfo P) : upnpInfo (t.bytes ++ [0]) d =
    { d with eip := .snprintf (addrIp t), eport := .snprintf (addrPort t) } := by
  have hfind : strchr (t.bytes ++ [0]) 0 58 = find [58] t.bytes := by
    rw [strchr, strstr, List.drop_zero, CStr.read_append_nul]
    cases find [58] t.bytes <;> simp
  rw [upnpInfo, hfind, addrIp, addrPort]
  by_cases h : 58 ∈ t.bytes
  · obtain ⟨a, b, hab, ha⟩ := List.eq_append_cons_of_mem h
    have h0 : 0 ∉ a ∧ 0 ∉ b := by
      have := t.nulFree
      rw [hab] at this
      simp only [List.mem_append, List.mem_cons, not_or] at this
      exact ⟨this.1, this.2.2⟩
    have hidx : t.bytes.idxOf 58 = a.length := by
      rw [hab, List.idxOf_append_of_notMem ha, List.idxOf_cons_self, Nat.add_zero]
    have hm : store (t.bytes ++ [0]) a.length [0] = a ++ 0 :: (b ++ [0]) := by
      rw [hab, List.append_assoc, List.cons_append, store_append_cons]
    have hip : CStr.read (a ++ 0 :: (b ++ [0])) = t.take a.length := by
      apply CStr.ext
      rw [read_append h0.1, CStr.bytes_take, hab, List.take_left]
      simp [read_bytes]
    have hport :
        CStr.read ((a ++ 0 :: (b ++ [0])).drop (a.length + 1)) = t.drop (a.length + 1) := by
      apply CStr.ext
      rw [CStr.bytes_drop, hab, List.drop_length_add_append, List.drop_length_add_append]
      exact (read_append h0.2 _).trans (List.append_nil b)
    rw [if_pos h, if_pos h, hidx, hab, find_singleton ha, ← hab]
    simp only [hm, hip, hport]
  · have hn : find [58] t.bytes = none := by
      rw [← Option.not_isSome_iff_eq_none, find_isSome_iff]
      exact fun hn => h (hn.subset (List.mem_cons_self ..))
    rw [if_neg h, if_neg h, hn]

/-! ## What a step stores -/

/-- The name that the step `m` stores. -/
def nameNotice (m : Move (World P) Action) : Option CStr :=
  match m.label with
  | .sysnameChange (some arg) => if m.pre.cloud.status = .connected then some arg else none
  | .bind (some _) (some _) (some devicename) =>
      if m.pre.greeted m.post then some devicename else none
  | _ => none

/-- The password that the step `m` stores. -/
def passwordNotice (m : Move (World P) Action) : Option CStr :=
  match m.label with
  | .passwordChange (some arg) => if m.pre.cloud.status = .connected then some arg else none
  | _ => none

/-- The address that the step `m` stores, cut to the buffer of the handler. -/
def addressNotice (m : Move (World P) Action) : Option CStr :=
  match m.label with
  | .upnpChange (some arg) =>
      if m.pre.cloud.status = .connected then some (arg.take 23) else none
  | _ => none

/-- The latest value of one kind, or else the one the module has started with. -/
def latest (notice : Move (World P) Action → Option CStr) (first : CStr)
    (h : List (Move (World P) Action)) : CStr :=
  (h.findSome? notice).getD first

/-- The device information `d` is what the steps `h` have stored, each kind cut to the size
of its field, and otherwise as at the start. -/
structure Reported (s : SysInfo P) (h : List (Move (World P) Action)) (d : DevInfo P) : Prop where
  id_eq : d.id = s.netconfWireMac
  model_eq : d.model = s.systemProductModel
  admin_eq : d.admin = s.umDefaultAdminName
  desc_eq : d.desc = .snprintf (latest nameNotice s.systemProductName.str h)
  password_eq : d.password = .snprintf (latest passwordNotice s.umDefaultAdminPassword.str h)
  eip_eq : d.eip = .snprintf (addrIp (latest addressNotice s.upnpAddr h))
  eport_eq : d.eport = .snprintf (addrPort (latest addressNotice s.upnpAddr h))

section Steps

variable {s : SysInfo P} {h : List (Move (World P) Action)} {d d' : DevInfo P}
  {m : Move (World P) Action} {w w' : World P} {r : CommonStatus}
  {notice : Move (World P) Action → Option CStr} {first : CStr}

theorem latest_cons_none (hn : notice m = none) : latest notice first (m :: h) =
    latest notice first h := by
  rw [latest, List.findSome?_cons, hn, latest]

theorem latest_cons_some {v : CStr} (hn : notice m = some v) :
    latest notice first (m :: h) = v := by
  rw [latest, List.findSome?_cons, hn]
  rfl

/-- A step that stores nothing. -/
theorem Reported.keep (hr : Reported s h d) (h₁ : nameNotice m = none)
    (h₂ : passwordNotice m = none) (h₃ : addressNotice m = none) : Reported s (m :: h) d :=
  ⟨hr.id_eq, hr.model_eq, hr.admin_eq, by rw [latest_cons_none h₁, hr.desc_eq],
    by rw [latest_cons_none h₂, hr.password_eq], by rw [latest_cons_none h₃, hr.eip_eq],
    by rw [latest_cons_none h₃, hr.eport_eq]⟩

/-- A step that stores a name. -/
theorem Reported.name {v : CStr} (hr : Reported s h d) (h₁ : nameNotice m = some v)
    (h₂ : passwordNotice m = none) (h₃ : addressNotice m = none) :
    Reported s (m :: h) (sysnameInfo v d) :=
  ⟨hr.id_eq, hr.model_eq, hr.admin_eq, by rw [latest_cons_some h₁]; rfl,
    by rw [latest_cons_none h₂]; exact hr.password_eq,
    by rw [latest_cons_none h₃]; exact hr.eip_eq, by rw [latest_cons_none h₃]; exact hr.eport_eq⟩

/-- A step that stores a password. -/
theorem Reported.password {v : CStr} (hr : Reported s h d) (h₁ : nameNotice m = none)
    (h₂ : passwordNotice m = some v) (h₃ : addressNotice m = none) :
    Reported s (m :: h) (passwordInfo v d) :=
  ⟨hr.id_eq, hr.model_eq, hr.admin_eq, by rw [latest_cons_none h₁]; exact hr.desc_eq,
    by rw [latest_cons_some h₂]; rfl,
    by rw [latest_cons_none h₃]; exact hr.eip_eq, by rw [latest_cons_none h₃]; exact hr.eport_eq⟩

/-- A step that stores an address. -/
theorem Reported.address {v : CStr} (hr : Reported s h d) (h₁ : nameNotice m = none)
    (h₂ : passwordNotice m = none) (h₃ : addressNotice m = some v) :
    Reported s (m :: h) (upnpInfo (v.bytes ++ [0]) d) := by
  rw [upnpInfo_eq]
  exact ⟨hr.id_eq, hr.model_eq, hr.admin_eq, by rw [latest_cons_none h₁]; exact hr.desc_eq,
    by rw [latest_cons_none h₂]; exact hr.password_eq, by rw [latest_cons_some h₃],
    by rw [latest_cons_some h₃]⟩

theorem Connects.sameInfo (h : Connects w r w') : SameInfo w w' := by
  refine ⟨?_, ?_, ?_⟩ <;> rw [h.effect.cloud_eq]

theorem World.setStatus_disconnect_sameInfo (w : World P) (s : Status) :
    SameInfo w (w.setStatus s).disconnect :=
  (w.setStatus_sameInfo s).trans (World.disconnect_sameInfo _)

/-- An iteration of the daemon leaves the device information alone. -/
theorem DaemonStep.sameInfo (hd : DaemonStep w w') : SameInfo w w' := by
  have hset : ∀ {w : World P} {s : Status}, SameInfo w (w.setStatus s) :=
    World.setStatus_sameInfo _ _
  have hauth : ∀ {w w' : World P} {r : CommonStatus}, Auths w r w' → SameInfo w w' :=
    fun ha => Requests.sameInfo ha
  have htaken : SameInfo w w.taken := ⟨rfl, rfl, rfl⟩
  have hdis := w.disconnect_sameInfo
  cases hd with
  | initIdle _ _ hp => exact hp.sameInfo
  | initBound _ _ => exact hset
  | connectFailed _ hc _ => exact hc.sameInfo.trans hset
  | connectUnbound _ _ hc =>
    have hi := hc.sameInfo
    exact ⟨hi.account_eq, hi.password_eq, hi.devinfo_eq⟩
  | authFailed _ _ hc ha _ => exact (hc.sameInfo.trans (hauth ha)).trans hset
  | updateFailed _ _ hc ha hu _ =>
    exact ((hc.sameInfo.trans (hauth ha)).trans hu.sameInfo).trans hset
  | connected _ _ hc ha hu =>
    exact ((hc.sameInfo.trans (hauth ha)).trans hu.sameInfo).trans hset
  | dropUnbound _ _ => exact hset
  | upToDate _ _ _ hp => exact hp.sameInfo
  | refreshFailed _ _ _ _ hu _ => exact (htaken.trans hu.sameInfo).trans hset
  | refreshed _ _ _ _ hu hp => exact (htaken.trans hu.sameInfo).trans hp.sameInfo
  | gaveUp _ _ => exact hdis
  | waiting _ _ _ _ => exact ⟨hdis.account_eq, hdis.password_eq, hdis.devinfo_eq⟩
  | retry _ _ _ _ => exact ⟨hdis.account_eq, hdis.password_eq, hdis.devinfo_eq⟩
  | broken _ => exact hdis
  | restart _ => exact ⟨hdis.account_eq, hdis.password_eq, hdis.devinfo_eq⟩

theorem RegUsrStep.sameInfo {account username password : CStr}
    (hr : RegUsrStep account username password w r w') : SameInfo w w' := by
  have hreg : ∀ {w w' : World P} {r : CommonStatus},
      Regusrs account username password w r w' → SameInfo w w' := by
    rintro w w' r ⟨code, hq⟩
    exact hq.sameInfo
  cases hr with
  | noConnection _ hc _ => exact hc.sameInfo
  | offline _ hc hq => exact hc.sameInfo.trans (hreg hq)
  | online _ _ hq => exact hreg hq
  | dropped _ _ hq =>
    exact ((hreg hq).trans (World.disconnect_sameInfo _)).trans (World.setStatus_sameInfo _ _)

theorem UBindOnline.sameInfo (hu : UBindOnline w r w') : SameInfo w w' := by
  cases hu with
  | @acknowledged w₁ hu =>
    have hi : SameInfo w₁ (w₁.unbound .init) := ⟨rfl, rfl, rfl⟩
    exact ((Requests.sameInfo hu).trans hi).trans (World.disconnect_sameInfo _)
  | failed hu _ => exact (Requests.sameInfo hu).trans (World.setStatus_disconnect_sameInfo _ _)

theorem UBindStep.sameInfo (hu : UBindStep w r w') : SameInfo w w' := by
  cases hu with
  | notBound _ => exact ⟨rfl, rfl, rfl⟩
  | noConnection _ _ hc _ => exact hc.sameInfo.trans (World.setStatus_disconnect_sameInfo _ _)
  | authFailed _ _ hc ha _ =>
    exact (hc.sameInfo.trans (Requests.sameInfo ha)).trans
      (World.setStatus_disconnect_sameInfo _ _)
  | offline _ _ hc ha ho => exact (hc.sameInfo.trans (Requests.sameInfo ha)).trans ho.sameInfo
  | online _ _ ho => exact ho.sameInfo

/-- `swCloudBind` stores the name if its connect succeeds, and otherwise nothing. -/
theorem BindStep.devinfo_eq {user password devicename : CStr}
    (hb : BindStep user password devicename w r w') : w'.cloud.devinfo =
      if w.greeted w' then sysnameInfo devicename w.cloud.devinfo else w.cloud.devinfo := by
  -- what follows a successful connect
  have hkey : ∀ {w₁ w₂ : World P}, Connects w.disconnect .succeed w₁ →
      SameInfo (w₁.credited user password devicename) w₂ →
      Greets (w₁.credited user password devicename) w₂ false → w₂.cloud.devinfo =
        if w.greeted w₂ then sysnameInfo devicename w.cloud.devinfo else w.cloud.devinfo := by
    intro w₁ w₂ hc hi hg
    have hg₁ : Greets w₁ (w₁.credited user password devicename) false := .of_eq rfl
    have hg' := (w.disconnect_greets.trans hc.greets).trans (hg₁.trans hg)
    rw [hg'.greeted, hi.devinfo_eq, World.cloud_credited, hc.sameInfo.devinfo_eq,
      World.cloud_disconnect]
    rfl
  cases hb with
  | refused _ _ =>
    have hg : Greets w w false := .of_eq rfl
    rw [hg.greeted]
    rfl
  | noConnection _ hc hr =>
    have hg := (w.disconnect_greets.trans hc.greets).trans (World.disconnect_greets _)
    rw [hg.greeted, decide_eq_false hr, World.cloud_disconnect, hc.sameInfo.devinfo_eq,
      World.cloud_disconnect]
    rfl
  | authFailed _ hc ha _ =>
    exact hkey hc ((Requests.sameInfo ha).trans (World.disconnect_sameInfo _))
      ((Requests.greets ha).trans (World.disconnect_greets _))
  | bindFailed _ hc ha hb _ =>
    obtain ⟨code, hb⟩ := hb
    exact hkey hc (((Requests.sameInfo ha).trans hb.sameInfo).trans (World.disconnect_sameInfo _))
      (((Requests.greets ha).trans hb.greets).trans (World.disconnect_greets _))
  | @bound _ _ _ _ w₄ _ hc ha hb hu =>
    obtain ⟨code, hb⟩ := hb
    have hg : Greets w₄ w₄.bound false := .of_eq rfl
    exact hkey hc ((((Requests.sameInfo ha).trans hb.sameInfo).trans hu.sameInfo).trans
      w₄.bound_sameInfo) ((((Requests.greets ha).trans hb.greets).trans hu.greets).trans hg)

/-- **A step stores what it is told, and nothing else.** -/
theorem Moves.reported {a : Action} (hm : Moves w a w') (hr : Reported s h w.cloud.devinfo) :
    Reported s (⟨w, a, w'⟩ :: h) w'.cloud.devinfo := by
  cases hm with
  | daemon hd =>
    rw [hd.sameInfo.devinfo_eq]
    exact hr.keep rfl rfl rfl
  | @notice a f ha hs =>
    rw [World.cloud_notified]
    cases a with
    | sysnameChange arg => cases arg <;> cases ha; exact hr.name (if_pos hs) rfl rfl
    | passwordChange arg => cases arg <;> cases ha; exact hr.password rfl (if_pos hs) rfl
    | upnpChange arg => cases arg <;> cases ha; exact hr.address rfl rfl (if_pos hs)
    | _ => cases ha
  | restart _ => exact hr.keep rfl rfl rfl
  | ignored ha hn =>
    cases a with
    | sysnameChange arg =>
      cases arg with
      | none => exact hr.keep rfl rfl rfl
      | some arg => exact hr.keep (if_neg fun hs => nomatch hn hs) rfl rfl
    | passwordChange arg =>
      cases arg with
      | none => exact hr.keep rfl rfl rfl
      | some arg => exact hr.keep rfl (if_neg fun hs => nomatch hn hs) rfl
    | upnpChange arg =>
      cases arg with
      | none => exact hr.keep rfl rfl rfl
      | some arg => exact hr.keep rfl rfl (if_neg fun hs => nomatch hn hs)
    | bind user password devicename =>
      rcases user with _ | user
      · exact hr.keep rfl rfl rfl
      rcases password with _ | password
      · exact hr.keep rfl rfl rfl
      rcases devicename with _ | devicename
      · exact hr.keep rfl rfl rfl
      cases ha
    | _ => exact hr.keep rfl rfl rfl
  | regUsr hq =>
    rw [hq.sameInfo.devinfo_eq]
    exact hr.keep rfl rfl rfl
  | bind hb =>
    rw [hb.devinfo_eq]
    split
    · exact hr.name (if_pos ‹_›) rfl rfl
    · exact hr.keep (if_neg ‹_›) rfl rfl
  | ubind hu =>
    rw [hu.sameInfo.devinfo_eq]
    exact hr.keep rfl rfl rfl
  | ping =>
    rw [World.pinged]
    split <;> exact hr.keep rfl rfl rfl

/-- The `UPDEV` packets of a step carry the device information the step ends with. -/
theorem Moves.carries {a : Action} (hm : Moves w a w') :
    Writes (fun _ _ hdr payload => hdr.cmd = P.cldcmdUpdev →
      CStr.read payload = updateText w'.cloud.devinfo) w.trace w'.trace := by
  refine hm.writes (fun _ _ _ _ h₁ _ h₂ => absurd h₂ h₁) ?_ ?_
  · rintro v v' r - - ⟨code, hb⟩
    apply hb.writes
    intro hdr payload hc hcmd
    have := P.cmds_ne
    exact absurd (hc.cmd_eq.symm.trans hcmd) (by omega)
  · intro v v' r _ hi hu
    obtain ⟨v₁, hq, htr⟩ := hu.events_trace
    rw [htr]
    apply hq.writes
    intro hdr payload hc _
    rw [hc.text_eq, hi.devinfo_eq]

end Steps

/-! ## Runs -/

section Runs

variable {f : Conf P} {s : SysInfo P} {h : List (Move (World P) Action)} {w : World P}

/-- What `cloud_start` stores. -/
theorem reported_start (f : Conf P) (s : SysInfo P) : Reported s [] (start f s).cloud.devinfo := by
  rw [start, cloudStart]
  simp only [upnpInfo_eq]
  exact ⟨rfl, rfl, rfl, (Field.snprintf_str _).symm, (Field.snprintf_str _).symm, rfl, rfl⟩

theorem Run.reported (hr : Run f s h w) : Reported s h w.cloud.devinfo := by
  induction hr with
  | start => exact reported_start f s
  | snoc _ hs ih => exact hs.moves.reported ih

/-- **Notifications are kept while the status is `CONNECTED`.**  In every state of every run
the device information is what the latest stored notification of each kind said; a
notification in any other status changes nothing; and every `UPDEV` packet carries the
latest stored notifications of the steps up to its own. -/
theorem updates_carry_latest (hr : Run f s h w) :
    Reported s h w.cloud.devinfo ∧
    (∀ m ∈ h, (m.label.notice P).isSome → m.pre.cloud.status ≠ .connected → m.post = m.pre) ∧
    ∀ later m earlier, h = later ++ m :: earlier → ∀ newer fd hdr payload ret older,
      m.post.trace = newer ++ .wrote fd hdr payload ret :: older → m.pre.trace <:+ older →
      hdr.cmd = P.cldcmdUpdev →
      ∃ d, Reported s (m :: earlier) d ∧ CStr.read payload = updateText d := by
  refine ⟨Run.reported hr, fun m hm hn hs => ?_, ?_⟩
  · obtain ⟨w₁, a, w₂⟩ := m
    have hmv : Moves w₁ a w₂ := (hr.mem_step hm).1.moves
    change w₂ = w₁
    cases hmv with
    | notice _ hc => exact absurd hc hs
    | restart hc => exact absurd hc hs
    | ignored _ _ => rfl
    | _ => cases hn
  · rintro later m earlier rfl newer fd hdr payload ret older htr hold hcmd
    obtain ⟨hp, hst⟩ := hr.split
    exact ⟨_, hst.moves.reported (Run.reported hp), hst.moves.carries.spec htr hold hcmd⟩

/-- A run to which the law applies: a password is announced on a connection. -/
theorem updates_carry_latest_password : ∃ w : World sampleProtocol,
    w.cloud.devinfo.password = .snprintf (CStr.lit "secret") := by
  obtain ⟨h, w, hr, hq⟩ := exists_run (sampleConf (CStr.lit "u") (CStr.lit "p")) sampleInfo
    [(.daemon, []), (.daemon, connectedInputs 3), (.passwordChange (some (CStr.lit "secret")), [])]
    (fun r => latest passwordNotice (CStr.lit "b") r.1 = CStr.lit "secret") (by decide +kernel)
  refine ⟨w, ((updates_carry_latest hr).1.password_eq).trans ?_⟩
  rw [← hq]
  rfl

/-- A name announced while the device is not connected is not stored. -/
theorem notification_dropped :
    ¬ ∀ (f : Conf sampleProtocol) (s : SysInfo sampleProtocol)
      (h : List (Move (World sampleProtocol) Action)) (w : World sampleProtocol), Run f s h w →
      ∀ m ∈ h, ∀ arg, m.label = .sysnameChange (some arg) →
        m.post.cloud.devinfo.desc = .snprintf arg := by
  intro hall
  obtain ⟨h, w, hr, m, hm, hl, hq⟩ :=
    exists_run (sampleConf (CStr.lit "u") (CStr.lit "p")) sampleInfo
      [(.sysnameChange (some (CStr.lit "new")), [])]
      (fun r => ∃ m ∈ r.1.head?, m.label = .sysnameChange (some (CStr.lit "new")) ∧
        m.post.cloud.devinfo.desc ≠ .snprintf (CStr.lit "new")) (by decide +kernel)
  exact hq (hall _ _ h w hr m (List.mem_of_mem_head? hm) _ hl)

end Runs

end SwCloud
