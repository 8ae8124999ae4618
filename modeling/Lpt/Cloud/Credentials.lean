import Lpt.Cloud.Written
import Lpt.Cloud.Run

/-!
# The credentials of a bind

`swCloudBind` stores the user, the password and the name of the device in the struct
before it asks the server, cut to the sizes of their fields, and takes nothing back when
the server refuses.  Two laws follow, each with the exact condition under which it holds.

* A failed call changes nothing but the connection: exactly if it has stored nothing, or
  stored what was there before.
* A successful call has used the strings it was given: exactly if they fit their fields.
-/

namespace SwCloud

open CLib Effect

variable {P : CldProtocol}

/-! ## A call that fails -/

/-- Everything but the connection is as it was. -/
structure Unchanged (w w' : World P) : Prop where
  binded_eq : w'.cloud.binded = w.cloud.binded
  account_eq : w'.cloud.account = w.cloud.account
  password_eq : w'.cloud.password = w.cloud.password
  desc_eq : w'.cloud.devinfo.desc = w.cloud.devinfo.desc
  status_eq : w'.cloud.status = w.cloud.status
  conf_account_eq : w'.conf.account = w.conf.account
  conf_password_eq : w'.conf.password = w.conf.password

/-- The struct holds these strings already, as far as its fields can hold them. -/
structure InPlace (c : Cloud P) (user password devicename : CStr) : Prop where
  account_eq : c.account = .snprintf user
  password_eq : c.password = .snprintf password
  desc_eq : c.devinfo.desc = .snprintf devicename

section Failure

variable {w w' w₁ w₂ : World P} {r : CommonStatus} {user password devicename : CStr}

theorem Unchanged.of_eq (hc : w'.cloud = { w.cloud with
    fd := w'.cloud.fd, reachable := w'.cloud.reachable }) (hf : w'.conf = w.conf) :
    Unchanged w w' := by
  constructor
  all_goals first | rw [hc] | rw [hf]

/-- After the strings have been stored, all is unchanged if they were in place before. -/
theorem unchanged_iff_inPlace
    (hc : w'.cloud = { w.cloud with
      account := .snprintf user, password := .snprintf password,
      devinfo := sysnameInfo devicename w.cloud.devinfo, fd := w'.cloud.fd,
      reachable := w'.cloud.reachable }) (hf : w'.conf = w.conf) :
    Unchanged w w' ↔ InPlace w.cloud user password devicename := by
  constructor
  · intro h
    have ha := h.account_eq
    have hp := h.password_eq
    have hd := h.desc_eq
    rw [hc] at ha hp hd
    exact ⟨ha.symm, hp.symm, hd.symm⟩
  · intro h
    refine ⟨by rw [hc], ?_, ?_, ?_, by rw [hc], by rw [hf], by rw [hf]⟩
    · rw [hc, h.account_eq]
    · rw [hc, h.password_eq]
    · rw [hc, h.desc_eq]
      rfl

/-- What an authenticating bind has come to before the answer to its `AUTH`. -/
theorem Connects.auth_credited (hc : Connects w.disconnect .succeed w₁)
    (ha : Auths (w₁.credited user password devicename) r w₂) :
    (w₂.cloud = { w.cloud with
      account := .snprintf user, password := .snprintf password,
      devinfo := sysnameInfo devicename w.cloud.devinfo, fd := w₂.cloud.fd,
      reachable := w₂.cloud.reachable }) ∧ w₂.conf = w.conf ∧ Greets w w₂ true := by
  have hcloud := hc.effect.cloud_eq
  have hconf := hc.effect.conf_eq
  rw [World.cloud_disconnect] at hcloud
  rw [World.conf_disconnect] at hconf
  refine ⟨?_, (Requests.conf_eq ha).trans hconf, ?_⟩
  · rw [Requests.cloud_eq ha, World.cloud_credited, hcloud]
  · have hg : Greets w (w₁.credited user password devicename) true :=
      (w.disconnect_greets.trans hc.greets).trans (Greets.of_eq rfl)
    exact hg.trans (Requests.greets ha)

theorem BindStep.unchanged_iff (hb : BindStep user password devicename w r w')
    (hr : r ≠ .succeed) :
    Unchanged w w' ↔ (w.greeted w' = true → InPlace w.cloud user password devicename) := by
  cases hb with
  | refused _ _ =>
    have hg : w.greeted w = false := (Greets.of_eq rfl).greeted
    simp only [hg, Bool.false_eq_true, false_implies, iff_true]
    exact .of_eq rfl rfl
  | noConnection _ hc hne =>
    have hg := ((w.disconnect_greets.trans hc.greets).trans (World.disconnect_greets _)).greeted
    rw [decide_eq_false hne] at hg
    simp only [hg, Bool.or_false, Bool.false_eq_true, false_implies, iff_true]
    refine .of_eq ?_ ?_
    · rw [World.cloud_disconnect, hc.effect.cloud_eq, World.cloud_disconnect]
    · rw [World.conf_disconnect, hc.effect.conf_eq, World.conf_disconnect]
  | authFailed _ hc ha _ =>
    obtain ⟨hcl, hcf, hg⟩ := hc.auth_credited ha
    rw [(hg.trans (World.disconnect_greets _)).greeted, Bool.false_or, eq_self, true_imp_iff]
    apply unchanged_iff_inPlace
    · rw [World.cloud_disconnect, hcl]
    · rw [World.conf_disconnect, hcf]
  | bindFailed _ hc ha hbi _ =>
    obtain ⟨hcl, hcf, hg⟩ := hc.auth_credited ha
    obtain ⟨code, hbi⟩ := hbi
    rw [((hg.trans hbi.greets).trans (World.disconnect_greets _)).greeted, Bool.false_or,
      Bool.false_or, eq_self, true_imp_iff]
    apply unchanged_iff_inPlace
    · rw [World.cloud_disconnect, hbi.cloud_eq, hcl]
    · rw [World.conf_disconnect, hbi.conf_eq, hcf]
  | bound _ _ _ _ _ => exact absurd rfl hr

/-- **What a failed bind leaves behind.**  If `swCloudBind` returns anything other than
`SUCCEED`, then everything but the connection is as it was if and only if `cloud_do_connect`
did not succeed in this call, or the strings of the call were in place before. -/
theorem bind_unchanged_iff {user password devicename : Option CStr}
    (h : Runs (swCloudBind user password devicename) w r w') (hr : r ≠ .succeed) :
    Unchanged w w' ↔ (w.greeted w' = true → ∀ u ∈ user, ∀ p ∈ password, ∀ d ∈ devicename,
      InPlace w.cloud u p d) := by
  by_cases hn : user = none ∨ password = none ∨ devicename = none
  · -- an argument is missing: the call returns at once
    rw [runs_swCloudBind_none hn h]
    have hg : w.greeted w = false := (Greets.of_eq rfl).greeted
    simp only [hg, Bool.false_eq_true, false_implies, iff_true]
    exact .of_eq rfl rfl
  · push Not at hn
    obtain ⟨u, rfl⟩ := Option.ne_none_iff_exists'.1 hn.1
    obtain ⟨p, rfl⟩ := Option.ne_none_iff_exists'.1 hn.2.1
    obtain ⟨d, rfl⟩ := Option.ne_none_iff_exists'.1 hn.2.2
    simpa using (runs_swCloudBind h).unchanged_iff hr

end Failure

/-- A call to which the law applies: the network is down, and nothing has changed. -/
theorem bind_unchanged_offline : ∃ w' : World sampleProtocol,
    Runs (swCloudBind (some (CStr.lit "u")) (some (CStr.lit "p")) (some (CStr.lit "n")))
      (start (sampleConf (CStr.lit "") (CStr.lit "")) sampleInfo) .cloudNetwork w' ∧
    Unchanged (start (sampleConf (CStr.lit "") (CStr.lit "")) sampleInfo) w' := by
  obtain ⟨r, w', hrun, hr, hg⟩ := exists_outcome
    (swCloudBind (some (CStr.lit "u")) (some (CStr.lit "p")) (some (CStr.lit "n")))
    (start (sampleConf (CStr.lit "") (CStr.lit "")) sampleInfo) [.int (-1)]
    (fun r => r.1 = .cloudNetwork ∧ World.greeted
      (start (sampleConf (CStr.lit "") (CStr.lit "")) sampleInfo) r.2 = false) (by decide +kernel)
  obtain rfl : r = .cloudNetwork := hr
  refine ⟨w', hrun, (bind_unchanged_iff hrun nofun).2 ?_⟩
  intro hg'
  rw [hg] at hg'
  cases hg'

/-- An unbound device, and a server that rejects the credentials: they stay in the struct. -/
theorem bind_keeps_rejected : ¬ ∀ (w w' : World sampleProtocol) (r : CommonStatus)
    (user password devicename : Option CStr),
    Runs (swCloudBind user password devicename) w r w' → r ≠ .succeed → Unchanged w w' := by
  intro hall
  obtain ⟨r, w', hrun, hr, ha⟩ := exists_outcome
    (swCloudBind (some (CStr.lit "u")) (some (CStr.lit "p")) (some (CStr.lit "n")))
    (start (sampleConf (CStr.lit "") (CStr.lit "")) sampleInfo)
    (connectInputs 3 ++ replyInputs (CStr.lit "ER"))
    (fun r => r.1 = .cloudAuth ∧ r.2.cloud.account ≠
      (start (sampleConf (CStr.lit "") (CStr.lit "")) sampleInfo).cloud.account) (by decide +kernel)
  have hne : r ≠ .succeed := by
    rw [show r = .cloudAuth from hr]
    intro h
    cases h
  exact ha (hall _ w' r _ _ _ hrun hne).account_eq

/-! ## A call that succeeds -/

/-- A text is stored whole exactly if there is room for it. -/
theorem str_snprintf_eq_iff {cap : ℕ} {s : CStr} :
    (Field.snprintf s : Field cap).str = s ↔ s.length ≤ cap - 1 := by
  constructor
  · intro h
    rw [← h]
    exact (Field.snprintf s : Field cap).fits
  · intro h
    exact CStr.take_of_length_le h

/-- The call has used this user and this password: its one `AUTH` packet, on the connection
that is in use afterwards, carried exactly them, and so does the configuration. -/
structure BoundAs (user password : CStr) (w w' : World P) : Prop where
  written_eq : written P.cldcmdAuth (w.since w') =
    [(w'.cloud.fd, lines [user, password, w.cloud.devinfo.id.str])]
  account_eq : w'.conf.account.str = user
  password_eq : w'.conf.password.str = password

section Success

variable {w w' : World P} {user password devicename : CStr}

/-- What a successful bind has sent and stored: the strings cut to their fields. -/
theorem BindStep.boundAs_cut (hb : BindStep user password devicename w .succeed w') :
    BoundAs (Field.snprintf user : Field P.cloudNameLen).str
      (Field.snprintf password : Field P.cloudNameLen).str w w' := by
  cases hb with
  | noConnection _ _ hne => exact absurd rfl hne
  | authFailed _ _ _ hne => exact absurd rfl hne
  | bindFailed _ _ _ _ hne => exact absurd rfl hne
  | @bound r w₁ w₂ w₃ w₄ _ hc ha hbi hu =>
    obtain ⟨hcl, hcf, -⟩ := hc.auth_credited ha
    obtain ⟨code, hbi⟩ := hbi
    have hcloud : w₄.cloud = { w₂.cloud with reachable := w₄.cloud.reachable } := by
      rw [hu.cloud_eq, hbi.cloud_eq]
    -- the text of the packet is made of the fields just written
    have htext : authText (w₁.credited user password devicename).cloud =
        lines [(Field.snprintf user : Field P.cloudNameLen).str,
          (Field.snprintf password : Field P.cloudNameLen).str, w.cloud.devinfo.id.str] := by
      have hid : w₁.cloud.devinfo = w.cloud.devinfo := by
        rw [hc.effect.cloud_eq, World.cloud_disconnect]
      unfold authText
      rw [World.cloud_credited, hid]
      rfl
    have hfd : w₄.bound.cloud.fd = (w₁.credited user password devicename).cloud.fd := by
      rw [World.cloud_bound, hcloud, Requests.cloud_eq ha]
    obtain ⟨-, ⟨-, hab, hau, -⟩, -⟩ := P.cmds_ne
    have hemits : Emits P.cldcmdAuth w w₄.bound [((w₁.credited user password devicename).cloud.fd,
        authText (w₁.credited user password devicename).cloud)] := by
      have hconnect : Emits P.cldcmdAuth w (w₁.credited user password devicename) [] :=
        (w.disconnect_emits.trans hc.emits).trans (Emits.of_eq rfl)
      have hauth := hconnect.trans (Requests.emits_succeed ha)
      exact (((hauth.trans (hbi.emits_other hab.symm)).trans (hu.emits_other hau.symm)).trans
        (Emits.of_eq rfl))
    refine ⟨?_, ?_, ?_⟩
    · rw [hemits.since, htext, hfd]
    · rw [World.conf_bound, hcloud, hcl]
    · rw [World.conf_bound, hcloud, hcl]

/-- **Whose credentials a bind has used.**  A successful `swCloudBind` has sent and persisted
exactly the user and the password it was given if and only if both fit their fields of
`CLOUD_NAME_LEN` bytes. -/
theorem boundAs_iff
    (h : Runs (swCloudBind (some user) (some password) (some devicename)) w .succeed w') :
    BoundAs user password w w' ↔
      user.length ≤ P.cloudNameLen - 1 ∧ password.length ≤ P.cloudNameLen - 1 := by
  have hcut := (runs_swCloudBind h).boundAs_cut
  constructor
  · intro hb
    have hu : (Field.snprintf user : Field P.cloudNameLen).str = user := by
      rw [← hcut.account_eq, hb.account_eq]
    have hp : (Field.snprintf password : Field P.cloudNameLen).str = password := by
      rw [← hcut.password_eq, hb.password_eq]
    exact ⟨str_snprintf_eq_iff.1 hu, str_snprintf_eq_iff.1 hp⟩
  · rintro ⟨hu, hp⟩
    rwa [str_snprintf_eq_iff.2 hu, str_snprintf_eq_iff.2 hp] at hcut

end Success

/-- A call to which the law applies, with strings that fit. -/
theorem boundAs_short : ∃ w' : World sampleProtocol,
    Runs (swCloudBind (some (CStr.lit "u")) (some (CStr.lit "p")) (some (CStr.lit "n")))
      (start (sampleConf (CStr.lit "") (CStr.lit "")) sampleInfo) .succeed w' ∧
    BoundAs (CStr.lit "u") (CStr.lit "p")
      (start (sampleConf (CStr.lit "") (CStr.lit "")) sampleInfo) w' := by
  obtain ⟨r, w', hrun, hr⟩ := exists_outcome
    (swCloudBind (some (CStr.lit "u")) (some (CStr.lit "p")) (some (CStr.lit "n")))
    (start (sampleConf (CStr.lit "") (CStr.lit "")) sampleInfo) (bindInputs 3)
    (fun r => r.1 = .succeed) (by decide +kernel)
  obtain rfl : r = .succeed := hr
  exact ⟨w', hrun, (boundAs_iff hrun).2 (by decide)⟩

/-- A user name of eight characters, in a field of eight bytes. -/
theorem bind_cuts_user : ¬ ∀ (w w' : World sampleProtocol) (user password devicename : CStr),
    Runs (swCloudBind (some user) (some password) (some devicename)) w .succeed w' →
    BoundAs user password w w' := by
  intro hall
  obtain ⟨r, w', hrun, hr⟩ := exists_outcome
    (swCloudBind (some (CStr.lit "username")) (some (CStr.lit "p")) (some (CStr.lit "n")))
    (start (sampleConf (CStr.lit "") (CStr.lit "")) sampleInfo) (bindInputs 3)
    (fun r => r.1 = .succeed ∧ r.2.conf.account.str ≠ CStr.lit "username") (by decide +kernel)
  obtain rfl : r = .succeed := hr.1
  exact hr.2 (hall _ w' _ _ _ hrun).account_eq

end SwCloud
