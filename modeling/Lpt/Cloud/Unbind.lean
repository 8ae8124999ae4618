import Lpt.Cloud.Written
import Lpt.Cloud.Authenticated

/-!
# An unbind is all or nothing

`swCloudUBind` has an online and an offline path, and each of its exchanges can fail.  Its
result, the binding, the configuration and the status always agree afterwards.  That the
`UBINDEV` packet only goes out on an authenticated connection cannot be read off the
function: when the device is `CONNECTED`, it is the invariant of `Authenticated` that
vouches for the connection in use.
-/

namespace SwCloud

open CLib Effect Trans

variable {P : CldProtocol}

/-- What a call leaves of a device that was bound. -/
structure Released (w : World P) (r : CommonStatus) (w' : World P) : Prop where
  fd_eq : w'.cloud.fd = -1
  succeed_iff : r = .succeed ↔ w'.cloud.binded = false
  cleared : r = .succeed → w'.conf.account = .zero ∧ w'.conf.password = .zero ∧
    w'.cloud.status = .init
  kept : r ≠ .succeed → w'.conf.account = w.conf.account ∧ w'.conf.password = w.conf.password ∧
    (w'.cloud.status = .disconnected ∨ w'.cloud.status = .broken)

/-- The condition on the packets of a call: an `UBINDEV` is written on a connection that was
authenticated with `t` before. -/
def UbindAuthenticated (P : CldProtocol) (t : CStr) (older : List Event) (fd : ℤ) (hdr : CldHdr)
    (_ : List UInt8) : Prop :=
  hdr.cmd = P.cldcmdUbindev → AuthenticatedOn P older fd t

/-- The law of `swCloudUBind`. -/
structure AllOrNothing (w : World P) (r : CommonStatus) (w' : World P) : Prop where
  succeed_iff : r = .succeed ↔ w'.cloud.binded = false
  unchanged : w.cloud.binded = false → w' = w
  released : w.cloud.binded = true → Released w r w'
  /-- At most one `UBINDEV` packet is sent. -/
  once : (written P.cldcmdUbindev (w.since w')).length ≤ 1
  /-- And only over an authenticated connection. -/
  authenticated : ∀ newer fd hdr payload ret older,
    w'.trace = newer ++ .wrote fd hdr payload ret :: older → w.trace <:+ older →
    hdr.cmd = P.cldcmdUbindev → AuthenticatedOn P older fd (authText w.cloud)

section Steps

variable {w w' w₁ w₂ : World P} {r : CommonStatus}

/-! ## What is left -/

/-- A call that fails at some stage: the status is set, and the connection closed. -/
theorem Released.of_failed (hb : w.cloud.binded = true) (hb₁ : w₁.cloud.binded = w.cloud.binded)
    (hf : w₁.conf = w.conf) {s : Status} (hs : s = .disconnected ∨ s = .broken)
    (hr : r ≠ .succeed) : Released w r (w₁.setStatus s).disconnect where
  fd_eq := by rw [World.cloud_disconnect]
  succeed_iff := by
    have hb' : (w₁.setStatus s).disconnect.cloud.binded = true := by
      rw [World.cloud_disconnect]
      exact hb₁.trans hb
    rw [hb']
    simp [hr]
  cleared h := absurd h hr
  kept _ := by
    have hf' : (w₁.setStatus s).disconnect.conf = w.conf := by
      rw [World.conf_disconnect]
      exact hf
    rw [hf', World.cloud_disconnect]
    exact ⟨rfl, rfl, hs⟩

theorem UBindOnline.released (hu : UBindOnline w₁ r w') (hb : w.cloud.binded = true)
    (hb₁ : w₁.cloud.binded = w.cloud.binded) (hf : w₁.conf = w.conf) : Released w r w' := by
  cases hu with
  | acknowledged hq =>
    refine ⟨by rw [World.cloud_disconnect], ?_, ?_, fun hn => absurd rfl hn⟩
    · rw [World.cloud_disconnect]
      exact iff_of_true rfl rfl
    · intro _
      rw [World.conf_disconnect, World.cloud_disconnect]
      exact ⟨rfl, rfl, rfl⟩
  | failed hq hr =>
    refine .of_failed hb ?_ ?_ (Or.inl rfl) hr
    · rw [Requests.cloud_eq hq, hb₁]
    · rw [Requests.conf_eq hq, hf]

theorem UBindStep.released (hu : UBindStep w r w') (hb : w.cloud.binded = true) :
    Released w r w' := by
  cases hu with
  | notBound hn => cases hb.symm.trans hn
  | noConnection _ _ hc hr =>
    exact .of_failed hb hc.binded_status.1 hc.effect.conf_eq (Or.inl rfl) hr
  | authFailed _ _ hc ha hr =>
    refine .of_failed hb ?_ ?_ (Or.inr rfl) hr
    · rw [Requests.cloud_eq ha, hc.binded_status.1]
    · rw [Requests.conf_eq ha, hc.effect.conf_eq]
  | offline _ _ hc ha ho =>
    refine ho.released hb ?_ ?_
    · rw [Requests.cloud_eq ha, hc.binded_status.1]
    · rw [Requests.conf_eq ha, hc.effect.conf_eq]
  | online _ _ ho => exact ho.released hb rfl rfl

/-! ## What is sent -/

theorem UBindOnline.emits (hu : UBindOnline w r w') :
    ∃ ps, ps.length ≤ 1 ∧ Emits P.cldcmdUbindev w w' ps := by
  have hsent : ∀ {r : CommonStatus} {w₁ : World P}, Ubinds w r w₁ →
      ∃ ps, ps.length ≤ 1 ∧ Emits P.cldcmdUbindev w w₁ ps := by
    intro r w₁ hq
    rcases Requests.emits hq with hs | ⟨-, hs⟩
    · exact ⟨_, le_rfl, hs⟩
    · exact ⟨_, Nat.zero_le _, hs⟩
  cases hu with
  | acknowledged hq =>
    obtain ⟨ps, hle, hs⟩ := hsent hq
    exact ⟨ps, hle,
      (hs.trans (Emits.of_eq rfl)).trans (World.disconnect_emits (World.unbound _ .init))⟩
  | failed hq _ =>
    obtain ⟨ps, hle, hs⟩ := hsent hq
    exact ⟨ps, hle, hs.trans (World.setStatus_disconnect_emits _ _)⟩

theorem Auths.emits_ubindev (ha : Auths w r w') : Emits P.cldcmdUbindev w w' [] :=
  Requests.emits_other ha P.cmds_ne.2.1.1

theorem UBindStep.emits (hu : UBindStep w r w') :
    ∃ ps, ps.length ≤ 1 ∧ Emits P.cldcmdUbindev w w' ps := by
  cases hu with
  | notBound _ => exact ⟨[], Nat.zero_le _, .of_eq rfl⟩
  | noConnection _ _ hc _ =>
    exact ⟨[], Nat.zero_le _, hc.emits.trans (World.setStatus_disconnect_emits _ _)⟩
  | authFailed _ _ hc ha _ =>
    exact ⟨[], Nat.zero_le _,
      (hc.emits.trans ha.emits_ubindev).trans (World.setStatus_disconnect_emits _ _)⟩
  | offline _ _ hc ha ho =>
    obtain ⟨ps, hle, hs⟩ := ho.emits
    have hall := (hc.emits.trans ha.emits_ubindev).trans hs
    rw [List.append_nil, List.append_nil] at hall
    exact ⟨ps, hle, hall⟩
  | online _ _ ho => exact ho.emits

/-! ## On which connection -/

theorem UBindOnline.writes_authenticated (hu : UBindOnline w r w') (h : Authenticated w) :
    Writes (UbindAuthenticated P (authText w.cloud)) w.trace w'.trace := by
  cases hu with
  | acknowledged hq =>
    exact (Requests.writes hq fun _ _ _ _ => h).trans
      (World.disconnect_writes (World.unbound _ .init))
  | failed hq _ =>
    exact (Requests.writes hq fun _ _ _ _ => h).trans (World.setStatus_disconnect_writes _ _)

theorem Auths.writes_ubindev {t : CStr} (ha : Auths w r w') :
    Writes (UbindAuthenticated P t) w.trace w'.trace :=
  Requests.writes ha fun _ _ hc hcmd => absurd (hc.cmd_eq.symm.trans hcmd) P.cmds_ne.2.1.1

theorem UBindStep.writes_authenticated (hu : UBindStep w r w')
    (h : w.cloud.status = .connected → w.cloud.binded = true → Authenticated w) :
    Writes (UbindAuthenticated P (authText w.cloud)) w.trace w'.trace := by
  cases hu with
  | notBound _ => exact .refl
  | noConnection _ _ hc _ =>
    exact (hc.effect.writes _).trans (World.setStatus_disconnect_writes _ _)
  | authFailed _ _ hc ha _ =>
    exact ((hc.effect.writes _).trans ha.writes_ubindev).trans
      (World.setStatus_disconnect_writes _ _)
  | @offline _ w₁ w₂ _ _ _ hc ha ho =>
    -- the connection is new, and its `AUTH` carries the present account
    have htext : authText w₂.cloud = authText w.cloud := by
      rw [Requests.cloud_eq ha, hc.effect.cloud_eq, authText, authText]
    have ho' := ho.writes_authenticated (hc.authenticated ha)
    rw [htext] at ho'
    exact ((hc.effect.writes _).trans ha.writes_ubindev).trans ho'
  | online hb hs ho => exact ho.writes_authenticated (h hs hb)

end Steps

/-! ## Reachable states -/

section Runs

variable {f : Conf P} {s : SysInfo P} {h : List (Move (World P) Action)} {w w' : World P}
  {r : CommonStatus}

/-- **The law of `swCloudUBind`**, for every call in every reachable state. -/
theorem ubind_allOrNothing (hr : Run f s h w) (hu : Runs swCloudUBind w r w') :
    AllOrNothing w r w' := by
  have hstep := runs_swCloudUBind hu
  have hnot : w.cloud.binded = false → r = .succeed ∧ w' = w := by
    intro hb
    cases hstep with
    | notBound _ => exact ⟨rfl, rfl⟩
    | noConnection hn _ _ _ => cases hb.symm.trans hn
    | authFailed hn _ _ _ _ => cases hb.symm.trans hn
    | offline hn _ _ _ _ => cases hb.symm.trans hn
    | online hn _ _ => cases hb.symm.trans hn
  refine ⟨?_, fun hb => (hnot hb).2, hstep.released, ?_, ?_⟩
  · cases hb : w.cloud.binded with
    | false =>
      obtain ⟨rfl, rfl⟩ := hnot hb
      exact iff_of_true rfl hb
    | true => exact (hstep.released hb).succeed_iff
  · obtain ⟨ps, hle, hs⟩ := hstep.emits
    rwa [hs.since]
  · intro newer fd hdr payload ret older htr hold hcmd
    exact (hstep.writes_authenticated hr.authenticated).spec htr hold hcmd

/-- A call to which the law applies: the device is bound and connected, and the server
acknowledges the unbind. -/
theorem ubind_allOrNothing_online : ∃ (w w' : World sampleProtocol) (r : CommonStatus),
    w.cloud.binded = true ∧ w'.cloud.binded = false ∧ AllOrNothing w r w' := by
  obtain ⟨h, w, hr, m, hmem, hl, hb, hb'⟩ :=
    exists_run (sampleConf (CStr.lit "u") (CStr.lit "p")) sampleInfo
      [(.daemon, []), (.daemon, connectedInputs 3), (.ubind, replyInputs (CStr.lit "OK"))]
      (fun r => ∃ m ∈ r.1.head?, m.label = .ubind ∧ m.pre.cloud.binded = true ∧
        m.post.cloud.binded = false) (by decide +kernel)
  obtain ⟨earlier, rfl⟩ := List.head?_eq_some_iff.1 hmem
  obtain ⟨hp, hs⟩ := Path.split (show Path Step _ ([] ++ m :: earlier) w from hr)
  rw [hl] at hs
  obtain ⟨r, _, hu, -, rfl⟩ := runs_bind.1 hs
  exact ⟨m.pre, m.post, r, hb, hb', ubind_allOrNothing hp hu⟩

end Runs

end SwCloud
