import Lpt.Cloud.Run

/-!
# How the status becomes `BROKEN`

`BROKEN` is meant for a device whose credentials or whose binding the server has
rejected; a failure of the network leads to `DISCONNECTED`, from where the daemon tries
again.  The daemon and `swCloudBind` keep to this.  `swCloudUBind` does not: a device that
is offline becomes `BROKEN` whatever its `AUTH` failed of.  These are the only steps that
break the law.
-/

namespace SwCloud

open CLib Effect Trans

variable {P : CldProtocol}

/-- An `AUTH` or an `UPDEV` of the step `m` ended with the verdict `v`. -/
def EndedWith (m : Move (World P) Action) (v : Verdict) : Prop :=
  v ∈ verdicts P P.cldcmdAuth (m.pre.since m.post) ∨
    v ∈ verdicts P P.cldcmdUpdev (m.pre.since m.post)

instance (m : Move (World P) Action) (v : Verdict) : Decidable (EndedWith m v) :=
  inferInstanceAs (Decidable (_ ∨ _))

/-- The step `m` does not go to `BROKEN`, or it does so for a rejected `AUTH` or `UPDEV`;
and it does not go there when an `AUTH` or `UPDEV` is lost. -/
def BrokenMeansRejected (m : Move (World P) Action) : Prop :=
  m.pre.cloud.status ≠ .broken → (m.post.cloud.status = .broken → EndedWith m .rejected) ∧
    (EndedWith m .lost → m.post.cloud.status ≠ .broken)

instance (m : Move (World P) Action) : Decidable (BrokenMeansRejected m) :=
  inferInstanceAs (Decidable (_ → _))

/-- The step `m` unbinds a bound device that is offline and not `BROKEN`, and its `AUTH` is
lost. -/
def UnbindLost (m : Move (World P) Action) : Prop :=
  m.label = .ubind ∧ m.pre.cloud.binded = true ∧ m.pre.cloud.status ≠ .connected ∧
    m.pre.cloud.status ≠ .broken ∧ .lost ∈ verdicts P P.cldcmdAuth (m.pre.since m.post)

section Steps

variable {w w' : World P} {r : CommonStatus}

/-- A step that does not go to `BROKEN` keeps the law. -/
theorem brokenMeansRejected_of_status {m : Move (World P) Action}
    (h : m.post.cloud.status = .broken → m.pre.cloud.status = .broken) : BrokenMeansRejected m :=
  fun hne => ⟨fun hb => absurd (h hb) hne, fun _ hb => hne (h hb)⟩

/-- What a step that goes to `BROKEN` after the failure of a request shows. -/
def Rejects (w w' : World P) : Prop :=
  ∃ fd qs, Asks w w' fd qs ∧
    (∃ q ∈ qs, (q.cmd = P.cldcmdAuth ∨ q.cmd = P.cldcmdUpdev) ∧ q.result.verdict = .rejected) ∧
    ∀ q ∈ qs, q.result.verdict ≠ .lost

theorem Rejects.brokenMeansRejected {a : Action} (h : Rejects w w') :
    BrokenMeansRejected ⟨w, a, w'⟩ := by
  obtain ⟨fd, qs, ha, ⟨q, hq, hcmd, hrej⟩, hlost⟩ := h
  have hne := P.cmds_ne
  have hd : P.cldcmdAuth ≠ P.cldcmdDevctl ∧ P.cldcmdUpdev ≠ P.cldcmdDevctl := by omega
  refine fun _ => ⟨fun _ => ?_, fun hl => absurd hl ?_⟩
  · refine hcmd.imp (fun hc => ?_) fun hc => ?_
    · exact (ha.since.mem_verdicts hd.1).2 ⟨q, hq, hc, hrej⟩
    · exact (ha.since.mem_verdicts hd.2).2 ⟨q, hq, hc, hrej⟩
  · rintro (hl | hl)
    · obtain ⟨q', hq', -, hv⟩ := (ha.since.mem_verdicts hd.1).1 hl
      exact hlost q' hq' hv
    · obtain ⟨q', hq', -, hv⟩ := (ha.since.mem_verdicts hd.2).1 hl
      exact hlost q' hq' hv

theorem Polls.status_broken (hp : Polls w w') (hs : w'.cloud.status = .broken) :
    w.cloud.status = .broken := by
  cases hp with
  | quiet => exact hs
  | failed _ _ _ => cases hs
  | served _ hc =>
    obtain ⟨qs, -, -, hu⟩ := hc.asks
    cases hu with
    | no hcl _ _ => rwa [hcl] at hs
    | yes hcl _ _ =>
      rw [hcl] at hs
      cases hs

theorem failStatus_broken (h : failStatus r = .broken) : r ≠ .cloudNetwork := by
  rintro rfl
  cases h

/-- The daemon goes to `BROKEN` only for a rejected request. -/
theorem DaemonStep.rejects (hd : DaemonStep w w') (hs' : w'.cloud.status = .broken)
    (hs : w.cloud.status ≠ .broken) : Rejects w w' := by
  cases hd with
  | initIdle _ _ hp => exact absurd (hp.status_broken hs') hs
  | initBound _ _ => cases hs'
  | connectFailed _ _ _ => cases hs'
  | connectUnbound _ _ _ => cases hs'
  | authFailed _ _ hc ha hr =>
    have hv := CommonStatus.verdict_eq (failStatus_broken hs') hr
    refine ⟨_, _, (hc.asks _).trans ha.asks, ⟨_, List.mem_cons_self .., Or.inl rfl, hv⟩, ?_⟩
    simp [hv]
  | updateFailed _ _ hc ha hu hr =>
    have hv := CommonStatus.verdict_eq (failStatus_broken hs') hr
    have huq := hu.asks
    rw [Requests.cloud_eq ha] at huq
    refine ⟨_, _, ((hc.asks _).trans ha.asks).trans huq,
      ⟨_, List.mem_cons_self .., Or.inr rfl, hv⟩, ?_⟩
    simp [hv]
  | connected _ _ _ _ _ => cases hs'
  | dropUnbound _ _ => cases hs'
  | upToDate _ _ _ hp => exact absurd (hp.status_broken hs') hs
  | refreshFailed _ _ _ _ hu hr =>
    have hv := CommonStatus.verdict_eq (failStatus_broken hs') hr
    exact ⟨_, _, hu.asks, ⟨_, List.mem_cons_self .., Or.inr rfl, hv⟩, by simp [hv]⟩
  | refreshed _ _ _ _ hu hp =>
    have h₁ := hp.status_broken hs'
    rw [hu.cloud_eq] at h₁
    exact absurd h₁ hs
  | gaveUp _ _ => rw [World.cloud_disconnect] at hs'; exact absurd hs' hs
  | waiting _ _ _ _ => rw [World.cloud_paced, World.cloud_disconnect] at hs'; exact absurd hs' hs
  | retry _ _ _ _ => cases hs'
  | broken h => exact absurd h hs
  | restart _ => cases hs'

theorem RegUsrStep.status_broken {account username password : CStr}
    (hr : RegUsrStep account username password w r w') (hs : w'.cloud.status = .broken) :
    w.cloud.status = .broken := by
  cases hr with
  | noConnection _ hc _ => rwa [hc.effect.cloud_eq] at hs
  | offline _ hc hq =>
    obtain ⟨code, hq⟩ := hq
    rwa [hq.cloud_eq, hc.effect.cloud_eq] at hs
  | online _ _ hq =>
    obtain ⟨code, hq⟩ := hq
    rwa [hq.cloud_eq] at hs
  | dropped _ _ _ => cases hs

theorem BindStep.status_broken {user password devicename : CStr}
    (hb : BindStep user password devicename w r w') (hs : w'.cloud.status = .broken) :
    w.cloud.status = .broken := by
  cases hb with
  | refused _ _ => exact hs
  | noConnection _ hc _ =>
    rwa [World.cloud_disconnect, hc.effect.cloud_eq, World.cloud_disconnect] at hs
  | authFailed _ hc ha _ =>
    rwa [World.cloud_disconnect, Requests.cloud_eq ha, World.cloud_credited, hc.effect.cloud_eq,
      World.cloud_disconnect] at hs
  | bindFailed _ hc ha hb _ =>
    obtain ⟨code, hb⟩ := hb
    rwa [World.cloud_disconnect, hb.cloud_eq, Requests.cloud_eq ha, World.cloud_credited,
      hc.effect.cloud_eq, World.cloud_disconnect] at hs
  | bound _ _ _ _ _ => cases hs

theorem UBindOnline.status_ne_broken (hu : UBindOnline w r w') : w'.cloud.status ≠ .broken := by
  cases hu with
  | acknowledged _ => rw [World.cloud_disconnect]; exact nofun
  | failed _ _ => rw [World.cloud_disconnect]; exact nofun

/-- A step that loses no `AUTH` is not the one that breaks the law. -/
theorem not_unbindLost {a : Action} {fd : ℤ} {qs : List Asked} (ha : Asks w w' fd qs)
    (hq : ∀ q ∈ qs, q.cmd = P.cldcmdAuth → q.result.verdict ≠ .lost) :
    ¬ UnbindLost ⟨w, a, w'⟩ := by
  intro hl
  have hd : P.cldcmdAuth ≠ P.cldcmdDevctl := by
    have := P.cmds_ne
    omega
  obtain ⟨q, hmem, hcmd, hv⟩ := (ha.since.mem_verdicts hd).1 hl.2.2.2.2
  exact hq q hmem hcmd hv

/-- `swCloudUBind` keeps the law exactly if it does not lose its `AUTH`. -/
theorem UBindStep.brokenMeansRejected (hu : UBindStep w r w') :
    BrokenMeansRejected ⟨w, .ubind, w'⟩ ↔ ¬ UnbindLost ⟨w, .ubind, w'⟩ := by
  have hd : P.cldcmdAuth ≠ P.cldcmdDevctl ∧ P.cldcmdUbindev ≠ P.cldcmdAuth := by
    have := P.cmds_ne
    omega
  cases hu with
  | notBound hb =>
    exact iff_of_true (brokenMeansRejected_of_status id)
      (not_unbindLost (show Asks w w 0 [] from .of_eq rfl) nofun)
  | noConnection _ _ hc _ =>
    refine iff_of_true (brokenMeansRejected_of_status fun hs => ?_)
      (not_unbindLost ((hc.asks 0).trans (World.setStatus_disconnect_asks _ _ 0)) nofun)
    rw [World.cloud_disconnect] at hs
    cases hs
  | @authFailed r w₁ w₂ hb hs hc ha hr =>
    have hst : (w₂.setStatus .broken).disconnect.cloud.status = .broken := by
      rw [World.cloud_disconnect]
      rfl
    have hasks := ((hc.asks _).trans ha.asks).trans (w₂.setStatus_disconnect_asks .broken _)
    by_cases hn : r = .cloudNetwork
    · -- the `AUTH` is lost, and nothing else was asked
      have hlost : .lost ∈ verdicts P P.cldcmdAuth (w.since (w₂.setStatus .broken).disconnect) :=
        (hasks.since.mem_verdicts hd.1).2 (by simp [hn])
      constructor
      · exact fun hbr hl => (hbr hl.2.2.2.1).2 (Or.inl hlost) hst
      · intro hl hne
        exact absurd ⟨rfl, hb, hs, hne, hlost⟩ hl
    · have hv := CommonStatus.verdict_eq hn hr
      refine iff_of_true (Rejects.brokenMeansRejected ⟨_, _, hasks, ?_, ?_⟩)
        (not_unbindLost hasks ?_)
      · simp [hv]
      · simp [hv]
      · simp [hv]
  | offline _ _ hc ha ho =>
    have hoq := ho.asks
    rw [Requests.cloud_eq ha] at hoq
    refine iff_of_true (brokenMeansRejected_of_status fun hs => absurd hs ho.status_ne_broken)
      (not_unbindLost (((hc.asks _).trans ha.asks).trans hoq) ?_)
    simp [hd.2]
  | online _ hs ho =>
    exact iff_of_true (brokenMeansRejected_of_status fun hs' => absurd hs' ho.status_ne_broken)
      fun hl => hl.2.2.1 hs

/-- **The law, step by step.** -/
theorem Moves.brokenMeansRejected {a : Action} (hm : Moves w a w') :
    BrokenMeansRejected ⟨w, a, w'⟩ ↔ ¬ UnbindLost ⟨w, a, w'⟩ := by
  have hst : ∀ {a : Action}, a ≠ .ubind → (w'.cloud.status = .broken → w.cloud.status = .broken) →
      (BrokenMeansRejected ⟨w, a, w'⟩ ↔ ¬ UnbindLost ⟨w, a, w'⟩) := fun ha h =>
    iff_of_true (brokenMeansRejected_of_status h) fun hl => ha hl.1
  cases hm with
  | daemon hd =>
    refine iff_of_true (fun hne => ?_) fun hl => ?_
    · by_cases hs : w'.cloud.status = .broken
      · exact (hd.rejects hs hne).brokenMeansRejected hne
      · exact ⟨fun hb => absurd hb hs, fun _ => hs⟩
    · cases hl.1
  | @notice a f ha _ =>
    refine hst (fun he => ?_) id
    rw [he] at ha
    cases ha
  | restart _ =>
    refine hst (fun he => ?_) fun hb => ?_
    · cases he
    · cases hb
  | ignored ha _ =>
    refine hst (fun he => ?_) id
    rw [he] at ha
    cases ha
  | regUsr hr =>
    refine hst (fun he => ?_) hr.status_broken
    cases he
  | bind hb =>
    refine hst (fun he => ?_) hb.status_broken
    cases he
  | ubind hu => exact hu.brokenMeansRejected
  | ping =>
    refine hst (fun he => ?_) ?_
    · cases he
    · rw [World.pinged]
      split
      · exact id
      · intro hb
        cases hb

end Steps

/-! ## Runs -/

section Runs

variable {f : Conf P} {s : SysInfo P} {h : List (Move (World P) Action)} {w : World P}

/-- **When `BROKEN` means rejected.**  All steps of a run keep the law if and only if none
of them is a `swCloudUBind` of a bound device, offline and not yet `BROKEN`, that loses
its `AUTH`. -/
theorem broken_iff (hr : Run f s h w) :
    (∀ m ∈ h, BrokenMeansRejected m) ↔ ∀ m ∈ h, ¬ UnbindLost m :=
  forall₂_congr fun _ hm => (hr.mem_step hm).1.moves.brokenMeansRejected

/-- A run to which the condition applies: the server rejects the credentials. -/
theorem broken_rejected : ∃ m : Move (World sampleProtocol) Action,
    m.post.cloud.status = .broken ∧ EndedWith m .rejected := by
  obtain ⟨h, w, hr, hl, m, hm, hpre, hpost⟩ := exists_run
    (sampleConf (CStr.lit "u") (CStr.lit "p")) sampleInfo
    [(.daemon, []), (.daemon, connectInputs 3 ++ replyInputs (CStr.lit "-6"))]
    (fun r => (∀ m ∈ r.1, m.label ≠ .ubind) ∧
      ∃ m ∈ r.1, m.pre.cloud.status ≠ .broken ∧ m.post.cloud.status = .broken) (by decide +kernel)
  exact ⟨m, hpost, ((broken_iff hr).2 (fun m hm hn => hl m hm hn.1) m hm hpre).1 hpost⟩

/-- A bound device is unbound before it has connected, and the connection breaks when its
`AUTH` is sent. -/
theorem broken_unbind_lost : ¬ ∀ (f : Conf sampleProtocol) (s : SysInfo sampleProtocol)
    (h : List (Move (World sampleProtocol) Action)) (w : World sampleProtocol),
    Run f s h w → ∀ m ∈ h, BrokenMeansRejected m := by
  intro hall
  obtain ⟨h, w, hr, m, hm, hbr⟩ := exists_run (sampleConf (CStr.lit "u") (CStr.lit "p"))
    sampleInfo [(.ubind, connectInputs 3 ++ [.bytes [], .writes [.err]])]
    (fun r => ∃ m ∈ r.1, ¬ BrokenMeansRejected m) (by decide +kernel)
  exact hbr (hall _ _ _ _ hr m hm)

end Runs

end SwCloud
