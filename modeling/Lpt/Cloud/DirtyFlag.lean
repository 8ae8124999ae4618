import Lpt.Cloud.Run

/-!
# The dirty flag

While the status is `CONNECTED`, the device is bound and `cloud.update` is clear, the
server knows the present device information: it is what the last `UPDEV` accepted on the
connection in use carried.  The flag is cleared before the request it stands for is
sent; the law survives because both ways for that request to fail leave the status.
`swCloudBind` does not look at what becomes of its `UPDEV`, so the law is about runs
without it.
-/

namespace SwCloud

open CLib Effect Trans

variable {P : CldProtocol}

/-- The last `UPDEV` answered with `OK` on the connection in use carried the present
device information. -/
def UpToDate (w : World P) : Prop :=
  (w.oks P.cldcmdUpdev).head? = some (w.cloud.fd, updateText w.cloud.devinfo)

/-- The dirty flag may be trusted. -/
def FlagSound (w : World P) : Prop :=
  w.cloud.status = .connected → w.cloud.binded = true → w.cloud.update = false → UpToDate w

/-- The action is a call of `swCloudBind`. -/
def Action.isBind : Action → Bool
  | .bind .. => true
  | _ => false

section Parts

variable {w w' : World P} {r : CommonStatus}

theorem UpToDate.of_eq (h : UpToDate w) (hfd : w'.cloud.fd = w.cloud.fd)
    (hd : w'.cloud.devinfo = w.cloud.devinfo)
    (ho : w'.oks P.cldcmdUpdev = w.oks P.cldcmdUpdev) : UpToDate w' := by
  rw [UpToDate, ho, hfd, hd]
  exact h

/-- An accepted `UPDEV` brings the server up to date. -/
theorem Updates.upToDate (hu : Updates w .succeed w') : UpToDate w' := by
  obtain ⟨w₁, hq, rfl⟩ := hu
  rw [UpToDate, hq.oks, hq.cloud_eq]
  simp

/-- Other requests leave the server as up to date as it is. -/
theorem Requests.flagSound {cmd : ℕ} {t : CStr} (hq : Requests cmd t w r w')
    (hcmd : cmd ≠ P.cldcmdUpdev) (h : FlagSound w) : FlagSound w' := by
  intro hs hb hu
  rw [hq.cloud_eq] at hs hb hu
  apply (h hs hb hu).of_eq (by rw [hq.cloud_eq]) (by rw [hq.cloud_eq])
  rw [hq.oks, if_neg fun hn => hcmd hn.1.symm, List.nil_append]

theorem Polls.flagSound (hp : Polls w w') (h : FlagSound w) : FlagSound w' := by
  intro hs hb hu
  cases hp with
  | quiet => exact h hs hb hu
  | failed _ _ _ => cases hs
  | served _ hc =>
    obtain ⟨es, qs, he⟩ := hc.effect
    cases he.unbinds with
    | no hcl _ _ =>
      rw [hcl] at hs hb hu
      apply (h hs hb hu).of_eq (by rw [hcl]) (by rw [hcl])
      have := P.cmds_ne
      rw [World.oks_append he.trace_eq he.noSocket, he.events.okReplies_nil, List.nil_append]
      intro q hq
      rw [he.cmds q hq]
      omega
    | yes hcl _ _ =>
      rw [hcl] at hb
      cases hb

end Parts

section Steps

variable {w w' : World P}

theorem DaemonStep.flagSound (hd : DaemonStep w w') (h : FlagSound w) : FlagSound w' := by
  intro hs' hb' hu'
  cases hd.connected_bound hs' hb' with
  | fresh _ _ hu hw => exact hw ▸ hu.upToDate.of_eq rfl rfl rfl
  | polled _ _ hp => exact hp.flagSound h hs' hb' hu'
  | refreshed _ _ hu hp => exact hp.flagSound (fun _ _ _ => hu.upToDate) hs' hb' hu'

theorem RegUsrStep.flagSound {account username password : CStr} {r : CommonStatus}
    (hr : RegUsrStep account username password w r w') (h : FlagSound w) : FlagSound w' := by
  cases hr with
  | noConnection hs hc _ =>
    intro hs' _ _
    rw [hc.effect.cloud_eq] at hs'
    exact absurd hs' hs
  | offline hs hc hq =>
    obtain ⟨code, hq⟩ := hq
    intro hs' _ _
    rw [hq.cloud_eq, hc.effect.cloud_eq] at hs'
    exact absurd hs' hs
  | online _ _ hq =>
    obtain ⟨code, hq⟩ := hq
    have := P.cmds_ne
    exact hq.flagSound (by omega) h
  | dropped _ _ _ => exact nofun

theorem UBindStep.flagSound {r : CommonStatus} (hu : UBindStep w r w') (h : FlagSound w) :
    FlagSound w' := by
  cases hu with
  | notBound _ => exact h
  | noConnection _ _ _ _ => intro hs'; rw [World.cloud_disconnect] at hs'; cases hs'
  | authFailed _ _ _ _ _ => intro hs'; rw [World.cloud_disconnect] at hs'; cases hs'
  | offline _ _ _ _ ho => exact fun hs' => absurd hs' ho.status_ne
  | online _ _ ho => exact fun hs' => absurd hs' ho.status_ne

/-- Every step but `swCloudBind` keeps the flag sound. -/
theorem Moves.flagSound {a : Action} (hm : Moves w a w') (ha : a.isBind = false)
    (h : FlagSound w) : FlagSound w' := by
  cases hm with
  | daemon hd => exact hd.flagSound h
  | notice _ _ =>
    intro _ _ hu
    cases hu
  | restart _ =>
    intro hs
    cases hs
  | ignored _ _ => exact h
  | regUsr hr => exact hr.flagSound h
  | bind _ => cases ha
  | ubind hu => exact hu.flagSound h
  | ping =>
    rw [World.pinged]
    split
    · exact h
    · intro hs
      cases hs

end Steps

/-- **The dirty flag is sound.**  In every state of every run without `swCloudBind`: while
the status is `CONNECTED`, the device is bound and nothing is marked as changed, the last
`UPDEV` accepted on the connection in use carried the present device information. -/
theorem clean_upToDate {f : Conf P} {s : SysInfo P} {h : List (Move (World P) Action)}
    {w : World P} (hr : Run f s h w) (hb : ∀ m ∈ h, m.label.isBind = false)
    (hs : w.cloud.status = .connected) (hbd : w.cloud.binded = true)
    (hu : w.cloud.update = false) :
    (w.oks P.cldcmdUpdev).head? = some (w.cloud.fd, updateText w.cloud.devinfo) :=
  hr.invariant_of FlagSound hb (by exact nofun)
    (fun _ _ _ hi ha hst => hst.moves.flagSound ha hi) hs hbd hu

/-- A run to which the law applies: the device connects by itself. -/
theorem clean_upToDate_connected : ∃ w : World sampleProtocol, w.cloud.update = false ∧
    (w.oks sampleProtocol.cldcmdUpdev).head? = some (w.cloud.fd, updateText w.cloud.devinfo) := by
  obtain ⟨h, w, hr, hb, hs, hbd, hu⟩ := exists_run (sampleConf (CStr.lit "u") (CStr.lit "p"))
    sampleInfo [(.daemon, []), (.daemon, connectedInputs 3)]
    (fun r => (∀ m ∈ r.1, m.label.isBind = false) ∧ r.2.cloud.status = .connected ∧
      r.2.cloud.binded = true ∧ r.2.cloud.update = false) (by decide +kernel)
  exact ⟨w, hu, clean_upToDate hr hb hs hbd hu⟩

end SwCloud
