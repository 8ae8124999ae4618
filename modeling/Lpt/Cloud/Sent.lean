import Lpt.Cloud.Run

/-!
# What a step sends

Laws about packets only concern `UPDEV` and `BINDEV`.  A step can send one of these from a
few states on its way: after an `AUTH` on a new connection, when an update is pending on
the connection in use, or after a `BINDEV`.  `Moves.writes` reduces a law about the packets
of a step to these states, each of which announces the same as the state the step ends in.
-/

namespace SwCloud

open CLib Effect Trans

variable {P : CldProtocol} {R : List Event → ℤ → CldHdr → List UInt8 → Prop} {w w' w₁ : World P}
  {r : CommonStatus}

/-- The condition `R` says nothing about packets other than `UPDEV` and `BINDEV`. -/
def Ignores (P : CldProtocol) (R : List Event → ℤ → CldHdr → List UInt8 → Prop) : Prop :=
  ∀ older fd hdr payload, hdr.cmd ≠ P.cldcmdUpdev → hdr.cmd ≠ P.cldcmdBindev →
    R older fd hdr payload

/-- The credentials and the device information are the same. -/
structure SameInfo (w w' : World P) : Prop where
  account_eq : w'.cloud.account = w.cloud.account
  password_eq : w'.cloud.password = w.cloud.password
  devinfo_eq : w'.cloud.devinfo = w.cloud.devinfo

/-- The worlds in which a step that starts in `w` can send an `UPDEV`. -/
inductive UpdatesFrom (w : World P) : World P → Prop
  | connected {w₁ v : World P} : Connects w .succeed w₁ → Auths w₁ .succeed v → UpdatesFrom w v
  | refresh : w.cloud.status = .connected → w.cloud.binded = true → UpdatesFrom w w.taken
  | bound {user password devicename : CStr} {w₁ w₂ v : World P} :
      Connects w.disconnect .succeed w₁ →
      Auths (w₁.credited user password devicename) .succeed w₂ → Binds w₂ .succeed v →
      UpdatesFrom w v

/-- The worlds in which a step that starts in `w` can send a `BINDEV`. -/
inductive BindsFrom (w : World P) : World P → Prop
  | authenticated {user password devicename : CStr} {w₁ v : World P} :
      Connects w.disconnect .succeed w₁ →
      Auths (w₁.credited user password devicename) .succeed v → BindsFrom w v

section Info

theorem SameInfo.trans (h : SameInfo w w₁) (h' : SameInfo w₁ w') : SameInfo w w' :=
  ⟨h'.account_eq.trans h.account_eq, h'.password_eq.trans h.password_eq,
    h'.devinfo_eq.trans h.devinfo_eq⟩

theorem SameInfo.authText_eq (h : SameInfo w w') : authText w'.cloud = authText w.cloud := by
  rw [authText, h.account_eq, h.password_eq, h.devinfo_eq, authText]

theorem Requests.sameInfo {cmd : ℕ} {t : CStr} (h : Requests cmd t w r w') : SameInfo w w' := by
  refine ⟨?_, ?_, ?_⟩ <;> rw [h.cloud_eq]

theorem Updates.sameInfo (h : Updates w r w') : SameInfo w w' := by
  refine ⟨?_, ?_, ?_⟩ <;> rw [h.cloud_eq]

theorem Polls.sameInfo (h : Polls w w') : SameInfo w w' := by
  refine ⟨?_, ?_, ?_⟩ <;> rw [h.cloud_eq]

theorem World.disconnect_sameInfo (w : World P) : SameInfo w w.disconnect := by
  refine ⟨?_, ?_, ?_⟩ <;> rw [World.cloud_disconnect]

theorem World.setStatus_sameInfo (w : World P) (s : Status) : SameInfo w (w.setStatus s) :=
  ⟨rfl, rfl, rfl⟩

theorem World.bound_sameInfo (w : World P) : SameInfo w w.bound := ⟨rfl, rfl, rfl⟩

end Info

section Steps

/-- A request that is neither `UPDEV` nor `BINDEV` meets the condition. -/
theorem Requests.ignored {cmd : ℕ} {t : CStr} (hq : Requests cmd t w r w') (hR : Ignores P R)
    (hu : cmd ≠ P.cldcmdUpdev) (hb : cmd ≠ P.cldcmdBindev) : Writes R w.trace w'.trace :=
  hq.writes fun _ _ hc => hR _ _ _ _ (hc.cmd_eq ▸ hu) (hc.cmd_eq ▸ hb)

theorem Auths.ignored (ha : Auths w r w') (hR : Ignores P R) : Writes R w.trace w'.trace := by
  have := P.cmds_ne
  exact Requests.ignored ha hR (by omega) (by omega)

theorem Ubinds.ignored (hu : Ubinds w r w') (hR : Ignores P R) : Writes R w.trace w'.trace := by
  have := P.cmds_ne
  exact Requests.ignored hu hR (by omega) (by omega)

theorem Regusrs.ignored {account username password : CStr}
    (hr : Regusrs account username password w r w') (hR : Ignores P R) :
    Writes R w.trace w'.trace := by
  obtain ⟨code, hq⟩ := hr
  have := P.cmds_ne
  exact hq.ignored hR (by omega) (by omega)

theorem Polls.ignored (hp : Polls w w') (hR : Ignores P R) : Writes R w.trace w'.trace := by
  have key : ∀ {r : ℤ} {w₁ : World P}, Control w r w₁ → Writes R w.trace w₁.trace := fun hc =>
    hc.writes fun tr fd hdr payload hcmd => by
      obtain ⟨-, -, ⟨hub, huu, -⟩, ⟨-, hbd⟩, hud⟩ := P.cmds_ne
      rcases hcmd with hcmd | hcmd
      · exact hR _ _ _ _ (hcmd ▸ huu) (hcmd ▸ hub)
      · exact hR _ _ _ _ (hcmd ▸ hud.symm) (hcmd ▸ hbd.symm)
  cases hp with
  | quiet => exact .refl
  | served _ hc => exact key hc
  | failed _ _ hc => exact (key hc).trans (World.disconnect_writes _)

theorem DaemonStep.writes (hd : DaemonStep w w') (hR : Ignores P R)
    (hu : ∀ v v' r, UpdatesFrom w v → SameInfo v w' → Updates v r v' →
      Writes R v.trace v'.trace) : Writes R w.trace w'.trace := by
  cases hd with
  | initIdle _ _ hp => exact hp.ignored hR
  | initBound _ _ => exact .refl
  | connectFailed _ hc _ => exact hc.effect.writes _
  | connectUnbound _ _ hc => exact hc.effect.writes _
  | authFailed _ _ hc ha _ => exact (hc.effect.writes _).trans (ha.ignored hR)
  | updateFailed _ _ hc ha hup _ =>
    have hw := hu _ _ _ (.connected hc ha) (hup.sameInfo.trans (World.setStatus_sameInfo _ _)) hup
    exact ((hc.effect.writes _).trans (ha.ignored hR)).trans hw
  | connected _ _ hc ha hup =>
    have hw := hu _ _ _ (.connected hc ha) (hup.sameInfo.trans (World.setStatus_sameInfo _ _)) hup
    exact ((hc.effect.writes _).trans (ha.ignored hR)).trans hw
  | dropUnbound _ _ => exact .refl
  | upToDate _ _ _ hp => exact hp.ignored hR
  | refreshFailed hs hb _ _ hup _ =>
    have hw := hu _ _ _ (.refresh hs hb) (hup.sameInfo.trans (World.setStatus_sameInfo _ _)) hup
    exact hw
  | refreshed hs hb _ _ hup hp =>
    have hw := hu _ _ _ (.refresh hs hb) (hup.sameInfo.trans hp.sameInfo) hup
    exact hw.trans (hp.ignored hR)
  | gaveUp _ _ => exact w.disconnect_writes
  | waiting _ _ _ _ => exact w.disconnect_writes
  | retry _ _ _ _ => exact w.disconnect_writes
  | broken _ => exact w.disconnect_writes
  | restart _ => exact w.disconnect_writes

theorem RegUsrStep.writes {account username password : CStr}
    (hr : RegUsrStep account username password w r w') (hR : Ignores P R) :
    Writes R w.trace w'.trace := by
  cases hr with
  | noConnection _ hc _ => exact hc.effect.writes _
  | offline _ hc hq => exact (hc.effect.writes _).trans (hq.ignored hR)
  | online _ _ hq => exact hq.ignored hR
  | dropped _ _ hq => exact (hq.ignored hR).trans (World.disconnect_writes _)

theorem BindStep.writes {user password devicename : CStr}
    (hr : BindStep user password devicename w r w') (hR : Ignores P R)
    (hb : ∀ v v' r, BindsFrom w v → SameInfo v w' → Binds v r v' → Writes R v.trace v'.trace)
    (hu : ∀ v v' r, UpdatesFrom w v → SameInfo v w' → Updates v r v' →
      Writes R v.trace v'.trace) : Writes R w.trace w'.trace := by
  have hd : ∀ {r : CommonStatus} {w₁ : World P}, Connects w.disconnect r w₁ →
      Writes R w.trace w₁.trace := fun hc => w.disconnect_writes.trans (hc.effect.writes _)
  have hinfo : ∀ {r : CommonStatus} {v v' : World P}, Binds v r v' → SameInfo v v' := by
    rintro r v v' ⟨code, hq⟩
    exact hq.sameInfo
  cases hr with
  | refused _ _ => exact .refl
  | noConnection _ hc _ => exact (hd hc).trans (World.disconnect_writes _)
  | authFailed _ hc ha _ => exact ((hd hc).trans (ha.ignored hR)).trans (World.disconnect_writes _)
  | bindFailed _ hc ha hbi _ =>
    have hw := hb _ _ _ (.authenticated hc ha)
      ((hinfo hbi).trans (World.disconnect_sameInfo _)) hbi
    exact (((hd hc).trans (ha.ignored hR)).trans hw).trans (World.disconnect_writes _)
  | bound _ hc ha hbi hup =>
    have hi := hup.sameInfo.trans (World.bound_sameInfo _)
    have hwb := hb _ _ _ (.authenticated hc ha) ((hinfo hbi).trans hi) hbi
    have hwu := hu _ _ _ (.bound hc ha hbi) hi hup
    exact (((hd hc).trans (ha.ignored hR)).trans hwb).trans hwu

theorem UBindOnline.writes (hu : UBindOnline w r w') (hR : Ignores P R) :
    Writes R w.trace w'.trace := by
  cases hu with
  | acknowledged hu => exact (hu.ignored hR).trans (World.disconnect_writes (World.unbound _ _))
  | failed hu _ => exact (hu.ignored hR).trans (World.setStatus_disconnect_writes _ _)

theorem UBindStep.writes (hu : UBindStep w r w') (hR : Ignores P R) :
    Writes R w.trace w'.trace := by
  cases hu with
  | notBound _ => exact .refl
  | noConnection _ _ hc _ =>
    exact (hc.effect.writes _).trans (World.setStatus_disconnect_writes _ _)
  | authFailed _ _ hc ha _ =>
    exact ((hc.effect.writes _).trans (ha.ignored hR)).trans
      (World.setStatus_disconnect_writes _ _)
  | offline _ _ hc ha ho =>
    exact ((hc.effect.writes _).trans (ha.ignored hR)).trans (ho.writes hR)
  | online _ _ ho => exact ho.writes hR

/-- **What a step sends.**  The packets of a step meet a condition on `UPDEV` and `BINDEV`
packets if these requests meet it wherever the step can make them. -/
theorem Moves.writes {a : Action} (hm : Moves w a w') (hR : Ignores P R)
    (hb : ∀ v v' r, BindsFrom w v → SameInfo v w' → Binds v r v' → Writes R v.trace v'.trace)
    (hu : ∀ v v' r, UpdatesFrom w v → SameInfo v w' → Updates v r v' →
      Writes R v.trace v'.trace) : Writes R w.trace w'.trace := by
  cases hm with
  | daemon hd => exact hd.writes hR hu
  | notice _ _ => exact .refl
  | restart _ => exact .refl
  | ignored _ _ => exact .refl
  | regUsr hr => exact hr.writes hR
  | bind hr => exact hr.writes hR hb hu
  | ubind hu => exact hu.writes hR
  | ping =>
    rw [World.pinged]
    split <;> exact .refl

end Steps

end SwCloud
