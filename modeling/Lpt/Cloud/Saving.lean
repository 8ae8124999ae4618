import Lpt.Base.Partial
import Lpt.Cloud.Phrases
import Lpt.Cloud.Authenticated

/-!
# What an action saves when it is cut off

The configuration is saved with every `sysConfSetString`; the account and the password of a
binding are saved one after the other.  An action that is cut off anywhere has saved nothing,
or the account, or both.

* `Acknowledged` — the server has accepted a pair, and a binding with it.
* `SparesConf` — a program does not write the configuration.
* `ConfCase` — what a part of an action can do to the configuration.
* `Action.confCase` — every action, cut off anywhere.
-/

namespace SwCloud

open CLib Effect Trans

variable {P : CldProtocol}

/-! ## What is saved -/

/-- The account and the password of a binding. -/
abbrev Pair (P : CldProtocol) : Type := Field P.cloudNameLen × Field P.cloudNameLen

/-- The pair that is saved. -/
def Conf.pair (f : Conf P) : Pair P := (f.account, f.password)

/-- The server has accepted the pair in an `AUTH`, and then a `BINDEV` over the same
connection. -/
def Acknowledged (P : CldProtocol) (tr : List Event) (p : Pair P) : Prop :=
  ∃ newer e older fd id code, tr = newer ++ e :: older ∧
    e.okReply P P.cldcmdBindev = some (fd, lines [id, code]) ∧
      (fd, lines [p.1.str, p.2.str, id]) ∈ okReplies P P.cldcmdAuth (conn older)

/-- The pair may be saved: it is empty, or the server has acknowledged it. -/
def Granted (P : CldProtocol) (tr : List Event) (p : Pair P) : Prop :=
  p = (.zero, .zero) ∨ Acknowledged P tr p

/-- **What can become of the configuration** on the way from `w` to `w'`. -/
inductive ConfCase (w w' : World P) : Prop
  | same : w'.conf = w.conf → ConfCase w w'
  /-- The account has been saved. -/
  | half (p : Pair P) : Granted P w'.trace p → w'.conf = { w.conf with account := p.1 } →
      ConfCase w w'
  /-- The account and the password have been saved. -/
  | whole (p : Pair P) : Granted P w'.trace p →
      w'.conf = { w.conf with account := p.1, password := p.2 } → ConfCase w w'

/-- The worlds a program of this module passes through. -/
abbrev Passes {α : Type} (p : CloudM P α) (w w' : World P) : Prop := p.Reaches (handle P) w w'

section Passing

variable {α β : Type} {p : CloudM P α} {f : α → CloudM P β} {w w₁ w' : World P} {pair : Pair P}
  {tr : List Event}

theorem Passes.suffix (h : Passes p w w') : w.trace <:+ w'.trace :=
  Prog.Reaches.growing (H := handle P) (fun w w' : World P => w.trace <:+ w'.trace)
    (fun _ => List.suffix_rfl) (fun _ _ _ _ _ _ hx hrest => (handle_suffix hx).trans hrest) h

theorem Acknowledged.mono (h : Acknowledged P tr pair) {tr' : List Event} (hs : tr <:+ tr') :
    Acknowledged P tr' pair := by
  obtain ⟨newer, e, older, fd, id, code, rfl, hrest⟩ := h
  obtain ⟨more, rfl⟩ := hs
  exact ⟨more ++ newer, e, older, fd, id, code, (List.append_assoc ..).symm, hrest⟩

/-- It does not matter what was recorded before. -/
theorem Acknowledged.past (h : Acknowledged P tr pair) (past : List Event) :
    Acknowledged P (tr ++ past) pair := by
  obtain ⟨newer, e, older, fd, id, code, rfl, hbind, hauth⟩ := h
  refine ⟨newer, e, older ++ past, fd, id, code, by simp, hbind, ?_⟩
  have hpre : conn older <+: conn (older ++ past) := by
    unfold conn
    rw [List.takeWhile_append]
    split
    · rename_i hall
      rw [(List.takeWhile_prefix _).eq_of_length hall]
      exact List.prefix_append ..
    · exact List.prefix_rfl
  exact (hpre.sublist.filterMap _).subset hauth

theorem Granted.mono (h : Granted P tr pair) {tr' : List Event} (hs : tr <:+ tr') :
    Granted P tr' pair :=
  h.imp_right (·.mono hs)

theorem Granted.past (h : Granted P tr pair) (past : List Event) : Granted P (tr ++ past) pair :=
  h.imp_right (·.past past)

/-- What comes before the configuration is touched. -/
theorem ConfCase.of_before (h : ConfCase w₁ w') (hf : w₁.conf = w.conf) : ConfCase w w' := by
  cases h with
  | same h => exact .same (h.trans hf)
  | half p hp h => exact .half p hp (h.trans (by rw [hf]))
  | whole p hp h => exact .whole p hp (h.trans (by rw [hf]))

/-- What comes after. -/
theorem ConfCase.then (h : ConfCase w w₁) (hf : w'.conf = w₁.conf) (ht : w₁.trace <:+ w'.trace) :
    ConfCase w w' := by
  cases h with
  | same h => exact .same (hf.trans h)
  | half p hp h => exact .half p (hp.mono ht) (hf.trans h)
  | whole p hp h => exact .whole p (hp.mono ht) (hf.trans h)

end Passing

/-! ## What does not touch the configuration -/

/-- The operations that do not write the configuration. -/
def Op.sparesConf : Op P → Prop
  | .sysConfSetString .. => False
  | _ => True

/-- They leave it as it is. -/
theorem handle_conf {o : Op P} {i : Input} {x : Ans P o} {w w' : World P}
    (h : handle P o i w = some (x, w')) (ho : o.sparesConf) : w'.conf = w.conf := by
  have hr : Runs (perform o) w x w' := runs_perform.2 ⟨i, h⟩
  cases o with
  | get => rw [(runs_getCloud.1 hr).2]
  | modify f => rw [runs_modifyCloud.1 hr, World.conf_modify]
  | getStatus => rw [(runs_getStatus.1 hr).2]
  | setStatus s => rw [runs_setStatus.1 hr, World.conf_modify]
  | getUpdate => rw [(runs_getUpdate.1 hr).2]
  | setUpdate b => rw [runs_setUpdate.1 hr, World.conf_modify]
  | lock => rw [runs_lock.1 hr]
  | unlock => rw [runs_unlock.1 hr]
  | socket =>
    rcases runs_socket.1 hr with ⟨-, rfl⟩ | ⟨-, -, rfl⟩
    · rw [World.conf_log]
    · rw [World.conf_opened]
  | connect fd => rw [runs_connect.1 hr, World.conf_log]
  | readGreeting fd => rw [runs_readGreeting.1 hr, World.conf_log]
  | close fd => rw [runs_close.1 hr, World.conf_closed]
  | tcpWrite fd hdr payload => rw [runs_tcpWritePacket hr, World.conf_log]
  | recvPacket rc fd res => rw [(runs_recvPacket hr).1, World.conf_log]
  | select fd t => rw [runs_select.1 hr]
  | sleep t => rw [runs_sleep.1 hr]
  | stack n => rw [(runs_stack.1 hr).2]
  | logTooLarge cmd => rw [runs_logTooLarge.1 hr, World.conf_log]
  | crash => exact absurd hr not_runs_crash
  | sysConfGetLong key => rw [(runs_sysConfGetLong.1 hr).2]
  | sysConfSetString key v => exact ho.elim
  | swSystemSetProductName name => rw [runs_swSystemSetProductName.1 hr]
  | swSystemSetProductNameCheck name => rw [runs_swSystemSetProductNameCheck.1 hr]
  | swVideoCtrlGetResolution => rw [runs_swVideoCtrlGetResolution.1 hr]
  | swVideoCtrlSetResolution a b => rw [runs_swVideoCtrlSetResolution.1 hr]

/-- The discipline that forbids to write the configuration. -/
noncomputable def confDiscipline (P : CldProtocol) : Discipline (Op P) (Ans P) Unit :=
  Discipline.ofRule (fun _ o => o.sparesConf) fun s _ _ => s

/-- The program does not write the configuration. -/
def SparesConf {α : Type} (p : CloudM P α) : Prop := p.Obeys (confDiscipline P) () ()

namespace SparesConf

variable {α β : Type} {p q : CloudM P α} {f : α → CloudM P β} {w w₁ w' : World P}

theorem allowed {o : Op P} (ho : o.sparesConf) : confDiscipline P () o = some fun _ => () :=
  Discipline.ofRule_eq_some.2 ⟨ho, rfl⟩

theorem pure (a : α) : SparesConf (pure a : CloudM P α) := rfl

theorem bind (hp : SparesConf p) (hf : ∀ a, SparesConf (f a)) : SparesConf (p >>= f) :=
  Prog.Obeys.bind hp hf

theorem ite {c : Prop} [Decidable c] (hp : SparesConf p) (hq : SparesConf q) :
    SparesConf (if c then p else q) :=
  obeys_ite hp hq

theorem op (o : Op P) (ho : o.sparesConf) : SparesConf (perform o) :=
  obeys_perform (allowed ho)

/-- **The configuration is the same** in every world passed through. -/
theorem conf_eq (hp : SparesConf p) (h : Passes p w w') : w'.conf = w.conf :=
  Prog.Reaches.frame (D := confDiscipline P) World.conf
    (fun _ _ _ _ _ _ _ hd hx => handle_conf hx (Discipline.ofRule_eq_some.1 hd).1) hp h

/-- A program that is cut off in or after a part that spares the configuration. -/
theorem confCase_bind (hp : SparesConf p) (hf : ∀ a w₁, Runs p w a w₁ → Passes (f a) w₁ w' →
    ConfCase w₁ w') (h : Passes (p >>= f) w w') : ConfCase w w' := by
  rcases Prog.reaches_bind.1 h with h | ⟨a, w₁, hr, h⟩
  · exact .same (hp.conf_eq h)
  · exact (hf a w₁ hr h).of_before (hp.conf_eq hr.reaches)

/-- A program that spares the configuration from some point on. -/
theorem bind_confCase (hp : ∀ w₁, Passes p w w₁ → ConfCase w w₁) (hf : ∀ a, SparesConf (f a))
    (h : Passes (p >>= f) w w') : ConfCase w w' := by
  rcases Prog.reaches_bind.1 h with h | ⟨a, w₁, hr, h⟩
  · exact hp w' h
  · exact (hp w₁ hr.reaches).then ((hf a).conf_eq h) (Passes.suffix h)

theorem confCase (hp : SparesConf p) (h : Passes p w w') : ConfCase w w' := .same (hp.conf_eq h)

/-! ### The functions of the module -/

theorem cloudSetStatus (s : Status) : SparesConf (cloudSetStatus s : CloudM P _) :=
  (op .lock trivial).bind fun _ => (op (.setStatus s) trivial).bind fun _ => op .unlock trivial

theorem cloudGetStatus : SparesConf (cloudGetStatus : CloudM P _) :=
  (op .lock trivial).bind fun _ => (op .getStatus trivial).bind fun _ =>
    (op .unlock trivial).bind fun _ => pure _

theorem cloudSendPacket (cmd : ℕ) (data : CStr) (flags : ℕ) (res : List UInt8) :
    SparesConf (cloudSendPacket cmd data flags res : CloudM P _) :=
  obeys_cloudSendPacket (fun o ho => allowed (by cases o <;> first | exact ho.elim | trivial))
    cmd data flags res

theorem cloudRequest (cmd : ℕ) (t : CStr) (other : List UInt8 → CommonStatus) :
    SparesConf (cloudRequest cmd t other : CloudM P _) :=
  (cloudSendPacket ..).bind fun _ => .ite (pure _) (.ite (pure _) (pure _))

theorem cloudDoRegusr (account username password : CStr) :
    SparesConf (cloudDoRegusr account username password : CloudM P _) :=
  (op (.stack _) trivial).bind fun _ => cloudRequest ..

theorem cloudDoAuth : SparesConf (cloudDoAuth : CloudM P _) :=
  (op .get trivial).bind fun _ => cloudRequest ..

theorem cloudDoUbind : SparesConf (cloudDoUbind : CloudM P _) := cloudRequest ..

theorem cloudDoBind : SparesConf (cloudDoBind : CloudM P _) :=
  (op (.stack _) trivial).bind fun _ => (op .get trivial).bind fun _ => cloudRequest ..

theorem cloudDoUpdate : SparesConf (cloudDoUpdate : CloudM P _) :=
  (op .get trivial).bind fun _ => (cloudRequest ..).bind fun _ =>
    .ite ((op (.modify _) trivial).bind fun _ => pure _) (pure _)

theorem cloudDoDisconnect : SparesConf (cloudDoDisconnect : CloudM P _) :=
  (op .get trivial).bind fun _ =>
    .ite ((op (.close _) trivial).bind fun _ => op (.modify _) trivial) (pure _)

theorem connectFailed : SparesConf (connectFailed : CloudM P _) :=
  (op (.modify _) trivial).bind fun _ => pure _

theorem cloudDoConnect : SparesConf (cloudDoConnect : CloudM P _) := by
  refine (op .socket trivial).bind fun _ => (op (.modify _) trivial).bind fun _ => ?_
  refine (op .get trivial).bind fun _ => .ite connectFailed ?_
  refine (op (.connect _) trivial).bind fun _ => .ite connectFailed ?_
  refine (op .get trivial).bind fun _ => (op (.readGreeting _) trivial).bind fun _ => ?_
  refine .ite connectFailed ?_
  exact (op (.modify _) trivial).bind fun _ => pure _

theorem cloudNeedUpdate : SparesConf (cloudNeedUpdate : CloudM P _) :=
  (op .get trivial).bind fun _ => .ite (pure _)
    ((op .getUpdate trivial).bind fun _ => (op (.setUpdate _) trivial).bind fun _ => pure _)

theorem networkReadEvent (mwait : ℤ) : SparesConf (networkReadEvent mwait : CloudM P _) := by
  refine (op .get trivial).bind fun _ => .ite ((op (.sleep _) trivial).bind fun _ => pure _) ?_
  refine (op (.select ..) trivial).bind fun ret => ?_
  cases ret <;> exact pure _

theorem cloudClearCounter : SparesConf (cloudClearCounter : CloudM P _) :=
  (op (.modify _) trivial).bind fun _ => (op (.modify _) trivial).bind fun _ =>
    (op (.sysConfGetLong _) trivial).bind fun _ => op (.modify _) trivial

theorem receiveControl (buf : List UInt8) : SparesConf (receiveControl buf : CloudM P _) :=
  (networkReadEvent _).bind fun _ =>
    .ite ((op .get trivial).bind fun _ => op (.recvPacket ..) trivial) (pure _)

theorem sendControl (buf : List UInt8) : SparesConf (sendControl buf : CloudM P _) :=
  (cloudSendPacket ..).bind fun _ => .ite (pure _) (pure _)

theorem controlRename (buf : List UInt8) : SparesConf (controlRename buf : CloudM P _) :=
  (op (.swSystemSetProductName _) trivial).bind fun _ => sendControl _

theorem controlGetResolution (buf : List UInt8) :
    SparesConf (controlGetResolution buf : CloudM P _) :=
  (op .swVideoCtrlGetResolution trivial).bind fun _ => sendControl _

theorem controlResolution (buf : List UInt8) : SparesConf (controlResolution buf : CloudM P _) := by
  unfold SwCloud.controlResolution
  dsimp only
  split
  · exact (op (.swVideoCtrlSetResolution ..) trivial).bind fun _ => sendControl _
  · exact sendControl _

theorem handling : Handling fun _ (p : CloudM P _) => SparesConf p where
  pure := pure
  bind := bind
  setInfo _ := op (.modify _) trivial
  getStatus := cloudGetStatus
  setRestart := cloudSetStatus _
  markUpdate := (op .lock trivial).bind fun _ => (op (.setUpdate _) trivial).bind fun _ =>
    op .unlock trivial
  upnpUpdate _ := (op .lock trivial).bind fun _ => (op (.modify _) trivial).bind fun _ =>
    (op (.setUpdate _) trivial).bind fun _ => op .unlock trivial

theorem regUsrReturn (err : CommonStatus) : SparesConf (regUsrReturn err : CloudM P _) :=
  (op .get trivial).bind fun _ => .ite (cloudGetStatus.bind fun _ => .ite
    (cloudDoDisconnect.bind fun _ => (cloudSetStatus _).bind fun _ => pure _) (pure _)) (pure _)

theorem swCloudRegUsr (account username password : Option CStr) :
    SparesConf (swCloudRegUsr account username password : CloudM P _) := by
  unfold SwCloud.swCloudRegUsr
  split
  · refine cloudGetStatus.bind fun _ => .ite (cloudDoConnect.bind fun _ => .ite ?_ ?_) ?_
    · exact regUsrReturn _
    · exact (cloudDoRegusr ..).bind regUsrReturn
    · exact (cloudDoRegusr ..).bind regUsrReturn
  · exact pure _

theorem swCloudPing : SparesConf (swCloudPing : CloudM P _) := by
  have hread : SparesConf (do
      let c ← getCloud
      return c.reachable : CloudM P Reachable) := (op .get trivial).bind fun _ => pure _
  unfold SwCloud.swCloudPing
  refine cloudGetStatus.bind fun _ => .ite (cloudGetStatus.bind fun _ => .ite ?_ hread) hread
  exact cloudClearCounter.bind fun _ => (cloudSetStatus _).bind fun _ => hread

end SparesConf

/-! ## What writes it -/

section Writers

variable {α : Type} {w w₁ w₂ w₃ w' : World P} {k : CloudM P α}

/-- The password is saved. -/
theorem passes_savePassword {v : Field P.cloudNameLen} (hk : SparesConf k)
    (h : Passes (sysConfSetString .password v >>= fun _ => k) w w') :
    w'.conf = w.conf ∨ w'.conf = { w.conf with password := v } := by
  rcases Prog.reaches_bind.1 h with h | ⟨_, w₁, hr, h⟩
  · rcases Prog.reaches_call.1 h with rfl | ⟨_, h⟩
    · exact Or.inl rfl
    · rw [runs_sysConfSetString.1 h]
      exact Or.inr rfl
  · rw [hk.conf_eq h, runs_sysConfSetString.1 hr]
    exact Or.inr rfl

/-- **A pair is saved**, the account first. -/
theorem confCase_savePair (p : Pair P) (hg : Granted P w.trace p)
    (hk : ∀ v, Passes k (w.setConf .account p.1) v → v.conf = { w.conf with account := p.1 } ∨
      v.conf = { w.conf with account := p.1, password := p.2 })
    (h : Passes (sysConfSetString .account p.1 >>= fun _ => k) w w') : ConfCase w w' := by
  have hg' : Granted P w'.trace p := hg.mono (Passes.suffix h)
  rcases Prog.reaches_bind.1 h with h | ⟨_, w₁, hr, h⟩
  · rcases Prog.reaches_call.1 h with rfl | ⟨_, h⟩
    · exact .same rfl
    · exact .half p hg' (by rw [runs_sysConfSetString.1 h]; rfl)
  · obtain rfl := runs_sysConfSetString.1 hr
    rcases hk w' h with hc | hc
    · exact .half p hg' hc
    · exact .whole p hg' hc

/-- The binding is forgotten. -/
theorem confCase_forget (hk : SparesConf k)
    (h : Passes (do sysConfSetString .account .zero; sysConfSetString .password .zero; k) w w') :
    ConfCase w w' :=
  confCase_savePair (.zero, .zero) (Or.inl rfl) (fun _ h => passes_savePassword hk h) h

theorem confCase_controlUnbind {buf : List UInt8} (h : Passes (controlUnbind buf) w w') :
    ConfCase w w' := by
  refine SparesConf.confCase_bind .cloudDoUbind (fun ret w₁ _ h => ?_) h
  rcases Prog.reaches_ite.1 h with ⟨-, h⟩ | ⟨-, h⟩
  · refine SparesConf.confCase_bind (.op (.modify _) trivial) (fun _ w₂ _ h => ?_) h
    refine SparesConf.confCase_bind (.cloudSetStatus _) (fun _ w₃ _ h => ?_) h
    exact confCase_forget (.sendControl _) h
  · exact SparesConf.confCase (.sendControl _) h

theorem confCase_ubindConnected (h : Passes ubindConnected w w') : ConfCase w w' := by
  refine SparesConf.confCase_bind .cloudDoUbind (fun err w₁ _ h => ?_) h
  rcases Prog.reaches_ite.1 h with ⟨-, h⟩ | ⟨-, h⟩
  · refine SparesConf.confCase_bind (.op (.modify _) trivial) (fun _ w₂ _ h => ?_) h
    refine SparesConf.confCase_bind (.cloudSetStatus _) (fun _ w₃ _ h => ?_) h
    exact confCase_forget (SparesConf.cloudDoDisconnect.bind fun _ => .pure _) h
  · refine SparesConf.confCase ?_ h
    exact (SparesConf.cloudSetStatus _).bind fun _ => SparesConf.cloudDoDisconnect.bind fun _ =>
      .pure _

theorem confCase_swCloudUBind (h : Passes swCloudUBind w w') : ConfCase w w' := by
  have hleave : ∀ (s : Status) (err : CommonStatus), SparesConf (do
      cloudSetStatus s
      cloudDoDisconnect
      return err : CloudM P CommonStatus) := fun s err =>
    (SparesConf.cloudSetStatus s).bind fun _ => SparesConf.cloudDoDisconnect.bind fun _ => .pure _
  unfold swCloudUBind at h
  refine SparesConf.confCase_bind (.op .get trivial) (fun c w₁ _ h => ?_) h
  rcases Prog.reaches_ite.1 h with ⟨-, h⟩ | ⟨-, h⟩
  · exact SparesConf.confCase (.pure _) h
  refine SparesConf.confCase_bind .cloudGetStatus (fun status w₂ _ h => ?_) h
  rcases Prog.reaches_ite.1 h with ⟨-, h⟩ | ⟨-, h⟩
  · unfold ubindOffline at h
    refine SparesConf.confCase_bind .cloudDoConnect (fun err w₃ _ h => ?_) h
    rcases Prog.reaches_ite.1 h with ⟨-, h⟩ | ⟨-, h⟩
    · refine SparesConf.confCase_bind .cloudDoAuth (fun err w₄ _ h => ?_) h
      rcases Prog.reaches_ite.1 h with ⟨-, h⟩ | ⟨-, h⟩
      · exact SparesConf.confCase (hleave _ _) h
      · exact confCase_ubindConnected h
    · exact SparesConf.confCase (hleave _ _) h
  · exact confCase_ubindConnected h

/-! ### The daemon -/

theorem confCase_networkDeviceControl (h : Passes networkDeviceControl w w') : ConfCase w w' := by
  unfold networkDeviceControl at h
  refine SparesConf.confCase_bind (.op (.stack _) trivial) (fun buf w₁ _ h => ?_) h
  refine SparesConf.confCase_bind (.op .lock trivial) (fun _ w₂ _ h => ?_) h
  refine SparesConf.confCase_bind (.receiveControl _) (fun r w₃ _ h => ?_) h
  refine SparesConf.confCase_bind (.op .unlock trivial) (fun _ w₄ _ h => ?_) h
  rcases Prog.reaches_ite.1 h with ⟨-, h⟩ | ⟨-, h⟩
  · exact SparesConf.confCase (.pure _) h
  rcases Prog.reaches_ite.1 h with ⟨-, h⟩ | ⟨-, h⟩
  · exact SparesConf.confCase (.pure _) h
  rcases Prog.reaches_ite.1 h with ⟨-, h⟩ | ⟨-, h⟩
  · exact SparesConf.confCase (.sendControl _) h
  rcases Prog.reaches_ite.1 h with ⟨-, h⟩ | ⟨-, h⟩
  · exact SparesConf.confCase (.controlRename _) h
  rcases Prog.reaches_ite.1 h with ⟨-, h⟩ | ⟨-, h⟩
  · exact confCase_controlUnbind h
  rcases Prog.reaches_ite.1 h with ⟨-, h⟩ | ⟨-, h⟩
  · exact SparesConf.confCase (.controlGetResolution _) h
  rcases Prog.reaches_ite.1 h with ⟨-, h⟩ | ⟨-, h⟩
  · exact SparesConf.confCase (.controlResolution _) h
  · exact SparesConf.confCase (.pure _) h

theorem confCase_pollControl (h : Passes pollControl w w') : ConfCase w w' := by
  refine SparesConf.confCase_bind (.networkReadEvent _) (fun event w₁ _ h => ?_) h
  rcases Prog.reaches_ite.1 h with ⟨-, h⟩ | ⟨-, h⟩
  · refine SparesConf.bind_confCase (fun v h => confCase_networkDeviceControl h) (fun ret => ?_) h
    exact .ite (SparesConf.cloudDoDisconnect.bind fun _ => .cloudSetStatus _) (.pure _)
  · exact SparesConf.confCase (.pure _) h

theorem confCase_daemonUpdate {next : CloudM P Unit}
    (hn : ∀ v, Passes next v w' → ConfCase v w') (h : Passes (daemonUpdate next) w w') :
    ConfCase w w' := by
  refine SparesConf.confCase_bind .cloudDoUpdate (fun ret w₁ _ h => ?_) h
  rcases Prog.reaches_ite.1 h with ⟨-, h⟩ | ⟨-, h⟩
  · exact SparesConf.confCase (.cloudSetStatus _) h
  rcases Prog.reaches_ite.1 h with ⟨-, h⟩ | ⟨-, h⟩
  · exact SparesConf.confCase (.cloudSetStatus _) h
  · exact hn w₁ h

theorem confCase_daemonConnecting (h : Passes daemonConnecting w w') : ConfCase w w' := by
  unfold daemonConnecting at h
  refine SparesConf.confCase_bind .cloudDoConnect (fun ret w₁ _ h => ?_) h
  rcases Prog.reaches_ite.1 h with ⟨-, h⟩ | ⟨-, h⟩
  · exact SparesConf.confCase (.cloudSetStatus _) h
  refine SparesConf.confCase_bind (.op .get trivial) (fun c w₂ _ h => ?_) h
  rcases Prog.reaches_ite.1 h with ⟨-, h⟩ | ⟨-, h⟩
  · refine SparesConf.confCase_bind .cloudDoAuth (fun ret w₃ _ h => ?_) h
    rcases Prog.reaches_ite.1 h with ⟨-, h⟩ | ⟨-, h⟩
    · exact SparesConf.confCase (.cloudSetStatus _) h
    rcases Prog.reaches_ite.1 h with ⟨-, h⟩ | ⟨-, h⟩
    · exact SparesConf.confCase (.cloudSetStatus _) h
    · exact confCase_daemonUpdate (fun v h => SparesConf.confCase (.cloudSetStatus _) h) h
  · refine SparesConf.confCase ?_ h
    exact (SparesConf.cloudSetStatus _).bind fun _ => .cloudClearCounter

theorem confCase_daemonConnected (h : Passes daemonConnected w w') : ConfCase w w' := by
  unfold daemonConnected at h
  refine SparesConf.confCase_bind (.op .get trivial) (fun c w₁ _ h => ?_) h
  rcases Prog.reaches_ite.1 h with ⟨-, h⟩ | ⟨-, h⟩
  · refine SparesConf.confCase_bind .cloudNeedUpdate (fun update w₂ _ h => ?_) h
    rcases Prog.reaches_ite.1 h with ⟨-, h⟩ | ⟨-, h⟩
    · exact confCase_daemonUpdate (fun v h => confCase_pollControl h) h
    · exact confCase_pollControl h
  · exact SparesConf.confCase (.cloudSetStatus _) h

theorem confCase_daemonDisconnected (h : Passes daemonDisconnected w w') : ConfCase w w' := by
  have hretry : SparesConf (retryConnect : CloudM P Unit) :=
    (SparesConf.op (.modify _) trivial).bind fun _ => (SparesConf.op (.modify _) trivial).bind
      fun _ => (SparesConf.op (.modify _) trivial).bind fun _ => .cloudSetStatus _
  unfold daemonDisconnected at h
  refine SparesConf.confCase_bind .cloudDoDisconnect (fun _ w₁ _ h => ?_) h
  refine SparesConf.confCase_bind (.op .get trivial) (fun c w₂ _ h => ?_) h
  rcases Prog.reaches_ite.1 h with ⟨-, h⟩ | ⟨-, h⟩
  · rcases Prog.reaches_ite.1 h with ⟨-, h⟩ | ⟨-, h⟩
    · refine SparesConf.confCase_bind hretry (fun _ w₃ _ h => ?_) h
      exact SparesConf.confCase_bind (.op (.modify _) trivial)
        (fun _ w₄ _ h => confCase_pollControl h) h
    · exact SparesConf.confCase_bind (.op (.modify _) trivial)
        (fun _ w₄ _ h => confCase_pollControl h) h
  · exact confCase_pollControl h

theorem confCase_cloudDaemon (h : Passes cloudDaemon w w') : ConfCase w w' := by
  unfold cloudDaemon at h
  refine SparesConf.confCase_bind .cloudGetStatus (fun status w₁ _ h => ?_) h
  cases status with
  | init =>
    refine SparesConf.confCase_bind (.op .get trivial) (fun c w₂ _ h => ?_) h
    rcases Prog.reaches_ite.1 h with ⟨-, h⟩ | ⟨-, h⟩
    · exact confCase_pollControl h
    · exact SparesConf.confCase (.cloudSetStatus _) h
  | connecting => exact confCase_daemonConnecting h
  | connected => exact confCase_daemonConnected h
  | disconnected => exact confCase_daemonDisconnected h
  | broken =>
    exact SparesConf.confCase_bind .cloudDoDisconnect (fun _ w₂ _ h => confCase_pollControl h) h
  | restart =>
    refine SparesConf.confCase ?_ h
    exact SparesConf.cloudDoDisconnect.bind fun _ => (SparesConf.op (.modify _) trivial).bind
      fun _ => SparesConf.cloudClearCounter.bind fun _ => .cloudSetStatus _

/-! ### Binding -/

/-- After a connect, an accepted `AUTH` with new credentials and an accepted `BINDEV` the
credentials are acknowledged. -/
theorem Connects.acknowledged {user password devicename : CStr} (hc : Connects w .succeed w₁)
    (ha : Auths (w₁.credited user password devicename) .succeed w₂) (hb : Binds w₂ .succeed w₃) :
    Acknowledged P w₃.trace (w₃.cloud.account, w₃.cloud.password) := by
  have hauth : Authenticated w₂ := ha.authenticated (hc.effect.fd_ne rfl) hc.effect.lastSocket_eq
  obtain ⟨code, hb⟩ := hb
  rw [hb.cloud_eq]
  obtain ⟨rep, hx, hrep⟩ := hb
  cases hx with
  | tooLarge _ => cases hrep
  | writeFailed _ _ => cases hrep
  | noReply _ _ => cases hrep
  | answered hcar hret _ =>
    refine ⟨[], _, _, w₂.cloud.fd, w₂.cloud.devinfo.id.str, code, rfl, ?_, ?_⟩
    · rw [Event.okReply, if_pos ⟨hcar.cmd_eq, hret, hrep.2.1 rfl⟩, hcar.text_eq]
    · exact hauth.mem_okReplies

theorem confCase_bindSucceeded
    (hack : Acknowledged P w.trace (w.cloud.account, w.cloud.password))
    (h : Passes bindSucceeded w w') : ConfCase w w' := by
  unfold bindSucceeded at h
  refine SparesConf.confCase_bind .cloudDoUpdate (fun r w₁ hr h => ?_) h
  -- the update leaves the credentials alone
  have hkept : w₁.cloud.account = w.cloud.account ∧ w₁.cloud.password = w.cloud.password := by
    rw [(runs_cloudDoUpdate hr).cloud_eq]
    exact ⟨rfl, rfl⟩
  have hack₁ : Acknowledged P w₁.trace (w.cloud.account, w.cloud.password) :=
    hack.mono (Passes.suffix hr.reaches)
  rw [← hkept.1, ← hkept.2] at hack₁
  refine SparesConf.confCase_bind (.cloudSetStatus _) (fun _ w₂ hr h => ?_) h
  obtain rfl := runs_cloudSetStatus.1 hr
  refine SparesConf.confCase_bind (.op (.modify _) trivial) (fun _ w₂ hr h => ?_) h
  obtain rfl := runs_modifyCloud.1 hr
  refine SparesConf.confCase_bind (.op .get trivial) (fun c w₂ hr h => ?_) h
  obtain ⟨rfl, rfl⟩ := runs_getCloud.1 hr
  refine confCase_savePair (w₁.cloud.account, w₁.cloud.password) (Or.inr hack₁) (fun v h => ?_) h
  rcases Prog.reaches_bind.1 h with h | ⟨c, w₃, hr, h⟩
  · exact Or.inl ((SparesConf.op .get trivial).conf_eq h)
  · obtain ⟨rfl, rfl⟩ := runs_getCloud.1 hr
    exact passes_savePassword (.pure _) h

theorem confCase_bindConnect {user password devicename : CStr}
    (h : Passes (bindConnect user password devicename) w w') : ConfCase w w' := by
  have hfailed : ∀ err, SparesConf (bindFailed err : CloudM P CommonStatus) := fun err =>
    SparesConf.cloudDoDisconnect.bind fun _ => .pure _
  unfold bindConnect at h
  refine SparesConf.confCase_bind .cloudDoDisconnect (fun _ w₁ _ h => ?_) h
  refine SparesConf.confCase_bind .cloudDoConnect (fun err w₂ hconn h => ?_) h
  rcases Prog.reaches_ite.1 h with ⟨rfl, h⟩ | ⟨-, h⟩
  · have hc := runs_cloudDoConnect hconn
    refine SparesConf.bind_confCase (fun v h => ?_)
      (fun err => (SparesConf.op .unlock trivial).bind fun _ => .pure _) h
    unfold bindConnected at h
    refine SparesConf.confCase_bind (.op (.modify _) trivial) (fun _ w₃ hr h => ?_) h
    obtain rfl := runs_modifyCloud.1 hr
    refine SparesConf.confCase_bind (.op (.modify _) trivial) (fun _ w₃ hr h => ?_) h
    obtain rfl := runs_modifyCloud.1 hr
    refine SparesConf.confCase_bind (.op (.modify _) trivial) (fun _ w₃ hr h => ?_) h
    obtain rfl := runs_modifyCloud.1 hr
    refine SparesConf.confCase_bind .cloudDoAuth (fun err w₄ hauth h => ?_) h
    rcases Prog.reaches_ite.1 h with ⟨rfl, h⟩ | ⟨-, h⟩
    · refine SparesConf.confCase_bind .cloudDoBind (fun err w₅ hbind h => ?_) h
      rcases Prog.reaches_ite.1 h with ⟨rfl, h⟩ | ⟨-, h⟩
      · have hack : Acknowledged P w₅.trace (w₅.cloud.account, w₅.cloud.password) :=
          Connects.acknowledged hc (runs_cloudDoAuth hauth) (runs_cloudDoBind hbind)
        exact confCase_bindSucceeded hack h
      · exact SparesConf.confCase (hfailed _) h
    · exact SparesConf.confCase (hfailed _) h
  · refine SparesConf.confCase ?_ h
    exact SparesConf.cloudDoDisconnect.bind fun _ =>
      (SparesConf.op .unlock trivial).bind fun _ => .pure _

theorem confCase_swCloudBind {user password devicename : Option CStr}
    (h : Passes (swCloudBind user password devicename) w w') : ConfCase w w' := by
  unfold swCloudBind at h
  split at h
  · refine SparesConf.confCase_bind (.op .lock trivial) (fun _ w₁ _ h => ?_) h
    refine SparesConf.confCase_bind (.op .get trivial) (fun c w₂ _ h => ?_) h
    rcases Prog.reaches_ite.1 h with ⟨-, h⟩ | ⟨-, h⟩
    · refine SparesConf.confCase_bind .cloudGetStatus (fun status w₃ _ h => ?_) h
      rcases Prog.reaches_ite.1 h with ⟨-, h⟩ | ⟨-, h⟩
      · refine SparesConf.confCase ?_ h
        exact (SparesConf.op .unlock trivial).bind fun _ => .pure _
      · exact confCase_bindConnect h
    · exact confCase_bindConnect h
  · exact SparesConf.confCase (.pure _) h

/-- **Every action, cut off anywhere.** -/
theorem Action.confCase {a : Action} (h : Passes (a.prog P) w w') : ConfCase w w' := by
  cases a with
  | daemon => exact confCase_cloudDaemon h
  | sysnameChange arg => exact SparesConf.confCase (SparesConf.handling.msgSysnameChange arg) h
  | networkChange arg => exact SparesConf.confCase (SparesConf.handling.msgNetworkChange arg) h
  | passwordChange arg => exact SparesConf.confCase (SparesConf.handling.msgPasswordChange arg) h
  | upnpChange arg => exact SparesConf.confCase (SparesConf.handling.msgUpnpChange arg) h
  | regUsr account username password =>
    exact SparesConf.confCase ((SparesConf.swCloudRegUsr ..).bind fun _ => .pure _) h
  | bind user password devicename =>
    exact SparesConf.bind_confCase (fun v h => confCase_swCloudBind h) (fun _ => .pure _) h
  | ubind =>
    exact SparesConf.bind_confCase (fun v h => confCase_swCloudUBind h) (fun _ => .pure _) h
  | ping => exact SparesConf.confCase (SparesConf.swCloudPing.bind fun _ => .pure _) h

end Writers

end SwCloud
