import Lpt.Cloud.Handlers

/-!
# The calls of other modules: `swCloudRegUsr`, `swCloudBind`, `swCloudUBind`, `swCloudPing`

These run in the threads of their callers, on the same struct and the same socket as
the daemon.  As for the daemon, each comes with the list of everything that can
become of it: `RegUsrStep`, `BindStep`, `UBindStep`, and `World.pinged` for the call
that does no I/O.
-/

namespace SwCloud

open CLib Effect

variable {P : CldProtocol}

/-- `swCloudGetStatus`. -/
def swCloudGetStatus : CloudM P Status := cloudGetStatus

/-- `swCloudDeviceBindStatus`. -/
def swCloudDeviceBindStatus : CloudM P ℤ := do
  let c ← getCloud
  return if c.binded then 1 else 0

/-! ## Registering a user -/

/-- The text of `swCloudRegUsr` from `L_REGUSR_RETURN` on. -/
def regUsrReturn (err : CommonStatus) : CloudM P CommonStatus := do
  let c ← getCloud
  if c.binded = false then do
    let status ← cloudGetStatus
    if status = .connected then do
      cloudDoDisconnect
      cloudSetStatus .disconnected
      return err
    else return err
  else return err

/-- `swCloudRegUsr`. -/
def swCloudRegUsr (account username password : Option CStr) : CloudM P CommonStatus :=
  match account, username, password with
  | some account, some username, some password => do
      let status ← cloudGetStatus
      if status ≠ .connected then do
        let err ← cloudDoConnect
        if err ≠ .succeed then regUsrReturn err
        else do
          let err ← cloudDoRegusr account username password
          regUsrReturn err
      else do
        let err ← cloudDoRegusr account username password
        regUsrReturn err
  | _, _, _ => return .error

/-! ## Binding -/

/-- The end of the connected branch of `swCloudBind` when `AUTH` or `BINDEV` has failed. -/
def bindFailed (err : CommonStatus) : CloudM P CommonStatus := do
  cloudDoDisconnect
  return err

/-- The part of `swCloudBind` after `BINDEV` has been answered with `OK`.  What becomes
of `UPDEV` is not looked at. -/
def bindSucceeded : CloudM P CommonStatus := do
  let _ ← cloudDoUpdate
  cloudSetStatus .connected
  modifyCloud fun c => { c with binded := true }
  let c ← getCloud
  sysConfSetString .account c.account
  let c ← getCloud
  sysConfSetString .password c.password
  return .succeed

/-- The connected branch of `swCloudBind`. -/
def bindConnected (user password devicename : CStr) : CloudM P CommonStatus := do
  modifyCloud fun c => { c with account := .snprintf user }
  modifyCloud fun c => { c with password := .snprintf password }
  modifyCloud fun c => { c with devinfo := sysnameInfo devicename c.devinfo }
  let err ← cloudDoAuth
  if err = .succeed then do
    let err ← cloudDoBind
    if err = .succeed then bindSucceeded
    else bindFailed err
  else bindFailed err

/-- The text of `swCloudBind` after its test of the present binding. -/
def bindConnect (user password devicename : CStr) : CloudM P CommonStatus := do
  cloudDoDisconnect
  let err ← cloudDoConnect
  if err = .succeed then do
    let err ← bindConnected user password devicename
    unlock
    return err
  else do
    cloudDoDisconnect
    unlock
    return err

/-- `swCloudBind`. -/
def swCloudBind (user password devicename : Option CStr) : CloudM P CommonStatus :=
  match user, password, devicename with
  | some user, some password, some devicename => do
      lock
      let c ← getCloud
      if c.binded = true then do
        let status ← cloudGetStatus
        if status ≠ .broken then do
          -- unbind first
          unlock
          return .cloudBinded
        else bindConnect user password devicename
      else bindConnect user password devicename
  | _, _, _ => return .error

/-! ## Unbinding -/

/-- The part of `swCloudUBind` on a connection, up to the final disconnect. -/
def ubindConnected : CloudM P CommonStatus := do
  let err ← cloudDoUbind
  if err = .succeed then do
    modifyCloud fun c => { c with binded := false }
    cloudSetStatus .init
    sysConfSetString .account Field.zero
    sysConfSetString .password Field.zero
    cloudDoDisconnect
    return err
  else do
    cloudSetStatus .disconnected
    cloudDoDisconnect
    return err

/-- The part of `swCloudUBind` for a device that is offline. -/
def ubindOffline : CloudM P CommonStatus := do
  let err ← cloudDoConnect
  if err = .succeed then do
    let err ← cloudDoAuth
    if err ≠ .succeed then do
      cloudSetStatus .broken
      cloudDoDisconnect
      return err
    else ubindConnected
  else do
    cloudSetStatus .disconnected
    cloudDoDisconnect
    return err

/-- `swCloudUBind`. -/
def swCloudUBind : CloudM P CommonStatus := do
  let c ← getCloud
  if c.binded = false then return .succeed
  else do
    let status ← cloudGetStatus
    if status ≠ .connected then ubindOffline
    else ubindConnected

/-! ## Pinging -/

/-- `swCloudPing`. -/
def swCloudPing : CloudM P Reachable := do
  let status₁ ← cloudGetStatus
  if status₁ ≠ .connecting then do
    let status₂ ← cloudGetStatus
    if status₂ ≠ .connected then do
      cloudClearCounter
      cloudSetStatus .connecting
      let c ← getCloud
      return c.reachable
    else do
      let c ← getCloud
      return c.reachable
  else do
    let c ← getCloud
    return c.reachable

/-! ## What they come to -/

namespace World

/-- The world after the arguments of `swCloudBind` have been stored. -/
def credited (w : World P) (user password devicename : CStr) : World P :=
  w.modify fun c =>
    { c with
      account := .snprintf user, password := .snprintf password,
      devinfo := sysnameInfo devicename c.devinfo }

/-- The world after a binding has been noted. -/
def bound (w : World P) : World P :=
  (((w.setStatus .connected).modify fun c => { c with binded := true }).setConf
    .account w.cloud.account).setConf .password w.cloud.password

/-- The world after `swCloudPing`. -/
def pinged (w : World P) : World P :=
  if w.cloud.status = .connecting ∨ w.cloud.status = .connected then w
  else w.clearCounter.setStatus .connecting

@[simp] theorem cloud_credited (w : World P) (user password devicename : CStr) :
    (w.credited user password devicename).cloud = { w.cloud with
      account := .snprintf user, password := .snprintf password,
      devinfo := sysnameInfo devicename w.cloud.devinfo } := rfl
@[simp] theorem conf_credited (w : World P) (user password devicename : CStr) :
    (w.credited user password devicename).conf = w.conf := rfl
@[simp] theorem sockets_credited (w : World P) (user password devicename : CStr) :
    (w.credited user password devicename).sockets = w.sockets := rfl
@[simp] theorem trace_credited (w : World P) (user password devicename : CStr) :
    (w.credited user password devicename).trace = w.trace := rfl
@[simp] theorem cloud_bound (w : World P) :
    w.bound.cloud = { w.cloud with status := .connected, binded := true } := rfl
@[simp] theorem conf_bound (w : World P) :
    w.bound.conf =
      { w.conf with account := w.cloud.account, password := w.cloud.password } := rfl
@[simp] theorem sockets_bound (w : World P) : w.bound.sockets = w.sockets := rfl
@[simp] theorem trace_bound (w : World P) : w.bound.trace = w.trace := rfl

end World

/-- Everything that can become of `swCloudRegUsr` with three strings. -/
inductive RegUsrStep (account username password : CStr) (w : World P) :
    CommonStatus → World P → Prop
  | noConnection {r : CommonStatus} {w₁ : World P} : w.cloud.status ≠ .connected →
      Connects w r w₁ → r ≠ .succeed → RegUsrStep account username password w r w₁
  | offline {r : CommonStatus} {w₁ w₂ : World P} : w.cloud.status ≠ .connected →
      Connects w .succeed w₁ → Regusrs account username password w₁ r w₂ →
      RegUsrStep account username password w r w₂
  | online {r : CommonStatus} {w₁ : World P} : w.cloud.status = .connected →
      w.cloud.binded = true → Regusrs account username password w r w₁ →
      RegUsrStep account username password w r w₁
  | dropped {r : CommonStatus} {w₁ : World P} : w.cloud.status = .connected →
      w.cloud.binded = false → Regusrs account username password w r w₁ →
      RegUsrStep account username password w r (w₁.disconnect.setStatus .disconnected)

/-- Everything that can become of `swCloudBind` with three strings. -/
inductive BindStep (user password devicename : CStr) (w : World P) : CommonStatus → World P → Prop
  | refused : w.cloud.binded = true → w.cloud.status ≠ .broken →
      BindStep user password devicename w .cloudBinded w
  | noConnection {r : CommonStatus} {w₁ : World P} :
      (w.cloud.binded = true → w.cloud.status = .broken) → Connects w.disconnect r w₁ →
      r ≠ .succeed → BindStep user password devicename w r w₁.disconnect
  | authFailed {r : CommonStatus} {w₁ w₂ : World P} :
      (w.cloud.binded = true → w.cloud.status = .broken) → Connects w.disconnect .succeed w₁ →
      Auths (w₁.credited user password devicename) r w₂ → r ≠ .succeed →
      BindStep user password devicename w r w₂.disconnect
  | bindFailed {r : CommonStatus} {w₁ w₂ w₃ : World P} :
      (w.cloud.binded = true → w.cloud.status = .broken) → Connects w.disconnect .succeed w₁ →
      Auths (w₁.credited user password devicename) .succeed w₂ → Binds w₂ r w₃ → r ≠ .succeed →
      BindStep user password devicename w r w₃.disconnect
  | bound {r : CommonStatus} {w₁ w₂ w₃ w₄ : World P} :
      (w.cloud.binded = true → w.cloud.status = .broken) → Connects w.disconnect .succeed w₁ →
      Auths (w₁.credited user password devicename) .succeed w₂ → Binds w₂ .succeed w₃ →
      Updates w₃ r w₄ → BindStep user password devicename w .succeed w₄.bound

/-- Everything that can become of the part of `swCloudUBind` on a connection. -/
inductive UBindOnline (w : World P) : CommonStatus → World P → Prop
  | acknowledged {w₁ : World P} : Ubinds w .succeed w₁ →
      UBindOnline w .succeed (w₁.unbound .init).disconnect
  | failed {r : CommonStatus} {w₁ : World P} : Ubinds w r w₁ → r ≠ .succeed →
      UBindOnline w r (w₁.setStatus .disconnected).disconnect

/-- Everything that can become of `swCloudUBind`. -/
inductive UBindStep (w : World P) : CommonStatus → World P → Prop
  | notBound : w.cloud.binded = false → UBindStep w .succeed w
  | noConnection {r : CommonStatus} {w₁ : World P} : w.cloud.binded = true →
      w.cloud.status ≠ .connected → Connects w r w₁ → r ≠ .succeed →
      UBindStep w r (w₁.setStatus .disconnected).disconnect
  | authFailed {r : CommonStatus} {w₁ w₂ : World P} : w.cloud.binded = true →
      w.cloud.status ≠ .connected → Connects w .succeed w₁ → Auths w₁ r w₂ → r ≠ .succeed →
      UBindStep w r (w₂.setStatus .broken).disconnect
  | offline {r : CommonStatus} {w₁ w₂ w₃ : World P} : w.cloud.binded = true →
      w.cloud.status ≠ .connected → Connects w .succeed w₁ → Auths w₁ .succeed w₂ →
      UBindOnline w₂ r w₃ → UBindStep w r w₃
  | online {r : CommonStatus} {w₁ : World P} : w.cloud.binded = true →
      w.cloud.status = .connected → UBindOnline w r w₁ → UBindStep w r w₁

section Lemmas

variable {w w' : World P}

/-- A successful connect changes nothing of the binding or the status. -/
theorem Connects.binded_status {r : CommonStatus} (h : Connects w r w') :
    w'.cloud.binded = w.cloud.binded ∧ w'.cloud.status = w.cloud.status := by
  cases h <;> exact ⟨rfl, rfl⟩

theorem runs_regUsrReturn {err r : CommonStatus} (h : Runs (regUsrReturn err) w r w') :
    r = err ∧ w' = if w.cloud.binded = false ∧ w.cloud.status = .connected
      then w.disconnect.setStatus .disconnected else w := by
  simp only [regUsrReturn, runs_bind, runs_getCloud, runs_ite, runs_cloudGetStatus,
    runs_cloudDoDisconnect, runs_cloudSetStatus, runs_pure] at h
  obtain ⟨_, _, ⟨rfl, rfl⟩, ⟨hb, _, _, ⟨rfl, rfl⟩, ⟨hs, _, _, rfl, _, _, rfl, rfl, rfl⟩ |
    ⟨hs, rfl, rfl⟩⟩ | ⟨hb, rfl, rfl⟩⟩ := h
  · exact ⟨rfl, by rw [if_pos ⟨hb, hs⟩]; rfl⟩
  · exact ⟨rfl, by rw [if_neg fun hn => hs hn.2]⟩
  · exact ⟨rfl, by rw [if_neg fun hn => hb hn.1]⟩

/-- **Everything that can become of `swCloudRegUsr`.** -/
theorem runs_swCloudRegUsr {account username password : CStr} {r : CommonStatus}
    (h : Runs (swCloudRegUsr (some account) (some username) (some password)) w r w') :
    RegUsrStep account username password w r w' := by
  simp only [swCloudRegUsr, runs_bind, runs_cloudGetStatus, runs_ite] at h
  obtain ⟨_, w, ⟨rfl, rfl⟩, ⟨hs, e, w₁, hc, h⟩ | ⟨hs, e, w₁, hr, h⟩⟩ := h
  · have hc := runs_cloudDoConnect hc
    have hs₁ := hc.binded_status.2
    rcases h with ⟨he, h⟩ | ⟨he, e', w₂, hr, h⟩
    · obtain ⟨rfl, rfl⟩ := runs_regUsrReturn h
      rw [if_neg fun hn => hs (hs₁ ▸ hn.2)]
      exact .noConnection hs hc he
    · obtain rfl := not_not.1 he
      have hr := runs_cloudDoRegusr hr
      obtain ⟨rfl, rfl⟩ := runs_regUsrReturn h
      obtain ⟨code, hx⟩ := id hr
      rw [if_neg fun hn => hs (hs₁ ▸ hx.cloud_eq ▸ hn.2)]
      exact .offline hs hc hr
  · have hs := not_not.1 hs
    have hr := runs_cloudDoRegusr hr
    obtain ⟨code, hx⟩ := id hr
    obtain ⟨rfl, rfl⟩ := runs_regUsrReturn h
    rw [hx.cloud_eq]
    cases hb : w.cloud.binded with
    | true => exact .online hs hb hr
    | false =>
      rw [if_pos ⟨rfl, hs⟩]
      exact .dropped hs hb hr

theorem runs_swCloudRegUsr_none {account username password : Option CStr} {r : CommonStatus}
    (hn : account = none ∨ username = none ∨ password = none)
    (h : Runs (swCloudRegUsr account username password) w r w') : w' = w := by
  rcases hn with rfl | rfl | rfl
  · exact h.2
  · cases account <;> exact h.2
  · cases account <;> cases username <;> exact h.2

theorem runs_bindFailed {err r : CommonStatus} (h : Runs (bindFailed err) w r w') :
    r = err ∧ w' = w.disconnect := by
  simp only [bindFailed, runs_bind, runs_cloudDoDisconnect, runs_pure] at h
  obtain ⟨_, _, rfl, rfl, rfl⟩ := h
  exact ⟨rfl, rfl⟩

theorem runs_bindSucceeded {r : CommonStatus} (h : Runs bindSucceeded w r w') :
    r = .succeed ∧ ∃ r' w₁, Updates w r' w₁ ∧ w' = w₁.bound := by
  simp only [bindSucceeded, runs_bind, runs_cloudSetStatus, runs_modifyCloud, runs_getCloud,
    runs_sysConfSetString, runs_pure] at h
  obtain ⟨r', w₁, hu, _, _, rfl, _, _, rfl, _, _, ⟨rfl, rfl⟩, _, _, rfl, _, _, ⟨rfl, rfl⟩, _, _,
    rfl, rfl, rfl⟩ := h
  exact ⟨rfl, r', w₁, runs_cloudDoUpdate hu, rfl⟩

theorem runs_bindConnect {user password devicename : CStr} {r : CommonStatus}
    (hg : w.cloud.binded = true → w.cloud.status = .broken)
    (h : Runs (bindConnect user password devicename) w r w') :
    BindStep user password devicename w r w' := by
  simp only [bindConnect, runs_bind, runs_cloudDoDisconnect, runs_ite, runs_unlock, runs_pure] at h
  obtain ⟨_, _, rfl, e, w₁, hc, ⟨rfl, e', w₂, h, _, _, rfl, rfl, rfl⟩ |
    ⟨he, _, _, rfl, _, _, rfl, rfl, rfl⟩⟩ := h
  · have hc := runs_cloudDoConnect hc
    simp only [bindConnected, runs_bind, runs_modifyCloud, runs_ite] at h
    obtain ⟨_, _, rfl, _, _, rfl, _, _, rfl, e, w₂, ha, h⟩ := h
    have ha : Auths (w₁.credited user password devicename) e w₂ := runs_cloudDoAuth ha
    rcases h with ⟨rfl, e', w₃, hb, h⟩ | ⟨he, h⟩
    · have hb := runs_cloudDoBind hb
      rcases h with ⟨rfl, h⟩ | ⟨he, h⟩
      · obtain ⟨rfl, r', w₄, hu, rfl⟩ := runs_bindSucceeded h
        exact .bound hg hc ha hb hu
      · obtain ⟨rfl, rfl⟩ := runs_bindFailed h
        exact .bindFailed hg hc ha hb he
    · obtain ⟨rfl, rfl⟩ := runs_bindFailed h
      exact .authFailed hg hc ha he
  · exact .noConnection hg (runs_cloudDoConnect hc) he

/-- **Everything that can become of `swCloudBind`.** -/
theorem runs_swCloudBind {user password devicename : CStr} {r : CommonStatus}
    (h : Runs (swCloudBind (some user) (some password) (some devicename)) w r w') :
    BindStep user password devicename w r w' := by
  simp only [swCloudBind, runs_bind, runs_lock, runs_getCloud, runs_ite, runs_cloudGetStatus,
    runs_unlock, runs_pure] at h
  obtain ⟨_, _, rfl, _, w, ⟨rfl, rfl⟩, ⟨hb, _, _, ⟨rfl, rfl⟩, ⟨hs, _, _, rfl, rfl, rfl⟩ |
    ⟨hs, h⟩⟩ | ⟨hb, h⟩⟩ := h
  · exact .refused hb hs
  · exact runs_bindConnect (fun _ => not_not.1 hs) h
  · exact runs_bindConnect (fun hb' => absurd hb' hb) h

theorem runs_swCloudBind_none {user password devicename : Option CStr} {r : CommonStatus}
    (hn : user = none ∨ password = none ∨ devicename = none)
    (h : Runs (swCloudBind user password devicename) w r w') : w' = w := by
  rcases hn with rfl | rfl | rfl
  · exact h.2
  · cases user <;> exact h.2
  · cases user <;> cases password <;> exact h.2

/-- After an unbind the status is not `CONNECTED`, whatever came of it. -/
theorem UBindOnline.status_ne {r : CommonStatus} (hu : UBindOnline w r w') :
    w'.cloud.status ≠ .connected := by
  cases hu with
  | acknowledged _ => rw [World.cloud_disconnect]; exact nofun
  | failed _ _ => rw [World.cloud_disconnect]; exact nofun

theorem runs_ubindConnected {r : CommonStatus} (h : Runs ubindConnected w r w') :
    UBindOnline w r w' := by
  simp only [ubindConnected, runs_bind, runs_ite, runs_modifyCloud, runs_cloudSetStatus,
    runs_sysConfSetString, runs_cloudDoDisconnect, runs_pure] at h
  obtain ⟨e, w₁, hu, ⟨rfl, _, _, rfl, _, _, rfl, _, _, rfl, _, _, rfl, _, _, rfl, rfl, rfl⟩ |
    ⟨he, _, _, rfl, _, _, rfl, rfl, rfl⟩⟩ := h
  · exact .acknowledged (runs_cloudDoUbind hu)
  · exact .failed (runs_cloudDoUbind hu) he

/-- **Everything that can become of `swCloudUBind`.** -/
theorem runs_swCloudUBind {r : CommonStatus} (h : Runs swCloudUBind w r w') :
    UBindStep w r w' := by
  simp only [swCloudUBind, runs_bind, runs_getCloud, runs_ite, runs_cloudGetStatus,
    runs_pure] at h
  obtain ⟨_, w, ⟨rfl, rfl⟩, ⟨hb, rfl, rfl⟩ | ⟨hb, _, w, ⟨rfl, rfl⟩, ⟨hs, h⟩ | ⟨hs, h⟩⟩⟩ := h
  · exact .notBound hb
  · have hb : w.cloud.binded = true := by simpa using hb
    simp only [ubindOffline, runs_bind, runs_ite, runs_cloudSetStatus, runs_cloudDoDisconnect,
      runs_pure] at h
    obtain ⟨e, w₁, hc, ⟨rfl, e', w₂, ha, ⟨he, _, _, rfl, _, _, rfl, rfl, rfl⟩ | ⟨he, h⟩⟩ |
      ⟨he, _, _, rfl, _, _, rfl, rfl, rfl⟩⟩ := h
    · exact .authFailed hb hs (runs_cloudDoConnect hc) (runs_cloudDoAuth ha) he
    · obtain rfl := not_not.1 he
      exact .offline hb hs (runs_cloudDoConnect hc) (runs_cloudDoAuth ha) (runs_ubindConnected h)
    · exact .noConnection hb hs (runs_cloudDoConnect hc) he
  · exact .online (by simpa using hb) (not_not.1 hs) (runs_ubindConnected h)

/-- **What `swCloudPing` does.** -/
theorem runs_swCloudPing {r : Reachable} (h : Runs swCloudPing w r w') :
    r = w.cloud.reachable ∧ w' = w.pinged := by
  simp only [swCloudPing, runs_bind, runs_cloudGetStatus, runs_ite, runs_cloudClearCounter,
    runs_cloudSetStatus, runs_getCloud, runs_pure] at h
  obtain ⟨_, w, ⟨rfl, rfl⟩, ⟨h₁, _, _, ⟨rfl, rfl⟩, ⟨h₂, _, _, rfl, _, _, rfl, _, _, ⟨rfl, rfl⟩,
    rfl, rfl⟩ | ⟨h₂, _, _, ⟨rfl, rfl⟩, rfl, rfl⟩⟩ | ⟨h₁, _, _, ⟨rfl, rfl⟩, rfl, rfl⟩⟩ := h
  · exact ⟨rfl, by rw [World.pinged, if_neg fun hn => hn.elim h₁ h₂]; rfl⟩
  · exact ⟨rfl, (if_pos (Or.inr (not_not.1 h₂))).symm⟩
  · exact ⟨rfl, (if_pos (Or.inl (not_not.1 h₁))).symm⟩

end Lemmas

end SwCloud
