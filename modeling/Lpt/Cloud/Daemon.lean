import Lpt.Cloud.Device

/-!
# The state machine: one iteration of `cloud_daemon`

The body of the loop, one definition for each case of the `switch`.  `continue` is
the end of an iteration, and `break` goes on to `pollControl`, the text after the
`switch`.  `DaemonStep` lists everything that can become of one iteration, with the
world it leaves in terms of the world it finds.
-/

namespace SwCloud

open CLib Effect

variable {P : CldProtocol}

/-- What follows the `switch`: wait for a packet, and serve it. -/
def pollControl : CloudM P Unit := do
  let event ← networkReadEvent 500
  if event then do
    let ret ← networkDeviceControl
    if ret ≠ 0 then do
      cloudDoDisconnect
      cloudSetStatus .disconnected
    else return ()
  else return ()

/-- `case CLOUD_STATUS_INIT`. -/
def daemonInit : CloudM P Unit := do
  let c ← getCloud
  if c.binded = false then pollControl
  else cloudSetStatus .connecting

/-- The part of `case CLOUD_STATUS_CONNECTING` after `AUTH` has succeeded, and of
`case CLOUD_STATUS_CONNECTED` after a pending update has been taken: send it, and go
on with `next` if it is accepted. -/
def daemonUpdate (next : CloudM P Unit) : CloudM P Unit := do
  let ret ← cloudDoUpdate
  if ret = .cloudNetwork then cloudSetStatus .disconnected
  else if ret ≠ .succeed then cloudSetStatus .broken
  else next

/-- `case CLOUD_STATUS_CONNECTING`. -/
def daemonConnecting : CloudM P Unit := do
  let ret ← cloudDoConnect
  if ret ≠ .succeed then cloudSetStatus .disconnected
  else do
    let c ← getCloud
    if c.binded = true then do
      let ret ← cloudDoAuth
      if ret = .cloudNetwork then cloudSetStatus .disconnected
      else if ret ≠ .succeed then cloudSetStatus .broken
      else daemonUpdate (cloudSetStatus .connected)
    else do
      cloudSetStatus .disconnected
      cloudClearCounter

/-- `case CLOUD_STATUS_CONNECTED`. -/
def daemonConnected : CloudM P Unit := do
  let c ← getCloud
  if c.binded = true then do
    let update ← cloudNeedUpdate
    if update = true then daemonUpdate pollControl
    else pollControl
  else cloudSetStatus .disconnected

/-- The body of the inner `if` of `case CLOUD_STATUS_DISCONNECTED`: reconnect the cloud
server after a while. -/
def retryConnect : CloudM P Unit := do
  modifyCloud fun c => { c with retries := toInt32 (c.retries + 1) }
  modifyCloud fun c => { c with retryWait := toInt32 (c.retryWait * 2) }
  modifyCloud fun c => { c with waits := 0 }
  cloudSetStatus .connecting

/-- `cloud.waits += CLOUD_PACE`. -/
def addPace : CloudM P Unit := modifyCloud fun c => { c with waits := toInt32 (c.waits + 500) }

/-- `case CLOUD_STATUS_DISCONNECTED`. -/
def daemonDisconnected : CloudM P Unit := do
  cloudDoDisconnect
  let c ← getCloud
  if c.binded = true ∧ c.retries < c.retryMax then do
    if c.retryWait ≤ c.waits then do
      retryConnect
      addPace
      pollControl
    else do
      addPace
      pollControl
  else pollControl

/-- `case CLOUD_STATUS_BROKEN`. -/
def daemonBroken : CloudM P Unit := do
  cloudDoDisconnect
  pollControl

/-- `case CLOUD_STATUS_RESTART`. -/
def daemonRestart : CloudM P Unit := do
  cloudDoDisconnect
  modifyCloud fun c => { c with reachable := .no }
  cloudClearCounter
  cloudSetStatus .disconnected

/-- One iteration of the loop of `cloud_daemon`.  The `default` case of the `switch` is
not reached by any value of `cloud.status`. -/
def cloudDaemon : CloudM P Unit := do
  let status ← cloudGetStatus
  match status with
  | .init => daemonInit
  | .connecting => daemonConnecting
  | .connected => daemonConnected
  | .disconnected => daemonDisconnected
  | .broken => daemonBroken
  | .restart => daemonRestart

/-! ## What an iteration comes to -/

namespace World

/-- The world after a reconnect has been decided on. -/
def retried (w : World P) : World P :=
  w.modify fun c =>
    { c with
      retries := toInt32 (c.retries + 1), retryWait := toInt32 (c.retryWait * 2), waits := 0,
      status := .connecting }

/-- The world after one more pace of waiting. -/
def paced (w : World P) : World P :=
  w.modify fun c => { c with waits := toInt32 (c.waits + 500) }

@[simp] theorem cloud_retried (w : World P) : w.retried.cloud = { w.cloud with
    retries := toInt32 (w.cloud.retries + 1), retryWait := toInt32 (w.cloud.retryWait * 2),
    waits := 0, status := .connecting } := rfl
@[simp] theorem conf_retried (w : World P) : w.retried.conf = w.conf := rfl
@[simp] theorem sockets_retried (w : World P) : w.retried.sockets = w.sockets := rfl
@[simp] theorem trace_retried (w : World P) : w.retried.trace = w.trace := rfl
@[simp] theorem cloud_paced (w : World P) :
    w.paced.cloud = { w.cloud with waits := toInt32 (w.cloud.waits + 500) } := rfl
@[simp] theorem conf_paced (w : World P) : w.paced.conf = w.conf := rfl
@[simp] theorem sockets_paced (w : World P) : w.paced.sockets = w.sockets := rfl
@[simp] theorem trace_paced (w : World P) : w.paced.trace = w.trace := rfl

end World

/-- The status the daemon gives to a failed request. -/
def failStatus (r : CommonStatus) : Status :=
  if r = .cloudNetwork then .disconnected else .broken

theorem failStatus_ne_connected (r : CommonStatus) : failStatus r ≠ .connected := by
  unfold failStatus
  split_ifs <;> intro h <;> cases h

/-- Everything that can become of `pollControl`. -/
inductive Polls (w : World P) : World P → Prop
  | quiet : Polls w w
  | served {w₁ : World P} : w.cloud.fd ≠ -1 → Control w 0 w₁ → Polls w w₁
  | failed {w₁ : World P} {r : ℤ} : w.cloud.fd ≠ -1 → r ≠ 0 → Control w r w₁ →
      Polls w (w₁.disconnect.setStatus .disconnected)

/-- Everything that can become of one iteration of the daemon. -/
inductive DaemonStep (w : World P) : World P → Prop
  | initIdle {w' : World P} : w.cloud.status = .init → w.cloud.binded = false → Polls w w' →
      DaemonStep w w'
  | initBound : w.cloud.status = .init → w.cloud.binded = true →
      DaemonStep w (w.setStatus .connecting)
  | connectFailed {r : CommonStatus} {w₁ : World P} : w.cloud.status = .connecting →
      Connects w r w₁ → r ≠ .succeed → DaemonStep w (w₁.setStatus .disconnected)
  | connectUnbound {w₁ : World P} : w.cloud.status = .connecting → w.cloud.binded = false →
      Connects w .succeed w₁ → DaemonStep w (w₁.setStatus .disconnected).clearCounter
  | authFailed {r : CommonStatus} {w₁ w₂ : World P} : w.cloud.status = .connecting →
      w.cloud.binded = true → Connects w .succeed w₁ → Auths w₁ r w₂ → r ≠ .succeed →
      DaemonStep w (w₂.setStatus (failStatus r))
  | updateFailed {r : CommonStatus} {w₁ w₂ w₃ : World P} : w.cloud.status = .connecting →
      w.cloud.binded = true → Connects w .succeed w₁ → Auths w₁ .succeed w₂ → Updates w₂ r w₃ →
      r ≠ .succeed → DaemonStep w (w₃.setStatus (failStatus r))
  | connected {w₁ w₂ w₃ : World P} : w.cloud.status = .connecting →
      w.cloud.binded = true → Connects w .succeed w₁ → Auths w₁ .succeed w₂ →
      Updates w₂ .succeed w₃ → DaemonStep w (w₃.setStatus .connected)
  | dropUnbound : w.cloud.status = .connected → w.cloud.binded = false →
      DaemonStep w (w.setStatus .disconnected)
  | upToDate {w' : World P} : w.cloud.status = .connected → w.cloud.binded = true →
      (w.cloud.fd = -1 ∨ w.cloud.update = false) → Polls w w' → DaemonStep w w'
  | refreshFailed {r : CommonStatus} {w₁ : World P} : w.cloud.status = .connected →
      w.cloud.binded = true → w.cloud.fd ≠ -1 → w.cloud.update = true → Updates w.taken r w₁ →
      r ≠ .succeed → DaemonStep w (w₁.setStatus (failStatus r))
  | refreshed {w₁ w' : World P} : w.cloud.status = .connected → w.cloud.binded = true →
      w.cloud.fd ≠ -1 → w.cloud.update = true → Updates w.taken .succeed w₁ → Polls w₁ w' →
      DaemonStep w w'
  | gaveUp : w.cloud.status = .disconnected →
      ¬ (w.cloud.binded = true ∧ w.cloud.retries < w.cloud.retryMax) → DaemonStep w w.disconnect
  | waiting : w.cloud.status = .disconnected → w.cloud.binded = true →
      w.cloud.retries < w.cloud.retryMax → w.cloud.waits < w.cloud.retryWait →
      DaemonStep w w.disconnect.paced
  | retry : w.cloud.status = .disconnected → w.cloud.binded = true →
      w.cloud.retries < w.cloud.retryMax → w.cloud.retryWait ≤ w.cloud.waits →
      DaemonStep w w.disconnect.retried.paced
  | broken : w.cloud.status = .broken → DaemonStep w w.disconnect
  | restart : w.cloud.status = .restart →
      DaemonStep w (w.disconnect.unreachable.clearCounter.setStatus .disconnected)

section Lemmas

variable {w w' : World P}

theorem runs_pollControl {u : Unit} (h : Runs pollControl w u w') : Polls w w' := by
  simp only [pollControl, runs_bind, runs_ite, runs_cloudDoDisconnect, runs_cloudSetStatus,
    runs_pure] at h
  obtain ⟨event, w₁, he, h⟩ := h
  obtain ⟨rfl, hfd⟩ := runs_networkReadEvent he
  rcases h with ⟨rfl, r, w₂, hc, h⟩ | ⟨-, -, rfl⟩
  · have hc := runs_networkDeviceControl hc
    rcases h with ⟨hr, _, _, rfl, rfl⟩ | ⟨hr, -, rfl⟩
    · exact .failed (hfd rfl) hr hc
    · obtain rfl := not_not.1 hr
      exact .served (hfd rfl) hc
  · exact .quiet

/-- Without a socket there is nothing to poll. -/
theorem Polls.eq_of_fd (h : Polls w w') (hfd : w.cloud.fd = -1) : w' = w := by
  cases h with
  | quiet => rfl
  | served h _ => exact absurd hfd h
  | failed h _ _ => exact absurd hfd h

theorem runs_daemonUpdate {next : CloudM P Unit} {u : Unit} (h : Runs (daemonUpdate next) w u w') :
    ∃ r w₁, Updates w r w₁ ∧ ((r ≠ .succeed ∧ w' = w₁.setStatus (failStatus r)) ∨
      (r = .succeed ∧ Runs next w₁ u w')) := by
  simp only [daemonUpdate, runs_bind, runs_ite, runs_cloudSetStatus] at h
  obtain ⟨r, w₁, hu, h⟩ := h
  refine ⟨r, w₁, runs_cloudDoUpdate hu, ?_⟩
  rcases h with ⟨rfl, rfl⟩ | ⟨hn, ⟨hs, rfl⟩ | ⟨hs, h⟩⟩
  · exact Or.inl ⟨by simp, rfl⟩
  · exact Or.inl ⟨hs, by rw [failStatus, if_neg hn]; rfl⟩
  · exact Or.inr ⟨not_not.1 hs, h⟩

theorem runs_daemonInit {u : Unit} (hs : w.cloud.status = .init) (h : Runs daemonInit w u w') :
    DaemonStep w w' := by
  simp only [daemonInit, runs_bind, runs_getCloud, runs_ite, runs_cloudSetStatus] at h
  obtain ⟨_, _, ⟨rfl, rfl⟩, ⟨hb, h⟩ | ⟨hb, rfl⟩⟩ := h
  · exact .initIdle hs hb (runs_pollControl h)
  · exact .initBound hs (by simpa using hb)

theorem runs_daemonConnecting {u : Unit} (hs : w.cloud.status = .connecting)
    (h : Runs daemonConnecting w u w') : DaemonStep w w' := by
  simp only [daemonConnecting, runs_bind, runs_getCloud, runs_ite, runs_cloudSetStatus,
    runs_cloudClearCounter] at h
  obtain ⟨r, w₁, hc, h⟩ := h
  have hc := runs_cloudDoConnect hc
  have hb : w₁.cloud.binded = w.cloud.binded := by cases hc <;> rfl
  rcases h with ⟨hr, rfl⟩ | ⟨hr, _, _, ⟨rfl, rfl⟩, h⟩
  · exact .connectFailed hs hc hr
  · obtain rfl := not_not.1 hr
    rcases h with ⟨hbt, r, w₂, ha, h⟩ | ⟨hbf, _, _, rfl, rfl⟩
    · rw [hb] at hbt
      have ha : Auths _ r w₂ := runs_cloudDoAuth ha
      rcases h with ⟨rfl, rfl⟩ | ⟨hn, ⟨hs', rfl⟩ | ⟨hs', h⟩⟩
      · exact .authFailed hs hbt hc ha (by simp)
      · have := DaemonStep.authFailed hs hbt hc ha hs'
        rwa [failStatus, if_neg hn] at this
      · obtain rfl := not_not.1 hs'
        obtain ⟨r, w₃, hu, ⟨hr', rfl⟩ | ⟨rfl, h⟩⟩ := runs_daemonUpdate h
        · exact .updateFailed hs hbt hc ha hu hr'
        · obtain rfl := runs_cloudSetStatus.1 h
          exact .connected hs hbt hc ha hu
    · rw [hb] at hbf
      exact .connectUnbound hs (by simpa using hbf) hc

theorem runs_daemonConnected {u : Unit} (hs : w.cloud.status = .connected)
    (h : Runs daemonConnected w u w') : DaemonStep w w' := by
  simp only [daemonConnected, runs_bind, runs_getCloud, runs_ite, runs_cloudSetStatus] at h
  obtain ⟨_, _, ⟨rfl, rfl⟩, ⟨hb, b, w₁, hn, h⟩ | ⟨hb, rfl⟩⟩ := h
  · rcases runs_cloudNeedUpdate hn with ⟨hfd, rfl, rfl⟩ | ⟨hfd, rfl, rfl⟩
    · rcases h with ⟨hf, -⟩ | ⟨-, h⟩
      · cases hf
      · exact .upToDate hs hb (Or.inl hfd) (runs_pollControl h)
    · rcases h with ⟨hu, h⟩ | ⟨hu, h⟩
      · obtain ⟨r, w₂, hup, ⟨hr, rfl⟩ | ⟨rfl, h⟩⟩ := runs_daemonUpdate h
        · exact .refreshFailed hs hb hfd hu hup hr
        · exact .refreshed hs hb hfd hu hup (runs_pollControl h)
      · rw [Bool.not_eq_true] at hu
        rw [World.taken_eq_self hu] at h
        exact .upToDate hs hb (Or.inr hu) (runs_pollControl h)
  · exact .dropUnbound hs (by simpa using hb)

theorem runs_daemonDisconnected {u : Unit} (hs : w.cloud.status = .disconnected)
    (h : Runs daemonDisconnected w u w') : DaemonStep w w' := by
  simp only [daemonDisconnected, retryConnect, addPace, runs_bind, runs_getCloud, runs_ite,
    runs_cloudSetStatus, runs_cloudDoDisconnect, runs_modifyCloud] at h
  obtain ⟨_, _, rfl, _, _, ⟨rfl, rfl⟩, ⟨hb, h⟩ | ⟨hb, h⟩⟩ := h
  · simp only [World.cloud_disconnect] at hb h
    rcases h with ⟨hw, _, _, ⟨_, _, rfl, _, _, rfl, _, _, rfl, rfl⟩, _, _, rfl, h⟩ |
      ⟨hw, _, _, rfl, h⟩
    · have := (runs_pollControl h).eq_of_fd (by simp)
      rw [this]
      exact .retry hs hb.1 hb.2 hw
    · have := (runs_pollControl h).eq_of_fd (by simp)
      rw [this]
      exact .waiting hs hb.1 hb.2 (by omega)
  · rw [(runs_pollControl h).eq_of_fd (by simp)]
    exact .gaveUp hs (by simpa using hb)

/-- **Everything that can become of one iteration of the daemon.** -/
theorem runs_cloudDaemon {u : Unit} (h : Runs cloudDaemon w u w') : DaemonStep w w' := by
  simp only [cloudDaemon, runs_bind, runs_cloudGetStatus] at h
  obtain ⟨_, _, ⟨rfl, rfl⟩, h⟩ := h
  split at h
  · exact runs_daemonInit ‹_› h
  · exact runs_daemonConnecting ‹_› h
  · exact runs_daemonConnected ‹_› h
  · exact runs_daemonDisconnected ‹_› h
  · simp only [daemonBroken, runs_bind, runs_cloudDoDisconnect] at h
    obtain ⟨_, _, rfl, h⟩ := h
    rw [(runs_pollControl h).eq_of_fd (by simp)]
    exact .broken ‹_›
  · simp only [daemonRestart, runs_bind, runs_cloudDoDisconnect, runs_modifyCloud,
      runs_cloudClearCounter, runs_cloudSetStatus] at h
    obtain ⟨_, _, rfl, _, _, rfl, _, _, rfl, rfl⟩ := h
    exact .restart ‹_›

end Lemmas

end SwCloud
