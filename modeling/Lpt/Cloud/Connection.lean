import Lpt.Cloud.Request

/-!
# The connection to the cloud

`cloud_do_connect`, `cloud_do_disconnect`, `network_read_event`, `cloud_need_update`
and `cloud_clear_counter`.  All of them except `cloud_do_connect` have one outcome
each, given as a function on worlds; `Connects` lists the outcomes of
`cloud_do_connect`.
-/

namespace SwCloud

open CLib Effect

variable {P : CldProtocol}

/-- `cloud_do_disconnect`. -/
def cloudDoDisconnect : CloudM P Unit := do
  let c ← getCloud
  if c.fd ≠ -1 then do
    close c.fd
    modifyCloud fun c => { c with fd := -1 }
  else return ()

/-- The end of `cloud_do_connect` after any of its calls has failed. -/
def connectFailed : CloudM P CommonStatus := do
  modifyCloud fun c => { c with reachable := .no }
  return .cloudNetwork

/-- `cloud_do_connect`. -/
def cloudDoConnect : CloudM P CommonStatus := do
  let fd ← socket
  modifyCloud fun c => { c with fd := fd }
  let c ← getCloud
  if c.fd = -1 then connectFailed
  else do
    let ret ← connect c.fd
    if ret ≠ 0 then connectFailed
    else do
      let c ← getCloud
      let n ← readGreeting c.fd
      if n ≤ 0 then connectFailed
      else do
        modifyCloud fun c => { c with reachable := .yes }
        return .succeed

/-- `cloud_need_update`. -/
def cloudNeedUpdate : CloudM P Bool := do
  let c ← getCloud
  if c.fd = -1 then return false
  else do
    let update ← getUpdate
    setUpdate false
    return update

/-- `network_read_event`: is there something to read? -/
def networkReadEvent (mwait : ℤ) : CloudM P Bool := do
  let c ← getCloud
  if c.fd = -1 then do
    sleep mwait
    return false
  else do
    let ret ← select c.fd mwait
    match ret with
    | .timeout | .eintr => return false
    | .err | .ready => return true

/-- `cloud_clear_counter`. -/
def cloudClearCounter : CloudM P Unit := do
  modifyCloud fun c => { c with retries := 0 }
  modifyCloud fun c => { c with waits := 0 }
  let wait ← sysConfGetLong .retryWait
  modifyCloud fun c => { c with retryWait := toInt32 (wait * 1000) }

/-! ## Their effects -/

namespace World

/-- The world after `cloud_do_disconnect`. -/
def disconnect (w : World P) : World P :=
  if w.cloud.fd = -1 then w
  else (w.closed w.cloud.fd).modify fun c => { c with fd := -1 }

/-- The world after `cloud_set_status`. -/
def setStatus (w : World P) (s : Status) : World P := w.modify fun c => { c with status := s }

/-- The world after `cloud_clear_counter`. -/
def clearCounter (w : World P) : World P :=
  w.modify fun c =>
    { c with retries := 0, waits := 0, retryWait := toInt32 (w.conf.retryWait * 1000) }

/-- The world after a socket has been opened and stored in `cloud.fd`. -/
def newSocket (w : World P) (fd : ℤ) : World P :=
  (w.opened fd).modify fun c => { c with fd := fd }

/-- The world after a pending update has been taken. -/
def taken (w : World P) : World P := w.modify fun c => { c with update := false }

@[simp] theorem cloud_disconnect (w : World P) :
    w.disconnect.cloud = { w.cloud with fd := -1 } := by
  rw [disconnect]
  split
  · rename_i h; rw [← h]
  · rfl

@[simp] theorem conf_disconnect (w : World P) : w.disconnect.conf = w.conf := by
  rw [disconnect]
  split <;> rfl

@[simp] theorem cloud_setStatus (w : World P) (s : Status) :
    (w.setStatus s).cloud = { w.cloud with status := s } := rfl
@[simp] theorem conf_setStatus (w : World P) (s : Status) : (w.setStatus s).conf = w.conf := rfl
@[simp] theorem sockets_setStatus (w : World P) (s : Status) :
    (w.setStatus s).sockets = w.sockets := rfl
@[simp] theorem trace_setStatus (w : World P) (s : Status) :
    (w.setStatus s).trace = w.trace := rfl
@[simp] theorem cloud_clearCounter (w : World P) : w.clearCounter.cloud =
    { w.cloud with retries := 0, waits := 0, retryWait := toInt32 (w.conf.retryWait * 1000) } :=
  rfl
@[simp] theorem conf_clearCounter (w : World P) : w.clearCounter.conf = w.conf := rfl
@[simp] theorem sockets_clearCounter (w : World P) : w.clearCounter.sockets = w.sockets := rfl
@[simp] theorem trace_clearCounter (w : World P) : w.clearCounter.trace = w.trace := rfl
@[simp] theorem cloud_unreachable (w : World P) :
    w.unreachable.cloud = { w.cloud with reachable := .no } := rfl
@[simp] theorem conf_unreachable (w : World P) : w.unreachable.conf = w.conf := rfl
@[simp] theorem sockets_unreachable (w : World P) : w.unreachable.sockets = w.sockets := rfl
@[simp] theorem trace_unreachable (w : World P) : w.unreachable.trace = w.trace := rfl
@[simp] theorem cloud_newSocket (w : World P) (fd : ℤ) :
    (w.newSocket fd).cloud = { w.cloud with fd := fd } := rfl
@[simp] theorem conf_newSocket (w : World P) (fd : ℤ) : (w.newSocket fd).conf = w.conf := rfl
@[simp] theorem sockets_newSocket (w : World P) (fd : ℤ) :
    (w.newSocket fd).sockets = fd :: w.sockets := rfl
@[simp] theorem trace_newSocket (w : World P) (fd : ℤ) :
    (w.newSocket fd).trace = .socket fd :: w.trace := rfl

@[simp] theorem cloud_taken (w : World P) :
    w.taken.cloud = { w.cloud with update := false } := rfl
@[simp] theorem conf_taken (w : World P) : w.taken.conf = w.conf := rfl
@[simp] theorem sockets_taken (w : World P) : w.taken.sockets = w.sockets := rfl
@[simp] theorem trace_taken (w : World P) : w.taken.trace = w.trace := rfl

theorem taken_eq_self {w : World P} (h : w.cloud.update = false) : w.taken = w := by
  cases w with
  | mk c => cases c; cases h; rfl

end World

/-- Everything that can become of `cloud_do_connect`. -/
inductive Connects (w : World P) : CommonStatus → World P → Prop
  | noSocket : Connects w .cloudNetwork
      ((w.log (.socket (-1))).modify fun c => { c with fd := -1 }).unreachable
  | refused {fd ret : ℤ} : 0 ≤ fd → fd ∉ w.sockets → ret ≠ 0 →
      Connects w .cloudNetwork ((w.newSocket fd).log (.connect fd ret)).unreachable
  | noGreeting {fd n : ℤ} : 0 ≤ fd → fd ∉ w.sockets → n ≤ 0 → Connects w .cloudNetwork
      (((w.newSocket fd).log (.connect fd 0)).log (.greeting fd n)).unreachable
  | connected {fd n : ℤ} : 0 ≤ fd → fd ∉ w.sockets → 0 < n → Connects w .succeed
      ((((w.newSocket fd).log (.connect fd 0)).log (.greeting fd n)).modify
        fun c => { c with reachable := .yes })

section Lemmas

variable {w w' : World P}

@[simp] theorem runs_cloudDoDisconnect {u : Unit} :
    Runs cloudDoDisconnect w u w' ↔ w' = w.disconnect := by
  rw [cloudDoDisconnect, World.disconnect]
  simp only [runs_bind, runs_getCloud]
  by_cases h : w.cloud.fd = -1
  · simp [h]
  · simp [h]

@[simp] theorem runs_connectFailed {r : CommonStatus} :
    Runs connectFailed w r w' ↔ r = .cloudNetwork ∧ w' = w.unreachable := by
  simp only [connectFailed, runs_bind, runs_modifyCloud, runs_pure, World.unreachable]
  constructor
  · rintro ⟨_, _, h1, h2, h3⟩
    exact ⟨h2, by rw [h3, h1]⟩
  · rintro ⟨h1, h2⟩
    exact ⟨(), _, rfl, h1, h2⟩

theorem runs_cloudDoConnect {r : CommonStatus} (h : Runs cloudDoConnect w r w') :
    Connects w r w' := by
  simp only [cloudDoConnect, runs_bind, runs_socket, runs_modifyCloud, runs_getCloud,
    runs_ite, runs_connect, runs_readGreeting, runs_connectFailed, runs_pure] at h
  obtain ⟨fd, w₁, hs, _, _, rfl, _, _, ⟨rfl, rfl⟩, h⟩ := h
  rcases hs with ⟨rfl, rfl⟩ | ⟨h0, hfd, rfl⟩
  · rcases h with ⟨-, rfl, rfl⟩ | ⟨hc, -⟩
    · exact .noSocket
    · exact absurd rfl hc
  · rcases h with ⟨hc, -⟩ | ⟨-, ret, _, rfl, h⟩
    · exact absurd (show fd = -1 from hc) (by omega)
    · rcases h with ⟨hret, rfl, rfl⟩ | ⟨hret, _, _, ⟨rfl, rfl⟩, n, _, rfl, h⟩
      · exact .refused h0 hfd hret
      · obtain rfl := not_not.1 hret
        rcases h with ⟨hn, rfl, rfl⟩ | ⟨hn, _, _, rfl, rfl, rfl⟩
        · exact .noGreeting h0 hfd hn
        · exact .connected h0 hfd (by omega)

theorem runs_cloudNeedUpdate {b : Bool} (h : Runs cloudNeedUpdate w b w') :
    (w.cloud.fd = -1 ∧ b = false ∧ w' = w) ∨
      (w.cloud.fd ≠ -1 ∧ b = w.cloud.update ∧ w' = w.taken) := by
  simp only [cloudNeedUpdate, runs_bind, runs_getCloud, runs_ite, runs_getUpdate, runs_setUpdate,
    runs_pure] at h
  obtain ⟨_, _, ⟨rfl, rfl⟩, ⟨hfd, rfl, rfl⟩ | ⟨hfd, _, _, ⟨rfl, rfl⟩, _, _, rfl, rfl, rfl⟩⟩ := h
  · exact Or.inl ⟨hfd, rfl, rfl⟩
  · exact Or.inr ⟨hfd, rfl, rfl⟩

theorem runs_networkReadEvent {mwait : ℤ} {b : Bool} (h : Runs (networkReadEvent mwait) w b w') :
    w' = w ∧ (b = true → w.cloud.fd ≠ -1) := by
  simp only [networkReadEvent, runs_bind, runs_getCloud, runs_ite, runs_sleep, runs_select,
    runs_pure] at h
  obtain ⟨_, _, ⟨rfl, rfl⟩, ⟨-, _, _, rfl, rfl, rfl⟩ | ⟨hfd, r, _, rfl, h⟩⟩ := h
  · refine ⟨rfl, ?_⟩
    intro hb
    cases hb
  · cases r <;> exact ⟨h.2, fun _ => hfd⟩

@[simp] theorem runs_cloudClearCounter {u : Unit} :
    Runs cloudClearCounter w u w' ↔ w' = w.clearCounter := by
  simp [cloudClearCounter, World.clearCounter, World.modify]

end Lemmas

end SwCloud
