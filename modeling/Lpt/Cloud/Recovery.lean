import Lpt.Base.Progress
import Lpt.Cloud.Authenticated
import Lpt.Cloud.Binding

/-!
# Coming back

How long it takes until the device is connected again once the network serves it, from any
state of any run: `World.recovery` counts the iterations of the daemon, and says of the
other states that the daemon does not leave them by itself.  Those are the states in which
the device is not bound, in which an authentication has been rejected, and in which the
retry budget is spent; a call of another module is needed there, whatever the network does.

* `Serves` — the network serves every call of a step.
* `World.recovery` — the iterations that are left.
* `self_healing` — it is exact.
-/

namespace SwCloud

open CLib Effect Trans

variable {P : CldProtocol}

/-! ## What is asked of the network -/

/-- The network does what it is asked for.  A request that is not even sent, because its
text is too large, is not served. -/
def Event.served (P : CldProtocol) : Event → Bool
  | .socket fd => fd ≠ -1
  | .connect _ ret => ret = 0
  | .greeting _ n => 0 < n
  | .wrote _ _ _ ret => ret = 0
  | .received (.reply _ _) _ ret mem => 0 ≤ ret ∧ ReplyOk P mem
  | .received .control .. | .close _ => true
  | .tooLarge _ => false

/-- The network serves every call on the way from `w` to `w'`. -/
def Serves (w w' : World P) : Prop :=
  ∃ es, w'.trace = es ++ w.trace ∧ ∀ e ∈ es, e.served P = true

/-- The device is bound and connected, and the server has accepted it. -/
def InService (w : World P) : Prop :=
  w.cloud.status = .connected ∧ w.cloud.binded = true ∧ Authenticated w

/-- The calls of other modules; the other actions are the daemon and the messages. -/
def Action.isCall : Action → Bool
  | .regUsr .. | .bind .. | .ubind | .ping => true
  | _ => false

/-! ## The time it takes -/

/-- The iterations until `waits` has reached `wait`, in steps of `CLOUD_PACE`. -/
def paces (wait waits : ℤ) : ℕ := ((wait - waits + 499) / 500).toNat

/-- **The iterations of the daemon that are left** until the device is connected, if the
network serves it; `none` if the daemon does not get there by itself. -/
def World.recovery (w : World P) : Option ℕ :=
  if w.cloud.binded = false then none
  else match w.cloud.status with
    | .connected => some 0
    | .connecting => some 1
    | .init => some 2
    | .disconnected =>
        if w.cloud.retries < w.cloud.retryMax then
          some (paces w.cloud.retryWait w.cloud.waits + 2)
        else none
    | .restart =>
        if 0 < w.cloud.retryMax then some (paces (toInt32 (w.conf.retryWait * 1000)) 0 + 3)
        else none
    | .broken => none

/-- The interval that is waited for can be counted in an `int`. -/
structure WaitFits (w : World P) : Prop where
  waits_ge : -2147483648 ≤ w.cloud.waits
  wait_le : w.cloud.status = .disconnected → w.cloud.retryWait ≤ 2147483147
  interval_le : w.cloud.status = .restart → toInt32 (w.conf.retryWait * 1000) ≤ 2147483147

section Parts

variable {w w' w₁ : World P} {r : CommonStatus}

theorem Serves.of_eq (h : Serves w w₁) (htr : w'.trace = w₁.trace) : Serves w w' := by
  obtain ⟨es, hes, hserved⟩ := h
  exact ⟨es, htr.trans hes, hserved⟩

/-- What is served is served in all its parts. -/
theorem Serves.split (h : Serves w w') {es es' : List Event} (htr : w₁.trace = es ++ w.trace)
    (htr' : w'.trace = es' ++ w₁.trace) : Serves w w₁ ∧ Serves w₁ w' := by
  obtain ⟨all, hall, hserved⟩ := h
  have heq : all = es' ++ es := by
    refine List.append_cancel_right (?_ : all ++ w.trace = es' ++ es ++ w.trace)
    rw [← hall, htr', htr, List.append_assoc]
  rw [heq] at hserved
  exact ⟨⟨es, htr, fun e he => hserved e (List.mem_append_right _ he)⟩,
    ⟨es', htr', fun e he => hserved e (List.mem_append_left _ he)⟩⟩

/-- The newest event is served. -/
theorem Serves.newest (h : Serves w w') (e : Event) (es : List Event)
    (htr : w'.trace = e :: es ++ w.trace) : e.served P = true := by
  obtain ⟨all, hall, hserved⟩ := h
  obtain rfl : all = e :: es := List.append_cancel_right (hall.symm.trans htr)
  exact hserved e (List.mem_cons_self ..)

/-- A connect that is served succeeds. -/
theorem Connects.succeed_of_serves (hc : Connects w r w') (h : Serves w w') : r = .succeed := by
  cases hc with
  | noSocket =>
    have hnew := h.newest (.socket (-1)) [] rfl
    simp [Event.served] at hnew
  | @refused fd ret _ _ hret =>
    have hnew := h.newest (.connect fd ret) [.socket fd] rfl
    exact absurd (of_decide_eq_true hnew) hret
  | @noGreeting fd n _ _ hn =>
    have hnew := h.newest (.greeting fd n) [.connect fd 0, .socket fd] rfl
    exact absurd (of_decide_eq_true hnew) (not_lt.2 hn)
  | connected _ _ _ => rfl

/-- A request that is served succeeds. -/
theorem Requests.succeed_of_serves {cmd : ℕ} {t : CStr} (hq : Requests cmd t w r w')
    (h : Serves w w') : r = .succeed := by
  obtain ⟨rep, hx, hrep⟩ := hq
  cases hx with
  | tooLarge _ =>
    have hnew := h.newest (.tooLarge cmd) [] rfl
    cases hnew
  | @writeFailed hdr payload ret _ hret =>
    have hnew := h.newest (.wrote w.cloud.fd hdr payload ret) [] rfl
    exact absurd (of_decide_eq_true hnew) hret
  | @noReply hdr payload mem ret _ hret =>
    have hnew := h.newest (.received (.reply hdr payload) w.cloud.fd ret mem)
      [.wrote w.cloud.fd hdr payload 0] rfl
    exact absurd (of_decide_eq_true hnew).1 (not_le.2 hret)
  | @answered hdr payload mem ret _ hret _ =>
    have hnew := h.newest (.received (.reply hdr payload) w.cloud.fd ret mem)
      [.wrote w.cloud.fd hdr payload 0] rfl
    exact hrep.2.2 (of_decide_eq_true hnew).2

theorem Updates.succeed_of_serves (hu : Updates w r w') (h : Serves w w') : r = .succeed := by
  obtain ⟨w₁, hq, htr⟩ := hu.events_trace
  exact hq.succeed_of_serves (h.of_eq htr.symm)

/-- An `AUTH` on a connection that is served succeeds. -/
theorem Connects.auth_of_serves {r' : CommonStatus} (hc : Connects w r w₁) (ha : Auths w₁ r' w')
    (h : Serves w w') : r' = .succeed := by
  obtain ⟨es, htr, -⟩ := hc.effect.events 0
  obtain ⟨es', htr', -⟩ := Requests.events ha
  exact Requests.succeed_of_serves ha (h.split htr htr').2

/-- And so does the `UPDEV` behind it. -/
theorem Connects.update_of_serves {w₂ : World P} {r' r'' : CommonStatus} (hc : Connects w r w₁)
    (ha : Auths w₁ r' w₂) (hu : Updates w₂ r'' w') (h : Serves w w') : r'' = .succeed := by
  obtain ⟨es, htr, -⟩ := hc.effect.events 0
  obtain ⟨es', htr', -⟩ := Requests.events ha
  obtain ⟨es'', htr'', -⟩ := hu.asks
  have hboth : w₂.trace = (es' ++ es) ++ w.trace := by rw [htr', htr, List.append_assoc]
  exact hu.succeed_of_serves (h.split hboth htr'').2

/-- One more pace of waiting. -/
theorem paces_succ {wait waits : ℤ} (h : waits < wait) :
    paces wait waits = paces wait (waits + 500) + 1 := by
  unfold paces
  omega

theorem paces_eq_zero {wait waits : ℤ} (h : wait ≤ waits) : paces wait waits = 0 := by
  unfold paces
  omega

end Parts

/-! ## One iteration -/

section Steps

variable {w w' : World P}

theorem recovery_connected (hb : w.cloud.binded = true) (hs : w.cloud.status = .connected) :
    w.recovery = some 0 := by
  simp [World.recovery, hb, hs]

theorem recovery_connecting (hb : w.cloud.binded = true) (hs : w.cloud.status = .connecting) :
    w.recovery = some 1 := by
  simp [World.recovery, hb, hs]

theorem recovery_init (hb : w.cloud.binded = true) (hs : w.cloud.status = .init) :
    w.recovery = some 2 := by
  simp [World.recovery, hb, hs]

theorem recovery_disconnected (hb : w.cloud.binded = true) (hs : w.cloud.status = .disconnected)
    (hlt : w.cloud.retries < w.cloud.retryMax) :
    w.recovery = some (paces w.cloud.retryWait w.cloud.waits + 2) := by
  simp [World.recovery, hb, hs, hlt]

theorem recovery_restart (hb : w.cloud.binded = true) (hs : w.cloud.status = .restart)
    (hmax : 0 < w.cloud.retryMax) :
    w.recovery = some (paces (toInt32 (w.conf.retryWait * 1000)) 0 + 3) := by
  simp [World.recovery, hb, hs, hmax]

/-- Nothing is left to do for the daemon. -/
theorem recovery_eq_none_iff : w.recovery = none ↔ w.cloud.binded = false ∨
    w.cloud.status = .broken ∨
    (w.cloud.status = .disconnected ∧ w.cloud.retryMax ≤ w.cloud.retries) ∨
    (w.cloud.status = .restart ∧ w.cloud.retryMax ≤ 0) := by
  unfold World.recovery
  cases hb : w.cloud.binded <;> cases hs : w.cloud.status <;> simp

/-- A device that is connected has got there. -/
theorem recovery_eq_zero_iff :
    w.recovery = some 0 ↔ w.cloud.status = .connected ∧ w.cloud.binded = true := by
  unfold World.recovery
  cases hb : w.cloud.binded <;> cases hs : w.cloud.status <;> simp

/-- An iteration of waiting. -/
theorem WaitFits.paced (hfit : WaitFits w) (hb : w.cloud.binded = true)
    (hs : w.cloud.status = .disconnected) (hlt : w.cloud.retries < w.cloud.retryMax)
    (hwait : w.cloud.waits < w.cloud.retryWait) :
    WaitFits w.disconnect.paced ∧
      w.disconnect.paced.recovery = some (paces w.cloud.retryWait (w.cloud.waits + 500) + 2) := by
  have hrange := hfit.waits_ge
  have hle := hfit.wait_le hs
  have hpace : toInt32 (w.cloud.waits + 500) = w.cloud.waits + 500 :=
    toInt32_eq (by omega) (by omega)
  have hcloud : w.disconnect.paced.cloud =
      { w.cloud with fd := -1, waits := w.cloud.waits + 500 } := by
    simp only [World.cloud_paced, World.cloud_disconnect, hpace]
  refine ⟨⟨?_, fun _ => ?_, fun hr => ?_⟩, ?_⟩
  · rw [hcloud]
    show -2147483648 ≤ w.cloud.waits + 500
    omega
  · rw [hcloud]
    exact hle
  · rw [hcloud] at hr
    cases hs.symm.trans hr
  · rw [recovery_disconnected (by rw [hcloud]; exact hb) (by rw [hcloud]; exact hs)
      (by rw [hcloud]; exact hlt), hcloud]

/-- The iteration in which the counters and the interval are set again. -/
theorem WaitFits.restarted (hfit : WaitFits w) (hb : w.cloud.binded = true)
    (hs : w.cloud.status = .restart) (hmax : 0 < w.cloud.retryMax) :
    WaitFits (w.disconnect.unreachable.clearCounter.setStatus .disconnected) ∧
      (w.disconnect.unreachable.clearCounter.setStatus .disconnected).recovery =
        some (paces (toInt32 (w.conf.retryWait * 1000)) 0 + 2) := by
  have hcloud : (w.disconnect.unreachable.clearCounter.setStatus .disconnected).cloud =
      { w.cloud with
        fd := -1, reachable := .no, retries := 0, waits := 0, status := .disconnected,
        retryWait := toInt32 (w.conf.retryWait * 1000) } := by
    rw [World.cloud_setStatus, World.cloud_clearCounter, World.cloud_unreachable,
      World.conf_unreachable, World.cloud_disconnect, World.conf_disconnect]
  refine ⟨⟨?_, fun _ => ?_, nofun⟩, ?_⟩
  · rw [hcloud]
    show -2147483648 ≤ (0 : ℤ)
    omega
  · rw [hcloud]
    exact hfit.interval_le hs
  · rw [recovery_disconnected (by rw [hcloud]; exact hb) rfl (by rw [hcloud]; exact hmax), hcloud]

/-- **An iteration that the network serves takes one away.** -/
theorem DaemonStep.recovery_succ (hd : DaemonStep w w') (h : Serves w w') (hfit : WaitFits w)
    {n : ℕ} (hn : w.recovery = some (n + 1)) : WaitFits w' ∧ w'.recovery = some n := by
  have hleft : w.recovery ≠ none := by
    rw [hn]
    exact nofun
  rw [ne_eq, recovery_eq_none_iff] at hleft
  push Not at hleft
  obtain ⟨hb, hbroken, hspent, hmax⟩ := hleft
  have hb : w.cloud.binded = true := by simpa using hb
  have hnb : w.cloud.binded ≠ false := by simp [hb]
  have hnot : w.cloud.status ≠ .connected := fun hs => by
    cases hn.symm.trans (recovery_connected hb hs)
  have hrange := hfit.waits_ge
  cases hd with
  | initIdle _ hb' _ => exact absurd hb' hnb
  | initBound hs _ =>
    cases hn.symm.trans (recovery_init hb hs)
    exact ⟨⟨hrange, nofun, nofun⟩, recovery_connecting hb rfl⟩
  | connectFailed _ hc hr => exact absurd (hc.succeed_of_serves h) hr
  | connectUnbound _ hb' _ => exact absurd hb' hnb
  | authFailed _ _ hc ha hr => exact absurd (hc.auth_of_serves ha h) hr
  | updateFailed _ _ hc ha hu hr => exact absurd (hc.update_of_serves ha hu h) hr
  | @connected w₁ w₂ w₃ hs _ hc ha hu =>
    cases hn.symm.trans (recovery_connecting hb hs)
    have hcloud : w₃.cloud.waits = w.cloud.waits ∧ w₃.cloud.binded = w.cloud.binded := by
      rw [hu.cloud_eq, Requests.cloud_eq ha, hc.effect.cloud_eq]
      exact ⟨rfl, rfl⟩
    exact ⟨⟨hcloud.1.symm ▸ hrange, nofun, nofun⟩, recovery_connected (hcloud.2.trans hb) rfl⟩
  | dropUnbound _ hb' => exact absurd hb' hnb
  | upToDate hs _ _ _ => exact absurd hs hnot
  | refreshFailed hs _ _ _ _ _ => exact absurd hs hnot
  | refreshed hs _ _ _ _ _ => exact absurd hs hnot
  | gaveUp hs hno => exact absurd ⟨hb, hspent hs⟩ hno
  | waiting hs _ hlt hwait =>
    obtain ⟨hfits, hnext⟩ := hfit.paced hb hs hlt hwait
    rw [recovery_disconnected hb hs hlt, paces_succ hwait, Option.some.injEq] at hn
    exact ⟨hfits, hnext.trans (congrArg some (by omega))⟩
  | retry hs _ hlt hwait =>
    rw [recovery_disconnected hb hs hlt, paces_eq_zero hwait, Option.some.injEq] at hn
    obtain rfl : n = 1 := by omega
    have hb' : w.disconnect.cloud.binded = true := by rw [World.cloud_disconnect, hb]
    refine ⟨⟨?_, nofun, nofun⟩, recovery_connecting hb' rfl⟩
    simp only [World.cloud_paced, (toInt32_range _).1]
  | broken hs => exact absurd hs hbroken
  | restart hs =>
    obtain ⟨hfits, hnext⟩ := hfit.restarted hb hs (hmax hs)
    rw [recovery_restart hb hs (hmax hs), Option.some.injEq] at hn
    exact ⟨hfits, hnext.trans (congrArg some (by omega))⟩

/-- The daemon does not bind the device. -/
theorem DaemonStep.binded_false (hd : DaemonStep w w') (hb : w.cloud.binded = false) :
    w'.cloud.binded = false :=
  hd.keeps_or_clears.elim (fun hk => hk.binded_eq.trans hb) (·.binded_eq)

/-- **The daemon and the messages do not find a way out**, whatever the network does. -/
theorem Moves.recovery_none {a : Action} (hm : Moves w a w') (ha : a.isCall = false)
    (hn : w.recovery = none) : w'.recovery = none := by
  rw [recovery_eq_none_iff] at hn ⊢
  -- what is left to show for a device that is bound
  have hunbound : (w.cloud.binded = false → w'.cloud.binded = false) →
      (w.cloud.binded = true → w'.cloud.binded = false ∨ w'.cloud.status = .broken ∨
        (w'.cloud.status = .disconnected ∧ w'.cloud.retryMax ≤ w'.cloud.retries) ∨
        (w'.cloud.status = .restart ∧ w'.cloud.retryMax ≤ 0)) →
      w'.cloud.binded = false ∨ w'.cloud.status = .broken ∨
        (w'.cloud.status = .disconnected ∧ w'.cloud.retryMax ≤ w'.cloud.retries) ∨
        (w'.cloud.status = .restart ∧ w'.cloud.retryMax ≤ 0) := by
    intro hf ht
    cases hb : w.cloud.binded with
    | false => exact Or.inl (hf hb)
    | true => exact ht hb
  cases hm with
  | daemon hd =>
    refine hunbound hd.binded_false fun hb => ?_
    have hnb : w.cloud.binded ≠ false := by simp [hb]
    have hnow := hn.resolve_left hnb
    cases hd with
    | gaveUp hs hno =>
      rw [World.cloud_disconnect]
      exact hn
    | broken hs =>
      rw [World.cloud_disconnect]
      exact hn
    | restart hs =>
      have hmax : w.cloud.retryMax ≤ 0 := by simpa [hs] using hnow
      refine Or.inr (Or.inr (Or.inl ⟨rfl, ?_⟩))
      simpa using hmax
    | waiting hs _ hlt _ => simp [hs, not_le.2 hlt] at hnow
    | retry hs _ hlt _ => simp [hs, not_le.2 hlt] at hnow
    | initIdle _ hb' _ => exact absurd hb' hnb
    | initBound hs _ => simp [hs] at hnow
    | connectFailed hs _ _ => simp [hs] at hnow
    | connectUnbound _ hb' _ => exact absurd hb' hnb
    | authFailed hs _ _ _ _ => simp [hs] at hnow
    | updateFailed hs _ _ _ _ _ => simp [hs] at hnow
    | connected hs _ _ _ _ => simp [hs] at hnow
    | dropUnbound _ hb' => exact absurd hb' hnb
    | upToDate hs _ _ _ => simp [hs] at hnow
    | refreshFailed hs _ _ _ _ _ => simp [hs] at hnow
    | refreshed hs _ _ _ _ _ => simp [hs] at hnow
  | notice _ hs => exact hn
  | restart hs =>
    have hb : w.cloud.binded = false := by simpa [hs] using hn
    exact Or.inl hb
  | ignored _ _ => exact hn
  | regUsr _ => cases ha
  | bind _ => cases ha
  | ubind _ => cases ha
  | ping => cases ha

end Steps

/-! ## The waiting time in a run -/

section Waits

variable {w w' : World P} {r : CommonStatus} {n : ℤ}

/-- The waiting time is that of `w`, or one that has been stored as an `int` since. -/
def WaitsKept (w w' : World P) : Prop :=
  w'.cloud.waits = w.cloud.waits ∨ -2147483648 ≤ w'.cloud.waits

theorem Connects.waits_eq (hc : Connects w r w') : w'.cloud.waits = w.cloud.waits := by
  rw [hc.effect.cloud_eq]

theorem Requests.waits_eq {cmd : ℕ} {t : CStr} (hq : Requests cmd t w r w') :
    w'.cloud.waits = w.cloud.waits := by
  rw [hq.cloud_eq]

theorem Updates.waits_eq (hu : Updates w r w') : w'.cloud.waits = w.cloud.waits := by
  rw [hu.cloud_eq]

theorem World.disconnect_waits (w : World P) : w.disconnect.cloud.waits = w.cloud.waits := by
  rw [World.cloud_disconnect]

theorem Polls.waits_eq (hp : Polls w w') : w'.cloud.waits = w.cloud.waits := by
  have hcontrol : ∀ {r : ℤ} {w₁ : World P}, Control w r w₁ →
      w₁.cloud.waits = w.cloud.waits := by
    intro r w₁ hc
    obtain ⟨es, qs, he⟩ := hc.effect
    cases he.unbinds with
    | no hc _ _ => rw [hc]
    | yes hc _ _ => rw [hc]
  cases hp with
  | quiet => rfl
  | served _ hc => exact hcontrol hc
  | failed _ _ hc => exact (World.disconnect_waits _).trans (hcontrol hc)

theorem DaemonStep.waitsKept (hd : DaemonStep w w') : WaitsKept w w' := by
  cases hd with
  | initIdle _ _ hp => exact Or.inl hp.waits_eq
  | initBound _ _ => exact Or.inl rfl
  | connectFailed _ hc _ => exact Or.inl hc.waits_eq
  | connectUnbound _ _ hc => exact Or.inr (by simp)
  | authFailed _ _ hc ha _ => exact Or.inl ((Requests.waits_eq ha).trans hc.waits_eq)
  | updateFailed _ _ hc ha hu _ =>
    exact Or.inl (hu.waits_eq.trans ((Requests.waits_eq ha).trans hc.waits_eq))
  | connected _ _ hc ha hu =>
    exact Or.inl (hu.waits_eq.trans ((Requests.waits_eq ha).trans hc.waits_eq))
  | dropUnbound _ _ => exact Or.inl rfl
  | upToDate _ _ _ hp => exact Or.inl hp.waits_eq
  | refreshFailed _ _ _ _ hu _ => exact Or.inl hu.waits_eq
  | refreshed _ _ _ _ hu hp => exact Or.inl (hp.waits_eq.trans hu.waits_eq)
  | gaveUp _ _ => exact Or.inl (World.disconnect_waits w)
  | waiting _ _ _ _ => exact Or.inr (by simp only [World.cloud_paced, (toInt32_range _).1])
  | retry _ _ _ _ => exact Or.inr (by simp only [World.cloud_paced, (toInt32_range _).1])
  | broken _ => exact Or.inl (World.disconnect_waits w)
  | restart _ => exact Or.inr (by simp)

theorem RegUsrStep.waits_eq {account username password : CStr}
    (hr : RegUsrStep account username password w r w') : w'.cloud.waits = w.cloud.waits := by
  cases hr with
  | noConnection _ hc _ => exact hc.waits_eq
  | offline _ hc hq =>
    obtain ⟨_, hq⟩ := hq
    exact hq.waits_eq.trans hc.waits_eq
  | online _ _ hq =>
    obtain ⟨_, hq⟩ := hq
    exact hq.waits_eq
  | dropped _ _ hq =>
    obtain ⟨_, hq⟩ := hq
    exact (World.disconnect_waits _).trans hq.waits_eq

theorem BindStep.waits_eq {user password devicename : CStr}
    (hb : BindStep user password devicename w r w') : w'.cloud.waits = w.cloud.waits := by
  have hconnect : ∀ {w₁ : World P}, Connects w.disconnect .succeed w₁ →
      (w₁.credited user password devicename).cloud.waits = w.cloud.waits :=
    fun hc => hc.waits_eq.trans (World.disconnect_waits w)
  cases hb with
  | refused _ _ => rfl
  | noConnection _ hc _ =>
    exact (World.disconnect_waits _).trans (hc.waits_eq.trans (World.disconnect_waits w))
  | authFailed _ hc ha _ =>
    exact (World.disconnect_waits _).trans ((Requests.waits_eq ha).trans (hconnect hc))
  | bindFailed _ hc ha hq _ =>
    obtain ⟨_, hq⟩ := hq
    exact (World.disconnect_waits _).trans
      (hq.waits_eq.trans ((Requests.waits_eq ha).trans (hconnect hc)))
  | bound _ hc ha hq hu =>
    obtain ⟨_, hq⟩ := hq
    exact hu.waits_eq.trans (hq.waits_eq.trans ((Requests.waits_eq ha).trans (hconnect hc)))

theorem UBindOnline.waits_eq (ho : UBindOnline w r w') : w'.cloud.waits = w.cloud.waits := by
  cases ho with
  | acknowledged hq =>
    have hq := Requests.waits_eq hq
    exact (World.disconnect_waits _).trans hq
  | failed hq _ =>
    have hq := Requests.waits_eq hq
    exact (World.disconnect_waits _).trans hq

theorem UBindStep.waits_eq (hu : UBindStep w r w') : w'.cloud.waits = w.cloud.waits := by
  cases hu with
  | notBound _ => rfl
  | noConnection _ _ hc _ => exact (World.disconnect_waits _).trans hc.waits_eq
  | authFailed _ _ hc ha _ =>
    exact (World.disconnect_waits _).trans ((Requests.waits_eq ha).trans hc.waits_eq)
  | offline _ _ hc ha ho => exact ho.waits_eq.trans ((Requests.waits_eq ha).trans hc.waits_eq)
  | online _ _ ho => exact ho.waits_eq

theorem Moves.waitsKept {a : Action} (hm : Moves w a w') : WaitsKept w w' := by
  cases hm with
  | daemon hd => exact hd.waitsKept
  | notice _ _ => exact Or.inl rfl
  | restart _ => exact Or.inl rfl
  | ignored _ _ => exact Or.inl rfl
  | regUsr hr => exact Or.inl hr.waits_eq
  | bind hb => exact Or.inl hb.waits_eq
  | ubind hu => exact Or.inl hu.waits_eq
  | ping =>
    rw [World.pinged]
    split
    · exact Or.inl rfl
    · exact Or.inr (by simp)

end Waits

/-! ## Runs -/

section Runs

variable {f : Conf P} {i : SysInfo P} {h : List (Move (World P) Action)} {w : World P}

theorem Run.waits_ge (hr : Run f i h w) : -2147483648 ≤ w.cloud.waits :=
  hr.invariant (fun w => -2147483648 ≤ w.cloud.waits) (by show (-2147483648 : ℤ) ≤ 0; omega)
    fun _ _ _ hle hs => hs.moves.waitsKept.elim (fun heq => heq ▸ hle) id

/-- **How the device comes back.**  From any state of any run: if `World.recovery` says `n`
and the network serves every call from now on, the daemon has connected the device after
exactly `n` iterations, as long as the interval that is still to be waited for can be counted
in an `int`; and if it says `none`, neither the daemon nor a message connects the device ever
again, whatever the network does. -/
theorem self_healing (hr : Run f i h w) :
    ((w.cloud.status = .disconnected → w.cloud.retryWait ≤ 2147483147) →
      (w.cloud.status = .restart → toInt32 (w.conf.retryWait * 1000) ≤ 2147483147) →
      ∀ n, w.recovery = some n → ∀ h' w', Path Step w h' w' →
        (∀ m ∈ h', m.label = .daemon ∧ Serves m.pre m.post) → h'.length ≤ n →
          (InService w' ↔ h'.length = n)) ∧
    (w.recovery = none → ∀ h' w', Path Step w h' w' → (∀ m ∈ h', m.label.isCall = false) →
      ¬ InService w') := by
  have hiff : ∀ h' w', Path Step w h' w' → (InService w' ↔ w'.recovery = some 0) := by
    intro h' w' hp
    rw [recovery_eq_zero_iff]
    exact ⟨fun hin => ⟨hin.1, hin.2.1⟩, fun ⟨hs, hb⟩ =>
      ⟨hs, hb, Run.authenticated (hr.append hp) hs hb⟩⟩
  constructor
  · intro hwait hinterval n hn h' w' hp hall hle
    have hcount := hp.countdown World.recovery WaitFits hall ⟨hr.waits_ge, hwait, hinterval⟩
      (fun s l s' n hfit hn hC hs => by
        obtain ⟨rfl, hserves⟩ := hC
        exact (runs_cloudDaemon hs).recovery_succ hserves hfit hn) hn hle
    rw [hiff h' w' hp, hcount.2, Option.some.injEq]
    omega
  · intro hn h' w' hp hall
    have hlost := hp.invariant_of (fun w => w.recovery = none) hall hn
      (fun s l s' hn hC hs => hs.moves.recovery_none hC hn)
    rw [hiff h' w' hp, hlost]
    exact nofun

/-- A run to which the law applies: a device that has been bound before is started, and is
connected after two iterations. -/
theorem self_healing_start : ∃ (h : List (Move (World sampleProtocol) Action))
    (w : World sampleProtocol),
    Run (sampleConf (CStr.lit "u") (CStr.lit "p")) sampleInfo h w ∧ h.length = 2 ∧
      InService w := by
  obtain ⟨h, w, hr, hlen, hall⟩ := exists_run (sampleConf (CStr.lit "u") (CStr.lit "p"))
    sampleInfo [(.daemon, []), (.daemon, connectedInputs 3)]
    (fun r => r.1.length = 2 ∧ ∀ m ∈ r.1, m.label = .daemon ∧
      m.post.trace = m.pre.since m.post ++ m.pre.trace ∧
      ∀ e ∈ m.pre.since m.post, e.served sampleProtocol = true) (by decide +kernel)
  refine ⟨h, w, hr, hlen, ((self_healing .start).1 (by decide) (by decide) 2 (by decide) h w hr
    (fun m hm => ?_) hlen.le).2 hlen⟩
  obtain ⟨hlabel, htr, hserved⟩ := hall m hm
  exact ⟨hlabel, _, htr, hserved⟩

end Runs

end SwCloud
