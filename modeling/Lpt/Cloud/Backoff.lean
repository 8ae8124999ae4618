import Lpt.Base.Backoff
import Lpt.Cloud.Retry

/-!
# The schedule of the reconnect attempts

While a bound device is `DISCONNECTED` the daemon is a timer with a doubling interval, as
long as the doubling does not overflow: `Shows` says which timer a world shows, and each
iteration of the daemon is one of its steps.  So the schedule of an outage is that of the
timer, in closed form.

The doubling is a shift of an `int`.  It stays exact along a run exactly if no attempt is
counted when the doubled interval does not fit any more, which the shipped configuration
does not exclude.
-/

namespace SwCloud

open CLib Effect Trans

variable {P : CldProtocol}

/-! ## Iterations without a connection -/

/-- The world after an iteration of the daemon that finds the status `DISCONNECTED`. -/
def World.ticked (w : World P) : World P :=
  if w.cloud.binded = true ∧ w.cloud.retries < w.cloud.retryMax then
    if w.cloud.retryWait ≤ w.cloud.waits then w.disconnect.retried.paced
    else w.disconnect.paced
  else w.disconnect

/-- The world after an iteration of the daemon that gets no socket for its connect. -/
def World.socketless (w : World P) : World P :=
  ((w.log (.socket (-1))).modify fun c => { c with fd := -1 }).unreachable.setStatus .disconnected

section Iterations

variable {w w' : World P} {u : Unit}

theorem runs_networkReadEvent_closed (hfd : w.cloud.fd = -1) {t : ℤ} {b : Bool} :
    Runs (networkReadEvent t) w b w' ↔ b = false ∧ w' = w := by
  simp only [networkReadEvent, runs_bind, runs_getCloud, runs_ite, runs_sleep, runs_pure]
  constructor
  · rintro ⟨_, _, ⟨rfl, rfl⟩, ⟨-, _, _, rfl, h⟩ | ⟨hne, -⟩⟩
    · exact h
    · exact absurd hfd hne
  · rintro ⟨rfl, rfl⟩
    exact ⟨_, _, ⟨rfl, rfl⟩, Or.inl ⟨hfd, (), w', rfl, rfl, rfl⟩⟩

/-- Without a socket there is nothing to poll. -/
theorem runs_pollControl_closed (hfd : w.cloud.fd = -1) : Runs pollControl w u w' ↔ w' = w := by
  constructor
  · intro h
    exact (runs_pollControl h).eq_of_fd hfd
  · rintro rfl
    unfold pollControl
    refine runs_bind.2 ⟨false, w', (runs_networkReadEvent_closed hfd).2 ⟨rfl, rfl⟩, ?_⟩
    exact runs_pure.2 ⟨rfl, rfl⟩

theorem DaemonStep.eq_ticked (hd : DaemonStep w w') (hs : w.cloud.status = .disconnected) :
    w' = w.ticked := by
  unfold World.ticked
  cases hd
  case gaveUp hs' hn => rw [if_neg hn]
  case waiting hs' hb hr hw => rw [if_pos ⟨hb, hr⟩, if_neg (not_le.2 hw)]
  case retry hs' hb hr hw => rw [if_pos ⟨hb, hr⟩, if_pos hw]
  -- all other cases find another status
  all_goals simp_all only [reduceCtorEq]

/-- **The case `DISCONNECTED`.** -/
theorem runs_cloudDaemon_disconnected (hs : w.cloud.status = .disconnected) :
    Runs cloudDaemon w u w' ↔ w' = w.ticked := by
  constructor
  · intro h
    exact (runs_cloudDaemon h).eq_ticked hs
  · rintro rfl
    unfold cloudDaemon
    refine runs_bind.2 ⟨.disconnected, w, runs_cloudGetStatus.2 ⟨hs.symm, rfl⟩, ?_⟩
    show Runs daemonDisconnected w u w.ticked
    have hfd : ∀ {v : World P}, v.cloud.fd = -1 → Runs pollControl v u v := fun h =>
      (runs_pollControl_closed h).2 rfl
    unfold daemonDisconnected World.ticked
    simp only [runs_bind, runs_cloudDoDisconnect, runs_getCloud, runs_ite, retryConnect, addPace,
      runs_modifyCloud, runs_cloudSetStatus]
    refine ⟨(), w.disconnect, rfl, _, w.disconnect, ⟨rfl, rfl⟩, ?_⟩
    rw [World.cloud_disconnect]
    by_cases hb : w.cloud.binded = true ∧ w.cloud.retries < w.cloud.retryMax
    · refine Or.inl ⟨hb, ?_⟩
      rw [if_pos hb]
      by_cases hw : w.cloud.retryWait ≤ w.cloud.waits
      · rw [if_pos hw]
        exact Or.inl ⟨hw, (), _, ⟨(), _, rfl, (), _, rfl, (), _, rfl, rfl⟩, (), _, rfl,
          hfd (by rw [World.cloud_modify]; exact congrArg Cloud.fd w.cloud_disconnect)⟩
      · rw [if_neg hw]
        exact Or.inr ⟨hw, (), _, rfl,
          hfd (by rw [World.cloud_modify]; exact congrArg Cloud.fd w.cloud_disconnect)⟩
    · refine Or.inr ⟨hb, ?_⟩
      rw [if_neg hb]
      exact hfd (congrArg Cloud.fd w.cloud_disconnect)

/-- In the case `CONNECTING`, `socket` may fail. -/
theorem runs_cloudDaemon_socketless (hs : w.cloud.status = .connecting) :
    Runs cloudDaemon w () w.socketless := by
  unfold cloudDaemon
  refine runs_bind.2 ⟨.connecting, w, runs_cloudGetStatus.2 ⟨hs.symm, rfl⟩, ?_⟩
  show Runs daemonConnecting w () w.socketless
  have hconnect : Runs cloudDoConnect w .cloudNetwork
      ((w.log (.socket (-1))).modify fun c => { c with fd := -1 }).unreachable := by
    unfold cloudDoConnect
    refine runs_bind.2 ⟨-1, _, runs_socket.2 (Or.inl ⟨rfl, rfl⟩), ?_⟩
    refine runs_bind.2 ⟨(), _, runs_modifyCloud.2 rfl, ?_⟩
    refine runs_bind.2 ⟨_, _, runs_getCloud.2 ⟨rfl, rfl⟩, ?_⟩
    exact runs_ite.2 (Or.inl ⟨rfl, runs_connectFailed.2 ⟨rfl, rfl⟩⟩)
  unfold daemonConnecting
  refine runs_bind.2 ⟨_, _, hconnect, ?_⟩
  rw [if_pos (by simp)]
  exact runs_cloudSetStatus.2 rfl

theorem World.ticked_trace (w : World P) : w.ticked.trace = w.disconnect.trace := by
  unfold World.ticked
  split_ifs <;> rfl

/-- The calls of `cloud_do_connect` on the way from `w` to `w'`: each of them begins with the
one call of `socket` that the source has. -/
def World.connectCalls (w w' : World P) : ℕ := (w.since w').countP Event.isSocket

theorem World.connectCalls_of_trace (es : List Event) (h : w'.trace = es ++ w.trace) :
    w.connectCalls w' = es.countP Event.isSocket := by
  rw [World.connectCalls, World.since_eq h]

/-- A tick makes no attempt. -/
theorem World.connectCalls_ticked (w : World P) : w.connectCalls w.ticked = 0 := by
  obtain ⟨es, htr, hes, -⟩ := w.disconnect_events 0
  rw [World.connectCalls_of_trace es (w.ticked_trace.trans htr), List.countP_eq_zero]
  intro e he
  rw [hes e he]
  exact Bool.false_ne_true

/-- However it ends, `cloud_do_connect` is one attempt. -/
theorem Connects.connectCalls {r : CommonStatus} (h : Connects w r w') :
    w.connectCalls w' = 1 := by
  cases h with
  | noSocket => exact World.connectCalls_of_trace [.socket (-1)] rfl
  | @refused fd ret _ _ _ =>
    exact World.connectCalls_of_trace [.connect fd ret, .socket fd] rfl
  | @noGreeting fd n _ _ _ =>
    exact World.connectCalls_of_trace [.greeting fd n, .connect fd 0, .socket fd] rfl
  | @connected fd n _ _ _ =>
    exact World.connectCalls_of_trace [.greeting fd n, .connect fd 0, .socket fd] rfl

end Iterations

/-! ## The schedule of an outage -/

/-- A device that has lost its connection, with a full budget: an interval of `W` seconds, and
`M` attempts. -/
structure OutageStart (W M : ℕ) (w : World P) : Prop where
  status_eq : w.cloud.status = .disconnected
  binded_eq : w.cloud.binded = true
  retries_eq : w.cloud.retries = 0
  waits_eq : w.cloud.waits = 0
  retryWait_eq : w.cloud.retryWait = 1000 * W
  retryMax_eq : w.cloud.retryMax = M

/-- An iteration of the daemon in which no connect succeeds. -/
def Down (m : Move (World P) Action) : Prop :=
  m.label = .daemon ∧ m.pre.greeted m.post = false

/-- The statuses that the iterations of the daemon have found, first one first: each iteration
executes the case of the status it has found. -/
def found (h : List (Move (World P) Action)) : List Status :=
  (h.map fun m => m.pre.cloud.status).reverse

/-- The statuses found up to the last of `M` attempts: before the first attempt the case
`DISCONNECTED` is executed `2 * W + 1` times, and before the attempt number `k + 1` another
`W * 2 ^ (k + 1)` times. -/
def outage (W M : ℕ) : List Status :=
  (List.range M).flatMap fun k =>
    List.replicate (if k = 0 then 2 * W + 1 else W * 2 ^ (k + 1)) .disconnected ++ [.connecting]

/-- The timer of an outage, in milliseconds. -/
def outagePlan (W M : ℕ) : Backoff.Plan := ⟨1000 * W, 500, M⟩

/-- The world `w` shows the timer `t`. -/
structure Shows (M : ℕ) (w : World P) (t : Backoff.Timer) : Prop where
  binded_eq : w.cloud.binded = true
  status_eq : w.cloud.status = if t.due then .connecting else .disconnected
  retries_eq : w.cloud.retries = t.tries
  retryWait_eq : w.cloud.retryWait = t.wait
  waits_eq : w.cloud.waits = t.waited
  retryMax_eq : w.cloud.retryMax = M

section Schedule

variable {W M : ℕ} {w w' w₀ : World P} {t : Backoff.Timer} {l : List Bool}
  {h : List (Move (World P) Action)}

theorem gap_outagePlan (a : ℕ) :
    (outagePlan W M).gap a = if a = 0 then 2 * W + 1 else W * 2 ^ (a + 1) := by
  cases a with
  | zero =>
    show 1000 * W ⌈/⌉ 500 + 1 = 2 * W + 1
    rw [Nat.ceilDiv_eq_add_pred_div]
    omega
  | succ a =>
    have hpow : W * 2 ^ (a + 1 + 1) = 2 * (W * 2 ^ (a + 1)) := by ring
    show 1000 * W * 2 ^ (a + 1) ⌈/⌉ 500 = if a + 1 = 0 then _ else _
    rw [Nat.ceilDiv_eq_add_pred_div, if_neg (Nat.succ_ne_zero a), hpow, mul_assoc]
    omega

/-- The schedule of the timer, told in statuses. -/
theorem map_rounds (a : ℕ) : ((outagePlan W M).rounds a).map
    (fun due => if due then Status.connecting else .disconnected) = outage W a := by
  unfold Backoff.Plan.rounds outage
  rw [List.map_flatMap]
  congr 1
  funext k
  rw [List.map_append, List.map_replicate, gap_outagePlan]
  rfl

/-- What a failed connect leaves. -/
theorem Shows.of_connectFailed {r : CommonStatus} {w₁ : World P} (hs : Shows M w t)
    (hdue : t.due = true) (hc : Connects w r w₁) :
    Shows M (w₁.setStatus .disconnected) ((outagePlan W M).step t) := by
  have hstep : (outagePlan W M).step t = { t with due := false } := if_pos hdue
  rw [hstep]
  have hcloud := hc.effect.cloud_eq
  constructor
  · rw [World.cloud_setStatus, hcloud]
    exact hs.binded_eq
  · rfl
  · rw [World.cloud_setStatus, hcloud]
    exact hs.retries_eq
  · rw [World.cloud_setStatus, hcloud]
    exact hs.retryWait_eq
  · rw [World.cloud_setStatus, hcloud]
    exact hs.waits_eq
  · rw [World.cloud_setStatus, hcloud]
    exact hs.retryMax_eq

/-- Before the last attempt there is room for one more doubling, and for one more attempt. -/
theorem outage_room (hph : (outagePlan W M).Phase t l) (hW : 1 ≤ W)
    (hfit : 1000 * W * 2 ^ M ≤ 2147483647) (hlt : t.tries < M) :
    2 * t.wait ≤ 2147483647 ∧ t.tries < t.wait := by
  obtain ⟨hwait, -⟩ := hph.wait_eq
  change t.wait = 1000 * W * 2 ^ t.tries at hwait
  constructor
  · have hpow : 2 ^ (t.tries + 1) ≤ 2 ^ M := Nat.pow_le_pow_right (by omega) hlt
    have hdouble : 2 * t.wait = 1000 * W * 2 ^ (t.tries + 1) := by rw [hwait]; ring
    exact hdouble ▸ (Nat.mul_le_mul_left _ hpow).trans hfit
  · have hpow : t.tries < 2 ^ t.tries := Nat.lt_two_pow_self
    rw [hwait]
    exact hpow.trans_le (Nat.le_mul_of_pos_left _ (by omega))

/-- A tick with which the next attempt is due, after a wait that is twice as long. -/
theorem Shows.attempts (hs : Shows M w t) (hroom : 2 * t.wait ≤ 2147483647)
    (hcount : t.tries < t.wait) :
    Shows M w.disconnect.retried.paced ⟨t.tries + 1, 2 * t.wait, 500, true⟩ := by
  constructor
  · rw [World.cloud_paced, World.cloud_retried, World.cloud_disconnect]
    exact hs.binded_eq
  · rfl
  · rw [World.cloud_paced, World.cloud_retried, World.cloud_disconnect]
    show toInt32 (w.cloud.retries + 1) = ((t.tries + 1 : ℕ) : ℤ)
    rw [hs.retries_eq, toInt32_eq (by omega) (by omega)]
    push_cast
    rfl
  · rw [World.cloud_paced, World.cloud_retried, World.cloud_disconnect]
    show toInt32 (w.cloud.retryWait * 2) = ((2 * t.wait : ℕ) : ℤ)
    rw [hs.retryWait_eq, toInt32_eq (by omega) (by omega)]
    push_cast
    ring
  · rfl
  · rw [World.cloud_paced, World.cloud_retried, World.cloud_disconnect]
    exact hs.retryMax_eq

/-- A tick of the wait. -/
theorem Shows.waits (hs : Shows M w t) (hdue : t.due = false)
    (hroom : t.waited + 500 ≤ 2147483647) :
    Shows M w.disconnect.paced ⟨t.tries, t.wait, t.waited + 500, false⟩ := by
  constructor
  · rw [World.cloud_paced, World.cloud_disconnect]
    exact hs.binded_eq
  · rw [World.cloud_paced, World.cloud_disconnect]
    show w.cloud.status = .disconnected
    rw [hs.status_eq, hdue, if_neg Bool.false_ne_true]
  · rw [World.cloud_paced, World.cloud_disconnect]
    exact hs.retries_eq
  · rw [World.cloud_paced, World.cloud_disconnect]
    exact hs.retryWait_eq
  · rw [World.cloud_paced, World.cloud_disconnect]
    show toInt32 (w.cloud.waits + 500) = ((t.waited + 500 : ℕ) : ℤ)
    rw [hs.waits_eq, toInt32_eq (by omega) (by omega)]
    push_cast
    rfl
  · rw [World.cloud_paced, World.cloud_disconnect]
    exact hs.retryMax_eq

/-- A tick after the last attempt. -/
theorem Shows.disconnect (hs : Shows M w t) : Shows M w.disconnect t := by
  constructor
  all_goals rw [World.cloud_disconnect]
  · exact hs.binded_eq
  · exact hs.status_eq
  · exact hs.retries_eq
  · exact hs.retryWait_eq
  · exact hs.waits_eq
  · exact hs.retryMax_eq

/-- An iteration that finds `DISCONNECTED` is a tick. -/
theorem Shows.ticked (hs : Shows M w t) (hdue : t.due = false)
    (hph : (outagePlan W M).Phase t l) (hW : 1 ≤ W) (hfit : 1000 * W * 2 ^ M ≤ 2147483647) :
    Shows M w.ticked ((outagePlan W M).step t) := by
  have hgo : w.cloud.binded = true ∧ w.cloud.retries < w.cloud.retryMax ↔ t.tries < M := by
    rw [hs.retries_eq, hs.retryMax_eq, Nat.cast_lt]
    exact and_iff_right hs.binded_eq
  have hfull : w.cloud.retryWait ≤ w.cloud.waits ↔ t.wait ≤ t.waited := by
    rw [hs.retryWait_eq, hs.waits_eq, Nat.cast_le]
  unfold World.ticked Backoff.Plan.step
  rw [hdue, if_neg Bool.false_ne_true, if_congr hgo rfl rfl]
  show Shows M _ (if t.tries < M then _ else t)
  by_cases hlt : t.tries < M
  · rw [if_pos hlt, if_pos hlt, if_congr hfull rfl rfl]
    obtain ⟨hroom, hcount⟩ := outage_room hph hW hfit hlt
    by_cases hle : t.wait ≤ t.waited
    · rw [if_pos hle, if_pos hle]
      exact hs.attempts hroom hcount
    · rw [if_neg hle, if_neg hle]
      exact hs.waits hdue (by omega)
  · rw [if_neg hlt, if_neg hlt]
    exact hs.disconnect

/-- An iteration of an outage that finds `CONNECTING` is a connect that fails. -/
theorem DaemonStep.eq_connectFailed (hd : DaemonStep w w') (hg : w.greeted w' = false)
    (hst : w.cloud.status = .connecting) (hb : w.cloud.binded = true) :
    ∃ r w₁, Connects w r w₁ ∧ w' = w₁.setStatus .disconnected := by
  have hgreeted : ∀ {v : World P}, Greets w v true → w.greeted v ≠ false := by
    intro v hv hn
    rw [hv.greeted] at hn
    cases hn
  cases hd
  case connectFailed hs' hc hr => exact ⟨_, _, hc, rfl⟩
  case connectUnbound hs' hb' hc => cases hb.symm.trans hb'
  case authFailed hs' hb' hc ha hr =>
    exact absurd hg (hgreeted (hc.greets.trans (Requests.greets ha)))
  case updateFailed hs' hb' hc ha hu hr =>
    exact absurd hg (hgreeted ((hc.greets.trans (Requests.greets ha)).trans hu.greets))
  case connected hs' hb' hc ha hu =>
    exact absurd hg (hgreeted ((hc.greets.trans (Requests.greets ha)).trans hu.greets))
  -- all other cases find another status
  all_goals simp_all only [reduceCtorEq]

/-- **One iteration of the daemon is one step of the timer**, as long as no connect
succeeds; and it is an attempt exactly if the timer has one due. -/
theorem DaemonStep.shows (hd : DaemonStep w w') (hg : w.greeted w' = false) (hs : Shows M w t)
    (hph : (outagePlan W M).Phase t l) (hW : 1 ≤ W) (hfit : 1000 * W * 2 ^ M ≤ 2147483647) :
    Shows M w' ((outagePlan W M).step t) ∧
      w.connectCalls w' = if w.cloud.status = .connecting then 1 else 0 := by
  cases hdue : t.due with
  | false =>
    have hst : w.cloud.status = .disconnected := by rw [hs.status_eq, hdue]; rfl
    rw [hd.eq_ticked hst, hst, if_neg Status.noConfusion]
    exact ⟨hs.ticked hdue hph hW hfit, w.connectCalls_ticked⟩
  | true =>
    have hst : w.cloud.status = .connecting := by rw [hs.status_eq, hdue]; rfl
    obtain ⟨r, w₁, hc, rfl⟩ := hd.eq_connectFailed hg hst hs.binded_eq
    rw [if_pos hst]
    exact ⟨hs.of_connectFailed hdue hc, hc.connectCalls⟩

/-- The run of an outage shows the run of the timer. -/
theorem outage_shows (hW : 1 ≤ W) (hfit : 1000 * W * 2 ^ M ≤ 2147483647)
    (h0 : OutageStart W M w₀) (hp : Path Step w₀ h w) (hdown : ∀ m ∈ h, Down m) :
    Shows M w ((outagePlan W M).run h.length) ∧
      found h = ((outagePlan W M).log h.length).map
        (fun due => if due then Status.connecting else .disconnected) ∧
      ∀ m ∈ h, m.pre.connectCalls m.post = if m.pre.cloud.status = .connecting then 1 else 0 := by
  have hbase : 0 < (outagePlan W M).base := by show 0 < 1000 * W; omega
  have hpace : 0 < (outagePlan W M).pace := by show 0 < 500; omega
  induction hp with
  | start =>
    refine ⟨⟨h0.binded_eq, h0.status_eq, ?_, ?_, ?_, h0.retryMax_eq⟩, rfl,
      List.forall_mem_nil _⟩
    · exact h0.retries_eq
    · show w₀.cloud.retryWait = ((1000 * W : ℕ) : ℤ)
      rw [h0.retryWait_eq]
      push_cast
      rfl
    · exact h0.waits_eq
  | @snoc h w w' a hp hs ih =>
    obtain ⟨hshow, hfound, hcalls⟩ := ih fun m hm => hdown m (List.mem_cons_of_mem _ hm)
    obtain ⟨hl, hg⟩ := hdown _ (List.mem_cons_self ..)
    obtain rfl : a = .daemon := hl
    obtain ⟨hnext, hcall⟩ := (runs_cloudDaemon hs).shows hg hshow
      (Backoff.Plan.phase hbase hpace _) hW hfit
    refine ⟨hnext, ?_, List.forall_mem_cons.2 ⟨hcall, hcalls⟩⟩
    unfold found at hfound ⊢
    rw [List.map_cons, List.reverse_cons, hfound]
    show _ ++ [w.cloud.status] = ((outagePlan W M).log h.length ++
      [((outagePlan W M).run h.length).due]).map _
    rw [List.map_append, hshow.status_eq]
    rfl

/-- An outage can go on for any number of iterations. -/
theorem exists_outage (hb : w₀.cloud.binded = true)
    (hs : w₀.cloud.status = .disconnected ∨ w₀.cloud.status = .connecting) (n : ℕ) :
    ∃ h w, Path Step w₀ h w ∧ (∀ m ∈ h, Down m) ∧ h.length = n ∧ w.cloud.binded = true ∧
      (w.cloud.status = .disconnected ∨ w.cloud.status = .connecting) := by
  induction n with
  | zero => exact ⟨[], w₀, .start, List.forall_mem_nil _, rfl, hb, hs⟩
  | succ n ih =>
    obtain ⟨h, w, hp, hdown, hn, hb, hs⟩ := ih
    obtain ⟨w', hstep, hg, hb', hs'⟩ : ∃ w', Step w .daemon w' ∧ w.greeted w' = false ∧
        w'.cloud.binded = true ∧
          (w'.cloud.status = .disconnected ∨ w'.cloud.status = .connecting) := by
      rcases hs with hs | hs
      · refine ⟨w.ticked, (runs_cloudDaemon_disconnected hs).2 rfl, ?_, ?_, ?_⟩
        · obtain ⟨es, htr, hes⟩ := w.disconnect_greets
          exact Greets.greeted ⟨es, w.ticked_trace.trans htr, hes⟩
        · unfold World.ticked
          split_ifs
          all_goals simpa using hb
        · unfold World.ticked
          split_ifs
          · exact Or.inr rfl
          all_goals exact Or.inl (by simpa using hs)
      · exact ⟨w.socketless, runs_cloudDaemon_socketless hs, Greets.greeted ⟨[_], rfl, rfl⟩, hb,
          Or.inl rfl⟩
    refine ⟨⟨w, .daemon, w'⟩ :: h, w', hp.snoc hstep, ?_, by rw [List.length_cons, hn], hb', hs'⟩
    exact List.forall_mem_cons.2 ⟨⟨rfl, hg⟩, hdown⟩

/-- **The schedule of an outage.**  A bound device is `DISCONNECTED`, with an interval of `W`
seconds, `M` attempts and nothing counted yet, and no connect succeeds.  Then there is a run
of the daemon of every length, and in every run the iterations find `DISCONNECTED` and
`CONNECTING` as `outage` says, and after the last of the `M` attempts `DISCONNECTED` for
good.  An iteration that finds `CONNECTING` calls `cloud_do_connect` once, and no other one
calls it. -/
theorem outage_schedule (hW : 1 ≤ W) (hfit : 1000 * W * 2 ^ M ≤ 2147483647)
    (h0 : OutageStart W M w₀) :
    (∀ n, ∃ h w, Path Step w₀ h w ∧ (∀ m ∈ h, Down m) ∧ h.length = n) ∧
    ∀ h w, Path Step w₀ h w → (∀ m ∈ h, Down m) →
      found h <+: outage W M ++ List.replicate h.length .disconnected ∧
        ∀ m ∈ h, m.pre.connectCalls m.post =
          if m.pre.cloud.status = .connecting then 1 else 0 := by
  constructor
  · intro n
    obtain ⟨h, w, hp, hdown, hn, -⟩ := exists_outage h0.binded_eq (Or.inl h0.status_eq) n
    exact ⟨h, w, hp, hdown, hn⟩
  · intro h w hp hdown
    have hbase : 0 < (outagePlan W M).base := by show 0 < 1000 * W; omega
    have hpace : 0 < (outagePlan W M).pace := by show 0 < 500; omega
    obtain ⟨-, hfound, hcalls⟩ := outage_shows hW hfit h0 hp hdown
    refine ⟨?_, hcalls⟩
    rw [hfound, ← map_rounds]
    have houtage := (Backoff.Plan.log_prefix hbase hpace h.length).map
      fun due => if due then Status.connecting else .disconnected
    rwa [List.map_append, List.map_replicate] at houtage

end Schedule

/-- A bound device that has just lost its connection. -/
def lostWorld (P : CldProtocol) (W M : ℕ) : World P :=
  (onlineWorld P).modify fun c =>
    { c with status := .disconnected, retryWait := 1000 * W, retryMax := M }

/-- An outage to which the law applies: one second, and one attempt. -/
theorem outage_schedule_one : ∃ (h : List (Move (World sampleProtocol) Action))
    (w : World sampleProtocol), Path Step (lostWorld sampleProtocol 1 1) h w ∧
      found h = [.disconnected, .disconnected, .disconnected, .connecting, .disconnected,
        .disconnected] ∧
      ∀ m ∈ h, m.pre.connectCalls m.post =
        if m.pre.cloud.status = .connecting then 1 else 0 := by
  have h0 : OutageStart 1 1 (lostWorld sampleProtocol 1 1) := ⟨rfl, rfl, rfl, rfl, rfl, rfl⟩
  obtain ⟨hall, hschedule⟩ := outage_schedule le_rfl (by decide) h0
  obtain ⟨h, w, hp, hdown, hn⟩ := hall 6
  obtain ⟨hfound, hcalls⟩ := hschedule h w hp hdown
  refine ⟨h, w, hp, ?_, hcalls⟩
  have hlen : (found h).length = 6 := by
    unfold found
    rw [List.length_reverse, List.length_map, hn]
  have houtage := List.prefix_iff_eq_take.1 hfound
  rw [hlen, hn] at houtage
  rw [houtage]
  rfl

/-! ## The doubling along a run -/

/-- The interval after the step `m` is what it should be: the configured one, doubled with
each attempt counted.  So it is positive, and each attempt makes it longer. -/
structure WaitExact (f : Conf P) (m : Move (World P) Action) : Prop where
  exact_eq : m.post.cloud.retryWait = 1000 * f.retryWait * 2 ^ m.post.cloud.retries.toNat
  pos : 0 < m.post.cloud.retryWait
  grows : Retries m → m.pre.cloud.retryWait < m.post.cloud.retryWait

/-- If the step `m` counts an attempt, then the interval doubled once more fits an `int`. -/
def DoublingFits (f : Conf P) (m : Move (World P) Action) : Prop :=
  Retries m → 1000 * f.retryWait * 2 ^ (m.pre.cloud.retries.toNat + 1) ≤ 2147483647

section Doubling

variable {f : Conf P} {s : SysInfo P} {h h' : List (Move (World P) Action)} {w w' : World P}

theorem not_retries_of_refills {m : Move (World P) Action} (hf : Refills m) : ¬ Retries m := by
  rintro ⟨hl, hs, -⟩
  unfold Refills at hf
  rw [hl] at hf
  rcases hf with hf | ⟨hf, -⟩
  · cases hs.symm.trans hf
  · cases hs.symm.trans hf

/-- From an exact interval, a step leads to an exact one precisely if the doubling fits. -/
theorem BudgetMove.exact_iff {m : Move (World P) Action} (hm : BudgetMove m)
    (hc : Counted f h m.pre) (hc' : Counted f (m :: h) m.post) (hW : 1 ≤ f.retryWait)
    (hfit : 1000 * f.retryWait ≤ 2147483647)
    (hpre : m.pre.cloud.retryWait = 1000 * f.retryWait * 2 ^ m.pre.cloud.retries.toNat) :
    WaitExact f m ↔ DoublingFits f m := by
  have hpos : ∀ n : ℕ, 0 < 1000 * f.retryWait * 2 ^ n := fun n => by positivity
  cases hm with
  | same _ hr heq =>
    simp only [World.budget, Budget.mk.injEq] at heq
    obtain ⟨h₁, h₂, -, -⟩ := heq
    have hexact : m.post.cloud.retryWait = 1000 * f.retryWait * 2 ^ m.post.cloud.retries.toNat := by
      rw [h₁, h₂, hpre]
    exact iff_of_true ⟨hexact, hexact ▸ hpos _, fun h => absurd h hr⟩ fun h => absurd h hr
  | refilled hf heq =>
    have hr := not_retries_of_refills hf
    simp only [World.budget, Budget.mk.injEq] at heq
    obtain ⟨h₁, h₂, -, -⟩ := heq
    have hexact : m.post.cloud.retryWait = 1000 * f.retryWait * 2 ^ m.post.cloud.retries.toNat := by
      rw [h₁, h₂, hc.interval_eq, toInt32_eq (by omega) (by omega)]
      simp [mul_comm]
    exact iff_of_true ⟨hexact, hexact ▸ hpos _, fun h => absurd h hr⟩ fun h => absurd h hr
  | retried hf hr heq =>
    simp only [World.budget, Budget.mk.injEq] at heq
    obtain ⟨-, h₂, -, -⟩ := heq
    have hcount : m.post.cloud.retries.toNat = m.pre.cloud.retries.toNat + 1 := by
      have hcons : attempts (m :: h) = attempts h + 1 := by
        show (if Refills m then 0 else if Retries m then attempts h + 1 else attempts h) = _
        rw [if_neg hf, if_pos hr]
      rw [hc'.retries_eq, hc.retries_eq, hcons, Int.toNat_natCast, Int.toNat_natCast]
    have hdouble : m.pre.cloud.retryWait * 2 =
        1000 * f.retryWait * 2 ^ (m.pre.cloud.retries.toNat + 1) := by
      rw [hpre]
      ring
    rw [hdouble] at h₂
    have hp := hpos (m.pre.cloud.retries.toNat + 1)
    constructor
    · intro hexact _
      have heq := hexact.exact_eq
      rw [h₂, hcount] at heq
      have := (toInt32_eq_self_iff.1 heq).2
      omega
    · intro hc
      have hle := hc hr
      have hexact : m.post.cloud.retryWait =
          1000 * f.retryWait * 2 ^ m.post.cloud.retries.toNat := by
        rw [h₂, hcount, toInt32_eq (by omega) (by omega)]
      refine ⟨hexact, hexact ▸ hpos _, ?_⟩
      intro _
      have hp' := hpos m.pre.cloud.retries.toNat
      rw [hexact, hcount, ← hdouble]
      omega

/-- **When the backoff stays exact.**  In a run with a configured interval of at least one second
that fits an `int` in milliseconds, the interval is exact at the start, and it is exact after
every step if and only if no attempt is counted whose doubling does not fit. -/
theorem waitExact_iff (hr : Run f s h w) (hW : 1 ≤ f.retryWait)
    (hfit : 1000 * f.retryWait ≤ 2147483647) :
    (start f s).cloud.retryWait = 1000 * f.retryWait * 2 ^ (start f s).cloud.retries.toNat ∧
      ((∀ m ∈ h, WaitExact f m) ↔ ∀ m ∈ h, DoublingFits f m) := by
  have hstart : (start f s).cloud.retryWait =
      1000 * f.retryWait * 2 ^ (start f s).cloud.retries.toNat := by
    show toInt32 (f.retryWait * 1000) = 1000 * f.retryWait * 2 ^ 0
    rw [toInt32_eq (by omega) (by omega), pow_zero, mul_one, mul_comm]
  refine ⟨hstart, hr.forall_iff
    (fun w => w.cloud.retryWait = 1000 * f.retryWait * 2 ^ w.cloud.retries.toNat) hstart ?_⟩
  intro m hm hs hpre
  obtain ⟨-, h', -, hp⟩ := hr.mem_step hm
  have hiff := hs.moves.budgetMove.exact_iff (Run.counted hp)
    (Run.counted (hp.snoc hs)) hW hfit hpre
  exact ⟨hiff, fun hc => (hiff.2 hc).exact_eq⟩

/-- A configuration whose last permitted doubling fits never breaks the law. -/
theorem doublingFits_of_conf (hr : Run f s h w) (hW : 1 ≤ f.retryWait)
    (hM : f.retryMax < 2147483648) (hM0 : 0 ≤ f.retryMax)
    (hfit : 1000 * f.retryWait * 2 ^ f.retryMax.toNat ≤ 2147483647) :
    ∀ m ∈ h, DoublingFits f m := by
  intro m hm hret
  obtain ⟨-, h', -, hp⟩ := hr.mem_step hm
  have hc := Run.counted hp
  have hlt := hret.2.2.2.1
  rw [hc.retryMax_eq, toInt32_eq (by omega) hM] at hlt
  have h0 : 0 ≤ m.pre.cloud.retries := hc.retries_eq ▸ Int.natCast_nonneg _
  have hpow : (2 : ℤ) ^ (m.pre.cloud.retries.toNat + 1) ≤ 2 ^ f.retryMax.toNat :=
    pow_le_pow_right₀ (by norm_num) (by omega)
  exact (mul_le_mul_of_nonneg_left hpow (by omega)).trans hfit

/-! ## The shipped configuration -/

/-- A bound device waits for its attempt number `k + 1`, of at most twenty. -/
structure Waits (k : ℕ) (wait : ℤ) (w : World P) : Prop where
  status_eq : w.cloud.status = .disconnected
  binded_eq : w.cloud.binded = true
  retries_eq : w.cloud.retries = k
  retryWait_eq : w.cloud.retryWait = wait
  retryMax_eq : w.cloud.retryMax = 20
  waits_nonneg : 0 ≤ w.cloud.waits

/-- One more pace. -/
theorem Waits.paced {k : ℕ} {wait : ℤ} {w : World P} (hw : Waits k wait w)
    (hwait : wait < 2147483000) (hlt : w.cloud.waits < wait) :
    Waits k wait w.disconnect.paced ∧
      w.disconnect.paced.cloud.waits = w.cloud.waits + 500 := by
  have h0 := hw.waits_nonneg
  have hpace : toInt32 (w.cloud.waits + 500) = w.cloud.waits + 500 :=
    toInt32_eq (by omega) (by omega)
  have hcloud : w.disconnect.paced.cloud =
      { w.cloud with fd := -1, waits := w.cloud.waits + 500 } := by
    rw [World.cloud_paced, World.cloud_disconnect, hpace]
  refine ⟨?_, by rw [hcloud]⟩
  constructor
  all_goals rw [hcloud]
  · exact hw.status_eq
  · exact hw.binded_eq
  · exact hw.retries_eq
  · exact hw.retryWait_eq
  · exact hw.retryMax_eq
  · show 0 ≤ w.cloud.waits + 500
    omega

/-- When it has waited long enough, it counts the attempt; and no connect need succeed. -/
theorem Waits.exists_next {k : ℕ} {wait : ℤ} {h : List (Move (World P) Action)} {w : World P}
    (hw : Waits k wait w) (hk : k < 20) (hwait : wait < 2147483000) (hr : Run f s h w) :
    ∃ h' w', Run f s h' w' ∧ Waits (k + 1) (toInt32 (wait * 2)) w' := by
  have hgo : w.cloud.binded = true ∧ w.cloud.retries < w.cloud.retryMax := by
    refine ⟨hw.binded_eq, ?_⟩
    rw [hw.retries_eq, hw.retryMax_eq]
    exact_mod_cast hk
  have htick := hr.snoc (show Step w .daemon w.ticked from
    (runs_cloudDaemon_disconnected hw.status_eq).2 rfl)
  by_cases hle : wait ≤ w.cloud.waits
  · -- the attempt is counted, and `socket` fails
    have heq : w.ticked = w.disconnect.retried.paced := by
      unfold World.ticked
      rw [if_pos hgo, hw.retryWait_eq, if_pos hle]
    rw [heq] at htick
    have hconnect := htick.snoc (show Step w.disconnect.retried.paced .daemon _ from
      runs_cloudDaemon_socketless rfl)
    refine ⟨_, _, hconnect, rfl, ?_, ?_, ?_, ?_, ?_⟩
    · show w.disconnect.cloud.binded = true
      rw [World.cloud_disconnect, hw.binded_eq]
    · show toInt32 (w.disconnect.cloud.retries + 1) = _
      rw [World.cloud_disconnect, hw.retries_eq, toInt32_eq (by omega) (by omega)]
      push_cast
      rfl
    · show toInt32 (w.disconnect.cloud.retryWait * 2) = _
      rw [World.cloud_disconnect, hw.retryWait_eq]
    · show w.disconnect.cloud.retryMax = 20
      rw [World.cloud_disconnect, hw.retryMax_eq]
    · show 0 ≤ toInt32 (0 + 500)
      decide
  · have heq : w.ticked = w.disconnect.paced := by
      unfold World.ticked
      rw [if_pos hgo, hw.retryWait_eq, if_neg hle]
    rw [heq] at htick
    obtain ⟨hnext, hless⟩ := hw.paced hwait (not_le.1 hle)
    exact hnext.exists_next hk hwait htick
termination_by (wait - w.cloud.waits).toNat
decreasing_by
  rw [hless]
  omega

end Doubling

/-- The shipped configuration, for a bound device. -/
def shippedConf : Conf sampleProtocol := ⟨.snprintf (CStr.lit "u"), .snprintf (CStr.lit "p"), 3, 20⟩

/-- Nineteen attempts are counted without an overflow. -/
theorem exists_waits (k : ℕ) (hk : k < 20) :
    ∃ h w, Run shippedConf sampleInfo h w ∧ Waits k (3000 * 2 ^ k) w := by
  induction k with
  | zero =>
    obtain ⟨h, w, hr, h₁, h₂, h₃, h₄, h₅, h₆⟩ := exists_run shippedConf sampleInfo
      [(.daemon, []), (.daemon, [.int (-1)])]
      (fun r => r.2.cloud.status = .disconnected ∧ r.2.cloud.binded = true ∧
        r.2.cloud.retries = 0 ∧ r.2.cloud.retryWait = 3000 ∧ r.2.cloud.retryMax = 20 ∧
        0 ≤ r.2.cloud.waits) (by decide +kernel)
    exact ⟨h, w, hr, h₁, h₂, h₃, h₄, h₅, h₆⟩
  | succ k ih =>
    obtain ⟨h, w, hr, hw⟩ := ih (by omega)
    have hpow : (2 : ℤ) ^ k ≤ 2 ^ 18 := pow_le_pow_right₀ (by norm_num) (by omega)
    have h0 : (0 : ℤ) < 2 ^ k := by positivity
    have hnext := hw.exists_next (by omega) (by omega) hr
    rwa [toInt32_eq (by omega) (by omega),
      show (3000 * 2 ^ k * 2 : ℤ) = 3000 * 2 ^ (k + 1) by ring] at hnext

/-- A run to which the law applies: the first attempt after a failed connect. -/
theorem waitExact_first_attempt : ∃ m : Move (World sampleProtocol) Action,
    Retries m ∧ WaitExact (sampleConf (CStr.lit "u") (CStr.lit "p")) m := by
  obtain ⟨h, w, hr, m, hmem, hm, hfits⟩ :=
    exists_run (sampleConf (CStr.lit "u") (CStr.lit "p")) sampleInfo
      [(.daemon, []), (.daemon, [.int (-1)]), (.daemon, []), (.daemon, []), (.daemon, [])]
      (fun r => ∃ m ∈ r.1.head?, Retries m ∧ ∀ m' ∈ r.1,
        (1000 : ℤ) * 1 * 2 ^ (m'.pre.cloud.retries.toNat + 1) ≤ 2147483647) (by decide +kernel)
  exact ⟨m, hm, (waitExact_iff hr (by decide) (by decide)).2.2 (fun m' hm' _ => hfits m' hm') m
    (List.mem_of_mem_head? hmem)⟩

/-- The twentieth attempt of the shipped configuration: three seconds, doubled twenty times,
do not fit an `int`. -/
theorem shipped_backoff_overflows : ¬ ∀ (f : Conf sampleProtocol) (s : SysInfo sampleProtocol)
    (h : List (Move (World sampleProtocol) Action)) (w : World sampleProtocol),
    1 ≤ f.retryWait → 0 ≤ f.retryMax → 1000 * f.retryWait ≤ 2147483647 → Run f s h w →
    w.cloud.retryWait = 1000 * f.retryWait * 2 ^ w.cloud.retries.toNat := by
  intro hall
  obtain ⟨h, w, hr, hw⟩ := exists_waits 19 (by omega)
  obtain ⟨h', w', hr', hw'⟩ := hw.exists_next (by omega) (by norm_num) hr
  have hexact := hall _ _ h' w' (by decide) (by decide) (by decide) hr'
  rw [hw'.retryWait_eq, hw'.retries_eq] at hexact
  revert hexact
  decide

end SwCloud
