import Lpt.Cloud.Run

/-!
# The retry budget

While the daemon is `DISCONNECTED` it counts its attempts to reconnect in
`cloud.retries` and doubles `cloud.retry_wait` with each of them.  The counters are set
back by `cloud_clear_counter`, which `swCloudPing`, the case `RESTART` and the
connection of an unbound device call; the connection of a bound device does not.  So
the budget of an outage is what the attempts since the last of these events have left,
and it is full exactly if there were none.  `attempts` counts them along a run.
-/

namespace SwCloud

open CLib Effect Trans

variable {P : CldProtocol}

/-- The step `m` sets the counters back. -/
def Refills (m : Move (World P) Action) : Prop :=
  match m.label with
  | .ping => m.pre.cloud.status ≠ .connecting ∧ m.pre.cloud.status ≠ .connected
  | .daemon => m.pre.cloud.status = .restart ∨
      (m.pre.cloud.status = .connecting ∧ m.pre.cloud.binded = false ∧
        m.pre.greeted m.post = true)
  | _ => False

instance (m : Move (World P) Action) : Decidable (Refills m) := by
  unfold Refills
  split <;> infer_instance

/-- The step `m` counts an attempt to reconnect. -/
def Retries (m : Move (World P) Action) : Prop :=
  m.label = .daemon ∧ m.pre.cloud.status = .disconnected ∧ m.pre.cloud.binded = true ∧
    m.pre.cloud.retries < m.pre.cloud.retryMax ∧ m.pre.cloud.retryWait ≤ m.pre.cloud.waits

instance (m : Move (World P) Action) : Decidable (Retries m) := inferInstanceAs (Decidable (_ ∧ _))

/-- The number of attempts counted since the counters were last set back. -/
def attempts (h : List (Move (World P) Action)) : ℕ :=
  monitor (fun n m => if Refills m then 0 else if Retries m then n + 1 else n) 0 h

/-- The daemon loses the connection of a bound device. -/
def Outage (m : Move (World P) Action) : Prop :=
  m.label = .daemon ∧ m.pre.cloud.status = .connected ∧ m.post.cloud.status = .disconnected ∧
    m.post.cloud.binded = true

instance (m : Move (World P) Action) : Decidable (Outage m) := inferInstanceAs (Decidable (_ ∧ _))

/-- The counters are as `cloud_init` has set them with the configuration `f`. -/
def BudgetFull (f : Conf P) (w : World P) : Prop :=
  w.cloud.retries = 0 ∧ w.cloud.retryWait = 1000 * f.retryWait

instance (f : Conf P) (w : World P) : Decidable (BudgetFull f w) :=
  inferInstanceAs (Decidable (_ ∧ _))

/-! ## Steps -/

/-- The counters, their limit, and the interval they are set back to. -/
structure Budget where
  retries : ℤ
  retryWait : ℤ
  retryMax : ℤ
  interval : ℤ

/-- The counters of a world. -/
def World.budget (w : World P) : Budget :=
  ⟨w.cloud.retries, w.cloud.retryWait, w.cloud.retryMax, w.conf.retryWait⟩

/-- What a step does to the counters. -/
inductive BudgetMove (m : Move (World P) Action) : Prop
  | same : ¬ Refills m → ¬ Retries m → m.post.budget = m.pre.budget → BudgetMove m
  | refilled : Refills m → m.post.budget = { m.pre.budget with
      retries := 0, retryWait := toInt32 (m.pre.conf.retryWait * 1000) } → BudgetMove m
  | retried : ¬ Refills m → Retries m → m.post.budget = { m.pre.budget with
      retries := toInt32 (m.pre.cloud.retries + 1),
      retryWait := toInt32 (m.pre.cloud.retryWait * 2) } → BudgetMove m

section Steps

variable {w w' : World P} {r : CommonStatus}

theorem Connects.budget (h : Connects w r w') : w'.budget = w.budget := by
  rw [World.budget, h.effect.cloud_eq, h.effect.conf_eq, World.budget]

theorem Requests.budget {cmd : ℕ} {t : CStr} (h : Requests cmd t w r w') :
    w'.budget = w.budget := by
  rw [World.budget, h.cloud_eq, h.conf_eq, World.budget]

theorem Auths.budget (h : Auths w r w') : w'.budget = w.budget := Requests.budget h

theorem Updates.budget (h : Updates w r w') : w'.budget = w.budget := by
  rw [World.budget, h.cloud_eq, h.conf_eq, World.budget]

theorem World.disconnect_budget (w : World P) : w.disconnect.budget = w.budget := by
  rw [World.budget, World.cloud_disconnect, World.conf_disconnect, World.budget]

theorem World.setStatus_disconnect_budget (w : World P) (s : Status) :
    (w.setStatus s).disconnect.budget = w.budget :=
  World.disconnect_budget (w.setStatus s)

theorem Control.budget {r : ℤ} (h : Control w r w') : w'.budget = w.budget := by
  obtain ⟨es, qs, he⟩ := h.effect
  cases he.unbinds with
  | no hc hf _ => rw [World.budget, hc, hf, World.budget]
  | yes hc hf _ => rw [World.budget, hc, hf, World.budget]

theorem Polls.budget (h : Polls w w') : w'.budget = w.budget := by
  cases h with
  | quiet => rfl
  | served _ hc => exact hc.budget
  | @failed w₁ _ _ _ hc => exact w₁.disconnect_budget.trans hc.budget

theorem DaemonStep.budgetMove (hd : DaemonStep w w') : BudgetMove ⟨w, .daemon, w'⟩ := by
  -- the other cases are ruled out by the status
  have hsame : ∀ {s : Status}, w.cloud.status = s → s ≠ .restart → s ≠ .disconnected →
      (s = .connecting → w.cloud.binded = true ∨ w.greeted w' = false) →
      w'.budget = w.budget → BudgetMove ⟨w, .daemon, w'⟩ := by
    rintro s rfl h₁ h₂ h₃ hb
    refine .same ?_ (fun hn => h₂ hn.2.1) hb
    rintro (hn | ⟨hc, hu, hg⟩)
    · exact h₁ hn
    · rcases h₃ hc with h | h
      · cases hu.symm.trans h
      · cases hg.symm.trans h
  have hdis : w.cloud.status = .disconnected → ¬ Refills ⟨w, .daemon, w'⟩ := by
    rintro hs (hn | ⟨hn, -⟩)
    · cases hs.symm.trans hn
    · cases hs.symm.trans hn
  cases hd with
  | initIdle hs _ hp => exact hsame hs nofun nofun nofun hp.budget
  | initBound hs _ => exact hsame hs nofun nofun nofun rfl
  | connectFailed hs hc hr =>
    refine hsame hs nofun nofun (fun _ => Or.inr ?_) hc.budget
    have hg := hc.greets
    rw [decide_eq_false hr] at hg
    exact Greets.greeted hg
  | @connectUnbound w₁ hs hb hc =>
    refine .refilled (Or.inr ⟨hs, hb, Greets.greeted hc.greets⟩) ?_
    have hb₁ := hc.budget
    rw [World.budget, Budget.mk.injEq] at hb₁
    obtain ⟨-, -, hm, hi⟩ := hb₁
    change Budget.mk 0 (toInt32 (w₁.conf.retryWait * 1000)) w₁.cloud.retryMax w₁.conf.retryWait = _
    rw [hm, hi]
    rfl
  | authFailed hs hb hc ha _ =>
    exact hsame hs nofun nofun (fun _ => Or.inl hb) (ha.budget.trans hc.budget)
  | updateFailed hs hb hc ha hu _ =>
    exact hsame hs nofun nofun (fun _ => Or.inl hb) (hu.budget.trans (ha.budget.trans hc.budget))
  | connected hs hb hc ha hu =>
    exact hsame hs nofun nofun (fun _ => Or.inl hb) (hu.budget.trans (ha.budget.trans hc.budget))
  | dropUnbound hs _ => exact hsame hs nofun nofun nofun rfl
  | upToDate hs _ _ hp => exact hsame hs nofun nofun nofun hp.budget
  | refreshFailed hs _ _ _ hu _ => exact hsame hs nofun nofun nofun hu.budget
  | refreshed hs _ _ _ hu hp => exact hsame hs nofun nofun nofun (hp.budget.trans hu.budget)
  | gaveUp hs hn => exact .same (hdis hs) (fun h => hn ⟨h.2.2.1, h.2.2.2.1⟩) w.disconnect_budget
  | waiting hs _ _ hw =>
    exact .same (hdis hs) (fun h => absurd h.2.2.2.2 (not_le.2 hw)) w.disconnect_budget
  | retry hs hb hlt hw =>
    refine .retried (hdis hs) ⟨rfl, hs, hb, hlt, hw⟩ ?_
    rw [World.budget, World.cloud_paced, World.cloud_retried, World.cloud_disconnect,
      World.conf_paced, World.conf_retried, World.conf_disconnect]
    rfl
  | broken hs => exact hsame hs nofun nofun nofun w.disconnect_budget
  | restart hs =>
    refine .refilled (Or.inl hs) ?_
    rw [World.budget, World.cloud_setStatus, World.cloud_clearCounter, World.cloud_unreachable,
      World.cloud_disconnect, World.conf_setStatus, World.conf_clearCounter,
      World.conf_unreachable, World.conf_disconnect]
    rfl

theorem RegUsrStep.budget {account username password : CStr}
    (h : RegUsrStep account username password w r w') : w'.budget = w.budget := by
  cases h with
  | noConnection _ hc _ => exact hc.budget
  | offline _ hc hq =>
    obtain ⟨code, hq⟩ := hq
    exact hq.budget.trans hc.budget
  | online _ _ hq =>
    obtain ⟨code, hq⟩ := hq
    exact hq.budget
  | dropped _ _ hq =>
    obtain ⟨code, hq⟩ := hq
    exact (World.disconnect_budget _).trans hq.budget

theorem BindStep.budget {user password devicename : CStr}
    (h : BindStep user password devicename w r w') : w'.budget = w.budget := by
  have hcon : ∀ {r : CommonStatus} {w₁ : World P}, Connects w.disconnect r w₁ →
      w₁.budget = w.budget := fun hc => hc.budget.trans w.disconnect_budget
  have hauth : ∀ {r : CommonStatus} {w₁ w₂ : World P}, Connects w.disconnect .succeed w₁ →
      Auths (w₁.credited user password devicename) r w₂ → w₂.budget = w.budget := by
    intro r w₁ w₂ hc ha
    have h₁ := hcon hc
    exact ha.budget.trans h₁
  cases h with
  | refused _ _ => rfl
  | noConnection _ hc _ => exact (World.disconnect_budget _).trans (hcon hc)
  | authFailed _ hc ha _ => exact (World.disconnect_budget _).trans (hauth hc ha)
  | bindFailed _ hc ha hb _ =>
    obtain ⟨code, hb⟩ := hb
    exact (World.disconnect_budget _).trans (hb.budget.trans (hauth hc ha))
  | bound _ hc ha hb hu =>
    obtain ⟨code, hb⟩ := hb
    exact hu.budget.trans (hb.budget.trans (hauth hc ha))

theorem UBindOnline.budget (h : UBindOnline w r w') : w'.budget = w.budget := by
  cases h with
  | @acknowledged w₁ hu =>
    have hq : w₁.budget = w.budget := Requests.budget hu
    exact (World.disconnect_budget (w₁.unbound .init)).trans hq
  | @failed _ w₁ hu _ => exact (w₁.setStatus_disconnect_budget _).trans (Requests.budget hu)

theorem UBindStep.budget (h : UBindStep w r w') : w'.budget = w.budget := by
  cases h with
  | notBound _ => rfl
  | @noConnection _ w₁ _ _ hc _ => exact (w₁.setStatus_disconnect_budget _).trans hc.budget
  | @authFailed _ _ w₂ _ _ hc ha _ =>
    exact (w₂.setStatus_disconnect_budget _).trans (ha.budget.trans hc.budget)
  | offline _ _ hc ha ho => exact ho.budget.trans (ha.budget.trans hc.budget)
  | online _ _ ho => exact ho.budget

/-- **What a step does to the counters.** -/
theorem Moves.budgetMove {a : Action} (hm : Moves w a w') : BudgetMove ⟨w, a, w'⟩ := by
  have hret : a ≠ .daemon → ¬ Retries ⟨w, a, w'⟩ := fun ha hn => ha hn.1
  cases hm with
  | daemon hd => exact hd.budgetMove
  | @notice _ f ha _ =>
    cases a with
    | sysnameChange _ => exact .same nofun (hret nofun) rfl
    | passwordChange _ => exact .same nofun (hret nofun) rfl
    | upnpChange _ => exact .same nofun (hret nofun) rfl
    | _ => cases ha
  | restart _ => exact .same nofun (hret nofun) rfl
  | ignored ha _ =>
    cases a with
    | daemon | ping => cases ha
    | _ => exact .same nofun (hret nofun) rfl
  | regUsr hr => exact .same nofun (hret nofun) hr.budget
  | bind hb => exact .same nofun (hret nofun) hb.budget
  | ubind hu => exact .same nofun (hret nofun) hu.budget
  | ping =>
    by_cases hs : w.cloud.status = .connecting ∨ w.cloud.status = .connected
    · refine .same (fun hn => hs.elim hn.1 hn.2) (hret nofun) ?_
      rw [World.pinged, if_pos hs]
    · refine .refilled (not_or.1 hs) ?_
      rw [World.pinged, if_neg hs]
      rfl

end Steps

/-! ## Runs -/

section Runs

variable {f : Conf P} {s : SysInfo P} {h : List (Move (World P) Action)} {w : World P}

/-- The counters after the steps `h` of a run with the configuration `f`. -/
structure Counted (f : Conf P) (h : List (Move (World P) Action)) (w : World P) : Prop where
  retries_eq : w.cloud.retries = attempts h
  retryMax_eq : w.cloud.retryMax = toInt32 f.retryMax
  interval_eq : w.conf.retryWait = f.retryWait
  retryWait_eq : attempts h = 0 → w.cloud.retryWait = toInt32 (f.retryWait * 1000)

/-- A step keeps the count. -/
theorem BudgetMove.counted {m : Move (World P) Action} (hm : BudgetMove m)
    (hc : Counted f h m.pre) : Counted f (m :: h) m.post := by
  have hcons : attempts (m :: h) =
      if Refills m then 0 else if Retries m then attempts h + 1 else attempts h := rfl
  cases hm with
  | same hf hr heq =>
    rw [if_neg hf, if_neg hr] at hcons
    simp only [World.budget, Budget.mk.injEq] at heq
    obtain ⟨h₁, h₂, h₃, h₄⟩ := heq
    exact ⟨by rw [h₁, hcons, hc.retries_eq], h₃.trans hc.retryMax_eq, h₄.trans hc.interval_eq,
      fun h0 => h₂.trans (hc.retryWait_eq (hcons ▸ h0))⟩
  | refilled hf heq =>
    rw [if_pos hf] at hcons
    simp only [World.budget, Budget.mk.injEq] at heq
    obtain ⟨h₁, h₂, h₃, h₄⟩ := heq
    refine ⟨by rw [h₁, hcons]; rfl, h₃.trans hc.retryMax_eq, h₄.trans hc.interval_eq, ?_⟩
    intro _
    rw [h₂, hc.interval_eq]
  | retried hf hr heq =>
    rw [if_neg hf, if_pos hr] at hcons
    simp only [World.budget, Budget.mk.injEq] at heq
    obtain ⟨h₁, h₂, h₃, h₄⟩ := heq
    -- the limit keeps the count in the range of an `int`
    have hlt : (attempts h : ℤ) < 2147483647 := by
      have hmax := (toInt32_range f.retryMax).2
      rw [← hc.retryMax_eq] at hmax
      have := hr.2.2.2.1
      rw [hc.retries_eq] at this
      omega
    refine ⟨?_, h₃.trans hc.retryMax_eq, h₄.trans hc.interval_eq, fun h0 => ?_⟩
    · rw [h₁, hc.retries_eq, hcons, toInt32_eq (by omega) (by omega)]
      push_cast
      rfl
    · rw [hcons] at h0
      omega

/-- The counters along a run. -/
theorem Run.counted (hr : Run f s h w) : Counted f h w := by
  induction hr with
  | start => exact ⟨rfl, rfl, rfl, fun _ => rfl⟩
  | snoc _ hs ih => exact hs.moves.budgetMove.counted ih

/-- The loss of a connection leaves the counters alone. -/
theorem Outage.budget {m : Move (World P) Action} (ho : Outage m) (hm : BudgetMove m) :
    m.post.budget = m.pre.budget := by
  obtain ⟨hl, hs, -, -⟩ := ho
  cases hm with
  | same _ _ heq => exact heq
  | refilled hf _ =>
    rw [Refills, hl] at hf
    rcases hf with hf | ⟨hf, -⟩
    · cases hs.symm.trans hf
    · cases hs.symm.trans hf
  | retried _ hr _ => cases hs.symm.trans hr.2.1

/-- **What an outage starts with.**  When the daemon loses the connection of a bound
device, the budget is full if and only if no attempt has been counted since the counters
were last set back, whatever connections have succeeded in the meantime.  (The interval
in milliseconds has to fit into an `int`.) -/
theorem budgetFull_iff (hr : Run f s h w) {m : Move (World P) Action}
    {later earlier : List (Move (World P) Action)} (hh : h = later ++ m :: earlier)
    (hm : Outage m) : BudgetFull f m.post ↔ attempts earlier = 0 ∧
      -2147483648 ≤ f.retryWait * 1000 ∧ f.retryWait * 1000 < 2147483648 := by
  subst hh
  obtain ⟨hp, hs⟩ := hr.split
  have hc := Run.counted hp
  have hb := hm.budget hs.moves.budgetMove
  simp only [World.budget, Budget.mk.injEq] at hb
  rw [BudgetFull, hb.1, hb.2.1, hc.retries_eq, ← toInt32_eq_self_iff, mul_comm 1000]
  constructor
  · rintro ⟨h₁, h₂⟩
    have h0 : attempts earlier = 0 := by exact_mod_cast h₁
    exact ⟨h0, by rw [← hc.retryWait_eq h0, h₂]⟩
  · rintro ⟨h0, h₂⟩
    exact ⟨by rw [h0]; rfl, by rw [hc.retryWait_eq h0, h₂]⟩

end Runs

/-- The inputs of an iteration of the daemon that finds the connection closed. -/
def lostInputs : List Input :=
  [.select .ready, .bytes (List.replicate 64 0), .select .ready, .reads [] [.err]]

/-- A run to which the law applies: the first outage. -/
theorem budgetFull_first_outage : ∃ m : Move (World sampleProtocol) Action,
    Outage m ∧ BudgetFull (sampleConf (CStr.lit "u") (CStr.lit "p")) m.post := by
  obtain ⟨h, w, hr, m, hmem, hm, hq⟩ :=
    exists_run (sampleConf (CStr.lit "u") (CStr.lit "p")) sampleInfo
      [(.daemon, []), (.daemon, connectedInputs 3), (.daemon, lostInputs)]
      (fun r => ∃ m ∈ r.1.head?, Outage m ∧ attempts r.1.tail = 0) (by decide +kernel)
  obtain ⟨earlier, rfl⟩ := List.head?_eq_some_iff.1 hmem
  exact ⟨m, hm, (budgetFull_iff hr (List.nil_append _).symm hm).2 ⟨hq, by decide, by decide⟩⟩

/-- One failed connect, one retry, a connection and its loss: the outage starts with one
attempt already counted. -/
theorem budget_spent_before_outage :
    ¬ ∀ (f : Conf sampleProtocol) (s : SysInfo sampleProtocol)
      (h : List (Move (World sampleProtocol) Action)) (w : World sampleProtocol),
      Run f s h w → ∀ m ∈ h, Outage m → BudgetFull f m.post := by
  intro hall
  obtain ⟨h, w, hr, m, hmem, hm, hq⟩ :=
    exists_run (sampleConf (CStr.lit "u") (CStr.lit "p")) sampleInfo
      [(.daemon, []), (.daemon, [.int (-1)]), (.daemon, []), (.daemon, []), (.daemon, []),
        (.daemon, connectedInputs 3), (.daemon, lostInputs)]
      (fun r => ∃ m ∈ r.1.head?, Outage m ∧ m.post.cloud.retries = 1 ∧
        ¬ BudgetFull (sampleConf (CStr.lit "u") (CStr.lit "p")) m.post) (by decide +kernel)
  exact hq.2 (hall _ _ h w hr m (List.mem_of_mem_head? hmem) hm)

end SwCloud
