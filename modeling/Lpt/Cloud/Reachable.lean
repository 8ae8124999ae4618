import Lpt.Cloud.Run
import Lpt.Cloud.Trace

/-!
# What `cloud.reachable` says about the connection

The flag is set when a connect succeeds and cleared when one fails, when an `UPDEV` is lost
and when the network changes.  It is not cleared when an `AUTH` is lost or when
`network_device_control` fails, so `swCloudPing` can report a connection that is gone.

* `NetworkEvent` — the successful connects and the failures, read off the record.
* `World.failures` — the failures since the last successful connect.
* `Noted` — the network events of a part of a step, and what they do to the flag.
* `reachable_truth_iff` — the runs in which the flag tells the truth.
-/

namespace SwCloud

open CLib Effect Trans

variable {P : CldProtocol}

/-! ## Network events -/

/-- What an operation shows about the connection. -/
inductive NetworkEvent where
  /-- `cloud_do_connect` has succeeded. -/
  | connected
  /-- `cloud_do_connect` has failed. -/
  | connectFailed
  /-- `AUTH` has returned `ERRNO_CLOUD_NETWORK`. -/
  | authLost
  /-- `UPDEV` has returned `ERRNO_CLOUD_NETWORK`. -/
  | updateLost
  /-- `network_device_control` has returned `-1`. -/
  | controlLost
  deriving DecidableEq

/-- The failure that the loss of a packet of the command `cmd` is. -/
def lost (P : CldProtocol) (cmd : ℕ) : Option NetworkEvent :=
  if cmd = P.cldcmdAuth then some .authLost
  else if cmd = P.cldcmdUpdev then some .updateLost
  else if cmd = P.cldcmdDevctl then some .controlLost
  else none

/-- What an event shows about the connection. -/
def Event.network (P : CldProtocol) : Event → Option NetworkEvent
  | .socket fd => if fd = -1 then some .connectFailed else none
  | .connect _ ret => if ret ≠ 0 then some .connectFailed else none
  | .greeting _ n => some (if 0 < n then .connected else .connectFailed)
  | .tooLarge cmd => lost P cmd
  | .wrote _ hdr _ ret => if ret ≠ 0 then lost P hdr.cmd else none
  | .received (.reply hdr _) _ ret _ => if ret < 0 then lost P hdr.cmd else none
  | .received .control _ ret _ => if ret < 0 then some .controlLost else none
  | .close _ => none

/-- The network events of a record, newest first. -/
def networkEvents (P : CldProtocol) (es : List Event) : List NetworkEvent :=
  es.filterMap (Event.network P)

/-- The failures since the last successful connect, newest first. -/
def World.failures (w : World P) : List NetworkEvent :=
  (networkEvents P w.trace).takeWhile fun e => e ≠ .connected

/-- **The flag tells the truth**: after a failure it is `CLOUD_REACHABLE_NO` until a connect
succeeds, and `swCloudPing` answers `CLOUD_REACHABLE_YES` only if nothing has failed since. -/
structure TellsTruth (w : World P) : Prop where
  flag : w.failures ≠ [] → w.cloud.reachable = .no
  ping : ∀ {w' : World P} {r : Reachable}, Runs swCloudPing w r w' → r = .yes → w.failures = []

/-- The code sees every failure of the step: it loses no `AUTH`, and `network_device_control`
fails only where the flag says so already. -/
structure NetworkSeen (m : Move (World P) Action) : Prop where
  auth : .authLost ∉ networkEvents P (m.pre.since m.post)
  control : .controlLost ∈ networkEvents P (m.pre.since m.post) → m.pre.cloud.reachable = .no

/-! ## The parts of a step -/

/-- What a network event does to the flag. -/
def NetworkEvent.flag : NetworkEvent → Reachable → Reachable
  | .connected, _ => .yes
  | .connectFailed, _ => .no
  | .updateLost, _ => .no
  | .authLost, r => r
  | .controlLost, r => r

/-- On the way from `w` to `w'` the network events were `l`, and the flag has followed them. -/
structure Noted (w w' : World P) (l : List NetworkEvent) : Prop where
  events : ∃ es, w'.trace = es ++ w.trace ∧ networkEvents P es = l
  flag : w'.cloud.reachable = l.foldr NetworkEvent.flag w.cloud.reachable

section Parts

variable {w w' w₁ : World P} {l l' : List NetworkEvent} {r : CommonStatus}

theorem Noted.of_eq (h : w'.trace = w.trace) (hr : w'.cloud.reachable = w.cloud.reachable) :
    Noted w w' [] :=
  ⟨⟨[], h, rfl⟩, hr⟩

theorem Noted.trans (h : Noted w w₁ l) (h' : Noted w₁ w' l') : Noted w w' (l' ++ l) := by
  obtain ⟨es, htr, hes⟩ := h.events
  obtain ⟨es', htr', hes'⟩ := h'.events
  refine ⟨⟨es' ++ es, by rw [htr', htr, List.append_assoc], ?_⟩, ?_⟩
  · unfold networkEvents at *
    rw [List.filterMap_append, hes, hes']
  · rw [h'.flag, h.flag, List.foldr_append]

/-- A change of other things than the record and the flag. -/
theorem Noted.then_eq (h : Noted w w₁ l) (htr : w'.trace = w₁.trace)
    (hr : w'.cloud.reachable = w₁.cloud.reachable) : Noted w w' l :=
  h.trans (.of_eq htr hr)

theorem World.disconnect_noted (w : World P) : Noted w w.disconnect [] := by
  refine ⟨?_, by rw [World.cloud_disconnect]; rfl⟩
  rw [World.disconnect]
  split
  · exact ⟨[], rfl, rfl⟩
  · exact ⟨[_], rfl, rfl⟩

/-- Nor does a disconnect, or a change of the status, say anything about the connection. -/
theorem Noted.disconnect (h : Noted w w₁ l) : Noted w w₁.disconnect l :=
  h.trans w₁.disconnect_noted

theorem Noted.setStatus (h : Noted w w₁ l) (s : Status) : Noted w (w₁.setStatus s) l :=
  h.then_eq (World.trace_setStatus w₁ s) rfl

/-- **What a connect shows**, and the flag with it. -/
theorem Connects.noted (h : Connects w r w') :
    Noted w w' [if r = .succeed then .connected else .connectFailed] := by
  cases h with
  | noSocket => exact ⟨⟨[_], rfl, rfl⟩, rfl⟩
  | @refused fd ret h0 _ hret =>
    have hne : fd ≠ -1 := by omega
    refine ⟨⟨[_, _], rfl, ?_⟩, rfl⟩
    simp [networkEvents, Event.network, hret, hne]
  | @noGreeting fd n h0 _ hn =>
    have hne : fd ≠ -1 := by omega
    refine ⟨⟨[_, _, _], rfl, ?_⟩, rfl⟩
    simp [networkEvents, Event.network, hn, hne]
  | @connected fd n h0 _ hn =>
    have hne : fd ≠ -1 := by omega
    refine ⟨⟨[_, _, _], rfl, ?_⟩, rfl⟩
    simp [networkEvents, Event.network, hn, hne]

/-- What a request shows: its loss. -/
theorem Requests.network {cmd : ℕ} {t : CStr} (h : Requests cmd t w r w') :
    ∃ es, w'.trace = es ++ w.trace ∧
      networkEvents P es = if r = .cloudNetwork then (lost P cmd).toList else [] := by
  obtain ⟨rep, hx, hrep⟩ := h
  have hsingle : ∀ {e : Event} {x : Option NetworkEvent}, Event.network P e = x →
      networkEvents P [e] = x.toList := by
    rintro e x rfl
    unfold networkEvents
    cases h : Event.network P e with
    | none => rw [List.filterMap_cons_none h]; rfl
    | some y => rw [List.filterMap_cons_some h]; rfl
  cases hx with
  | tooLarge _ =>
    cases hrep
    exact ⟨[_], rfl, hsingle rfl⟩
  | writeFailed hc hret =>
    cases hrep
    refine ⟨[_], rfl, hsingle ?_⟩
    rw [Event.network, if_pos hret, hc.cmd_eq]
  | @noReply hdr payload mem ret hc hret =>
    cases hrep
    refine ⟨[_, _], rfl, ?_⟩
    have hwrote : Event.network P (.wrote w.cloud.fd hdr payload 0) = none := by
      simp [Event.network]
    have hrecv : Event.network P (.received (.reply hdr payload) w.cloud.fd ret mem) =
        lost P cmd := by
      rw [Event.network, if_pos hret, hc.cmd_eq]
    unfold networkEvents
    rw [List.filterMap_cons, hrecv, List.filterMap_cons_none hwrote]
    cases lost P cmd <;> rfl
  | @answered hdr payload mem ret hc hret hfd =>
    refine ⟨[_, _], rfl, ?_⟩
    rw [if_neg hrep.1]
    have hwrote : Event.network P (.wrote w.cloud.fd hdr payload 0) = none := by
      simp [Event.network]
    have hrecv : Event.network P (.received (.reply hdr payload) w.cloud.fd ret mem) = none :=
      if_neg (not_lt.2 hret)
    unfold networkEvents
    rw [List.filterMap_cons_none hrecv, List.filterMap_cons_none hwrote]
    rfl

theorem lost_auth (P : CldProtocol) : lost P P.cldcmdAuth = some .authLost := if_pos rfl

theorem lost_updev (P : CldProtocol) : lost P P.cldcmdUpdev = some .updateLost := by
  have := P.cmds_ne
  unfold lost
  rw [if_neg (by omega), if_pos rfl]

theorem lost_devctl (P : CldProtocol) : lost P P.cldcmdDevctl = some .controlLost := by
  have := P.cmds_ne
  unfold lost
  rw [if_neg (by omega), if_neg (by omega), if_pos rfl]

/-- The loss of any other packet is not counted. -/
theorem lost_other {cmd : ℕ} (ha : cmd ≠ P.cldcmdAuth) (hu : cmd ≠ P.cldcmdUpdev)
    (hd : cmd ≠ P.cldcmdDevctl) : lost P cmd = none := by
  unfold lost
  rw [if_neg ha, if_neg hu, if_neg hd]

/-- The flag is not touched when an `AUTH` is lost. -/
theorem Auths.noted (h : Auths w r w') :
    Noted w w' (if r = .cloudNetwork then [.authLost] else []) := by
  obtain ⟨es, htr, hes⟩ := Requests.network h
  rw [lost_auth] at hes
  refine ⟨⟨es, htr, hes⟩, ?_⟩
  rw [Requests.cloud_eq h]
  split <;> rfl

/-- It is cleared when an `UPDEV` is. -/
theorem Updates.noted (h : Updates w r w') :
    Noted w w' (if r = .cloudNetwork then [.updateLost] else []) := by
  obtain ⟨w₁, hq, rfl⟩ := h
  obtain ⟨es, htr, hes⟩ := hq.network
  rw [lost_updev] at hes
  by_cases hr : r = .cloudNetwork
  · rw [if_pos hr, if_pos hr] at *
    exact ⟨⟨es, htr, hes⟩, rfl⟩
  · rw [if_neg hr, if_neg hr] at *
    exact ⟨⟨es, htr, hes⟩, by rw [hq.cloud_eq]; rfl⟩

/-- The other requests are not counted. -/
theorem Requests.noted {cmd : ℕ} {t : CStr} (h : Requests cmd t w r w')
    (hl : lost P cmd = none) : Noted w w' [] := by
  obtain ⟨es, htr, hes⟩ := h.network
  rw [hl] at hes
  refine ⟨⟨es, htr, ?_⟩, by rw [h.cloud_eq]; rfl⟩
  rw [hes]
  split <;> rfl

theorem Ubinds.noted (h : Ubinds w r w') : Noted w w' [] := by
  have := P.cmds_ne
  exact Requests.noted h (lost_other (by omega) (by omega) (by omega))

theorem Binds.noted (h : Binds w r w') : Noted w w' [] := by
  obtain ⟨code, hq⟩ := h
  have := P.cmds_ne
  exact hq.noted (lost_other (by omega) (by omega) (by omega))

theorem Regusrs.noted {account username password : CStr}
    (h : Regusrs account username password w r w') : Noted w w' [] := by
  obtain ⟨code, hq⟩ := h
  have := P.cmds_ne
  exact hq.noted (lost_other (by omega) (by omega) (by omega))

/-- **What `network_device_control` shows**: its failure, which the flag does not follow. -/
theorem Control.noted {r : ℤ} (h : Control w r w') :
    Noted w w' (if r = 0 then [] else [.controlLost]) := by
  cases h with
  | idle => exact .of_eq rfl rfl
  | lost hret =>
    refine ⟨⟨[_], rfl, ?_⟩, rfl⟩
    simp [networkEvents, Event.network, hret]
  | ignored hret =>
    refine ⟨⟨[_], rfl, ?_⟩, rfl⟩
    simp [networkEvents, Event.network, not_lt.2 hret]
  | @replied ret _ mem w₁ _ hret hs hr =>
    have hrecv : Noted w (w.log (.received .control w.cloud.fd ret mem)) [] := by
      refine ⟨⟨[_], rfl, ?_⟩, rfl⟩
      simp [networkEvents, Event.network, not_lt.2 hret.le]
    have hserved : Noted (w.log (.received .control w.cloud.fd ret mem)) w₁ [] := by
      cases hs with
      | other => exact .of_eq rfl rfl
      | refused hu _ => exact hu.noted
      | unbound hu => exact hu.noted.then_eq (World.trace_unbound _ _) rfl
    have hresponds : Noted w₁ w' (if r = 0 then [] else [.controlLost]) := by
      cases hr with
      | tooLarge =>
        refine ⟨⟨[_], rfl, ?_⟩, rfl⟩
        simp [networkEvents, Event.network, lost_devctl]
      | @wrote hdr payload t ret' hc =>
        by_cases hret' : ret' = 0
        · refine ⟨⟨[_], rfl, ?_⟩, ?_⟩
          · simp [networkEvents, Event.network, hret']
          · simp [hret']
        · refine ⟨⟨[_], rfl, ?_⟩, ?_⟩
          · simp [networkEvents, Event.network, hret', hc.cmd_eq, lost_devctl]
          · simp [hret', NetworkEvent.flag]
    have hall := hrecv.trans (hserved.trans hresponds)
    simpa using hall

theorem Polls.noted (h : Polls w w') : Noted w w' [] ∨ Noted w w' [.controlLost] := by
  cases h with
  | quiet => exact Or.inl (.of_eq rfl rfl)
  | served _ hc => exact Or.inl hc.noted
  | failed _ hr hc =>
    have hlost := hc.noted
    rw [if_neg hr] at hlost
    exact Or.inr (hlost.disconnect.setStatus _)

end Parts

/-! ## The steps -/

/-- The network events of a step, newest first. -/
inductive StepEvents : List NetworkEvent → Prop
  | nothing : StepEvents []
  | connectFailed : StepEvents [.connectFailed]
  | connected : StepEvents [.connected]
  | authLost : StepEvents [.authLost, .connected]
  | updateLost : StepEvents [.updateLost, .connected]
  | refreshLost : StepEvents [.updateLost]
  | controlLost : StepEvents [.controlLost]

/-- What a step does to the flag: it follows the network events, or the step carries out a
restart, which clears it. -/
inductive StepNoted (w w' : World P) : Prop
  | followed {l : List NetworkEvent} : Noted w w' l → StepEvents l → StepNoted w w'
  | restarted {w₁ : World P} : Noted w w₁ [] → w'.trace = w₁.trace →
      w'.cloud.reachable = .no → StepNoted w w'

section Steps

variable {w w' w₁ : World P} {r : CommonStatus}

/-- An event that a step has in one case and not in the other. -/
theorem StepEvents.of_if {e : NetworkEvent} {l : List NetworkEvent} (p : Prop) [Decidable p]
    (hl : StepEvents l) (he : StepEvents (e :: l)) :
    StepEvents ((if p then [e] else []) ++ l) := by
  split
  · exact he
  · exact hl

theorem Connects.noted_succeed (h : Connects w .succeed w') : Noted w w' [.connected] := by
  simpa using h.noted

theorem Connects.noted_failed (h : Connects w r w') (hr : r ≠ .succeed) :
    Noted w w' [.connectFailed] := by
  simpa [hr] using h.noted

theorem Auths.noted_succeed (h : Auths w .succeed w') : Noted w w' [] := by
  simpa using h.noted

theorem Updates.noted_succeed (h : Updates w .succeed w') : Noted w w' [] := by
  simpa using h.noted

/-- A poll behind a part without network events. -/
theorem Polls.stepNoted (h : Noted w w₁ []) (hp : Polls w₁ w') : StepNoted w w' := by
  rcases hp.noted with hq | hlost
  · exact .followed (h.trans hq) .nothing
  · exact .followed (h.trans hlost) .controlLost

theorem DaemonStep.noted (h : DaemonStep w w') : StepNoted w w' := by
  cases h with
  | initIdle _ _ hp => exact hp.stepNoted (.of_eq rfl rfl)
  | initBound => exact .followed (.of_eq rfl rfl) .nothing
  | connectFailed _ hc hr =>
    exact .followed ((hc.noted_failed hr).setStatus _) .connectFailed
  | connectUnbound _ _ hc => exact .followed (hc.noted_succeed.then_eq rfl rfl) .connected
  | authFailed _ _ hc ha _ =>
    have hboth := hc.noted_succeed.trans ha.noted
    exact .followed (hboth.setStatus _) (.of_if _ .connected .authLost)
  | updateFailed _ _ hc ha hu _ =>
    have hall := (hc.noted_succeed.trans ha.noted_succeed).trans hu.noted
    exact .followed (hall.setStatus _) (.of_if _ .connected .updateLost)
  | connected _ _ hc ha hu =>
    have hall := (hc.noted_succeed.trans ha.noted_succeed).trans hu.noted_succeed
    exact .followed (hall.setStatus _) .connected
  | dropUnbound => exact .followed (.of_eq rfl rfl) .nothing
  | upToDate _ _ _ hp => exact hp.stepNoted (.of_eq rfl rfl)
  | refreshFailed _ _ _ _ hu _ =>
    have htaken : Noted w w.taken [] := .of_eq rfl rfl
    have hboth := htaken.trans hu.noted
    exact .followed (hboth.setStatus _) (.of_if _ .nothing .refreshLost)
  | refreshed _ _ _ _ hu hp =>
    have htaken : Noted w w.taken [] := .of_eq rfl rfl
    exact hp.stepNoted (htaken.trans hu.noted_succeed)
  | gaveUp => exact .followed w.disconnect_noted .nothing
  | waiting => exact .followed (w.disconnect_noted.then_eq rfl rfl) .nothing
  | retry => exact .followed (w.disconnect_noted.then_eq rfl rfl) .nothing
  | broken => exact .followed w.disconnect_noted .nothing
  | restart => exact .restarted w.disconnect_noted rfl rfl

theorem RegUsrStep.noted {account username password : CStr}
    (h : RegUsrStep account username password w r w') : StepNoted w w' := by
  cases h with
  | noConnection _ hc hr => exact .followed (hc.noted_failed hr) .connectFailed
  | offline _ hc hq => exact .followed (hc.noted_succeed.trans hq.noted) .connected
  | online _ _ hq => exact .followed hq.noted .nothing
  | dropped _ _ hq => exact .followed (hq.noted.disconnect.setStatus _) .nothing

theorem BindStep.noted {user password devicename : CStr}
    (h : BindStep user password devicename w r w') : StepNoted w w' := by
  cases h with
  | refused => exact .followed (.of_eq rfl rfl) .nothing
  | noConnection _ hc hr =>
    have hfailed := w.disconnect_noted.trans (hc.noted_failed hr)
    exact .followed hfailed.disconnect .connectFailed
  | authFailed _ hc ha _ =>
    have hcon := w.disconnect_noted.trans hc.noted_succeed
    have hauth := (hcon.then_eq (World.trace_credited ..) rfl).trans ha.noted
    exact .followed hauth.disconnect (.of_if _ .connected .authLost)
  | bindFailed _ hc ha hb _ =>
    have hcon := w.disconnect_noted.trans hc.noted_succeed
    have hauth := (hcon.then_eq (World.trace_credited ..) rfl).trans ha.noted_succeed
    exact .followed (hauth.trans hb.noted).disconnect .connected
  | bound _ hc ha hb hu =>
    have hcon := w.disconnect_noted.trans hc.noted_succeed
    have hauth := (hcon.then_eq (World.trace_credited ..) rfl).trans ha.noted_succeed
    have hupdate := (hauth.trans hb.noted).trans hu.noted
    have hbound := hupdate.then_eq (World.trace_bound _) rfl
    exact .followed hbound (.of_if _ .connected .updateLost)

theorem UBindOnline.noted (h : UBindOnline w r w') : Noted w w' [] := by
  cases h with
  | @acknowledged w₁ hq =>
    have hunbound := hq.noted.then_eq (World.trace_unbound w₁ .init) rfl
    exact hunbound.disconnect
  | failed hq _ => exact (hq.noted.setStatus _).disconnect

theorem UBindStep.noted (h : UBindStep w r w') : StepNoted w w' := by
  cases h with
  | notBound => exact .followed (.of_eq rfl rfl) .nothing
  | noConnection _ _ hc hr =>
    exact .followed ((hc.noted_failed hr).setStatus _).disconnect .connectFailed
  | authFailed _ _ hc ha _ =>
    have hauth := hc.noted_succeed.trans ha.noted
    exact .followed (hauth.setStatus _).disconnect (.of_if _ .connected .authLost)
  | offline _ _ hc ha hu =>
    have hauth := hc.noted_succeed.trans ha.noted_succeed
    exact .followed (hauth.trans hu.noted) .connected
  | online _ _ hu => exact .followed hu.noted .nothing

/-- **What any step does to the flag.** -/
theorem Moves.noted {a : Action} (h : Moves w a w') : StepNoted w w' := by
  cases h with
  | daemon hd => exact hd.noted
  | notice => exact .followed (.of_eq (World.trace_notified _ _) rfl) .nothing
  | restart => exact .followed (.of_eq rfl rfl) .nothing
  | ignored => exact .followed (.of_eq rfl rfl) .nothing
  | regUsr hr => exact hr.noted
  | bind hb => exact hb.noted
  | ubind hu => exact hu.noted
  | ping =>
    rw [World.pinged]
    split
    · exact .followed (.of_eq rfl rfl) .nothing
    · exact .followed (.of_eq rfl rfl) .nothing

end Steps

/-! ## Runs -/

section Runs

variable {w w' : World P} {f : Conf P} {s : SysInfo P} {h : List (Move (World P) Action)}

/-- The flag follows the failures. -/
def FlagTold (w : World P) : Prop := w.failures ≠ [] → w.cloud.reachable = .no

/-- What `swCloudPing` answers is the flag. -/
theorem tellsTruth_iff : TellsTruth w ↔ FlagTold w := by
  constructor
  · intro h
    exact h.flag
  · intro h
    refine ⟨h, ?_⟩
    intro w' r hping hyes
    by_contra hfailed
    rw [(runs_swCloudPing hping).1, h hfailed] at hyes
    cases hyes

theorem networkEvents_append (es es' : List Event) :
    networkEvents P (es ++ es') = networkEvents P es ++ networkEvents P es' :=
  List.filterMap_append

theorem Noted.failures_eq {l : List NetworkEvent} (hn : Noted w w' l) :
    w'.failures = (l ++ networkEvents P w.trace).takeWhile fun e => e ≠ .connected := by
  obtain ⟨es, htr, hes⟩ := hn.events
  rw [World.failures, htr, networkEvents_append, hes]

/-- **One step.**  If the flag has followed the failures so far, it does so after the step
exactly if the code has seen the failures of the step. -/
theorem StepNoted.told_iff {a : Action} (h : StepNoted w w') (hw : FlagTold w) :
    FlagTold w' ↔ NetworkSeen ⟨w, a, w'⟩ := by
  cases h with
  | @followed l hn hl =>
    obtain ⟨es, htr, hes⟩ := hn.events
    have hfail := hn.failures_eq
    have hflag := hn.flag
    have hseen : NetworkSeen ⟨w, a, w'⟩ ↔
        .authLost ∉ l ∧ (.controlLost ∈ l → w.cloud.reachable = .no) := by
      rw [← hes, ← World.since_eq htr]
      exact ⟨fun ⟨h₁, h₂⟩ => ⟨h₁, h₂⟩, fun ⟨h₁, h₂⟩ => ⟨h₁, h₂⟩⟩
    rw [hseen, FlagTold, hfail, hflag]
    cases hl with
    | nothing => simpa [World.failures, FlagTold] using hw
    | connectFailed => simp [NetworkEvent.flag]
    | connected => simp [NetworkEvent.flag]
    | authLost => simp [NetworkEvent.flag]
    | updateLost => simp [NetworkEvent.flag]
    | refreshLost => simp [NetworkEvent.flag]
    | controlLost => simp [NetworkEvent.flag]
  | @restarted w₁ hn htr hno =>
    obtain ⟨es, htr₁, hes⟩ := hn.events
    have hsince : networkEvents P (w.since w') = [] := by
      rw [World.since_eq (htr.trans htr₁), hes]
    refine ⟨fun _ => ⟨?_, ?_⟩, fun _ _ => hno⟩
    · simp [hsince]
    · simp [hsince]

/-- **Reachability tells the truth after every step of a run** exactly if in no step an
`AUTH` is lost, and `network_device_control` fails only in steps that find the flag at
`CLOUD_REACHABLE_NO`. -/
theorem reachable_truth_iff (hr : Run f s h w) :
    (∀ m ∈ h, TellsTruth m.post) ↔ ∀ m ∈ h, NetworkSeen m := by
  refine hr.forall_iff FlagTold (fun hne => absurd rfl hne) ?_
  intro m _ hstep hpre
  have hiff := hstep.moves.noted.told_iff (a := m.label) hpre
  exact ⟨tellsTruth_iff.trans hiff, hiff.2⟩

/-- A run to which the law applies: the device is bound, and connects. -/
theorem reachable_truth_connected : ∃ f s, ∃ h : List (Move (World sampleProtocol) Action), ∃ w,
    Run f s h w ∧ w.cloud.status = .connected ∧ ∀ m ∈ h, TellsTruth m.post := by
  obtain ⟨h, w, hr, hs, hc⟩ := exists_run (sampleConf (CStr.lit "u") (CStr.lit "p")) sampleInfo
    [(.daemon, []), (.daemon, connectedInputs 3)]
    (fun r => r.2.cloud.status = .connected ∧ ∀ m ∈ r.1,
      .authLost ∉ networkEvents sampleProtocol (m.pre.since m.post) ∧
      .controlLost ∉ networkEvents sampleProtocol (m.pre.since m.post)) (by decide +kernel)
  refine ⟨_, _, h, w, hr, hs, (reachable_truth_iff hr).2 ?_⟩
  intro m hm
  exact ⟨(hc m hm).1, fun hlost => absurd hlost (hc m hm).2⟩

/-- The device connects and cannot send its `AUTH`; the flag stays at
`CLOUD_REACHABLE_YES`. -/
theorem auth_lost_unseen : ∃ f s, ∃ h : List (Move (World sampleProtocol) Action), ∃ w,
    Run f s h w ∧ ¬ ∀ m ∈ h, TellsTruth m.post := by
  obtain ⟨h, w, hr, m, hm, hfail, hyes⟩ := exists_run
    (sampleConf (CStr.lit "u") (CStr.lit "p")) sampleInfo
    [(.daemon, []), (.daemon, connectInputs 3 ++ [.bytes [], .writes [.err]])]
    (fun r => ∃ m ∈ r.1, m.post.failures ≠ [] ∧ m.post.cloud.reachable = .yes)
    (by decide +kernel)
  refine ⟨_, _, h, w, hr, ?_⟩
  intro hall
  have hno := (hall m hm).flag hfail
  rw [hyes] at hno
  cases hno

end Runs

end SwCloud
