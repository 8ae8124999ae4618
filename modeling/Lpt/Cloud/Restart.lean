import Lpt.Cloud.Duo

/-!
# A restart after a change of the network

`msg_network_change` asks for a restart by writing `RESTART` into the status.  The daemon
reads the status at the beginning of an iteration, and may write another one at its end: if
the message comes in between, its `RESTART` is overwritten unseen.

* `Restarting` — how far the daemon has come with a restart.
* `restartRule`, `askRule` — what the two threads do with the status.
* `RestartKept` — the next status after `RESTART` is written in the daemon's case of it.
* `restartKept_iff` — a run keeps to it exactly if no iteration writes the status after a
  `RESTART` that it has not read.
-/

namespace SwCloud

open CLib Effect Trans

variable {P : CldProtocol}

/-! ## What is watched -/

/-- The note that is kept of a run. -/
structure RestartNote where
  /-- The status as the daemon knows it: what it has read or written last. -/
  known : Status
  /-- `msg_network_change` has written `RESTART`, and the daemon has written no status since. -/
  asked : Bool
  /-- It did so after the daemon had last read the status, and had not read `RESTART`. -/
  unseen : Bool
  deriving DecidableEq

/-- What is noted. -/
def restartWatch (P : CldProtocol) : Watch P RestartNote
  | .daemon, .getStatus, s, g => ⟨s, g.asked, false⟩
  | .daemon, .setStatus s, _, _ => ⟨s, false, false⟩
  | .messages, .setStatus .restart, _, g => ⟨g.known, true, g.unseen || g.known ≠ .restart⟩
  | _, _, _, g => g

/-! ## What the threads do with the status -/

/-- How far the daemon has come with a restart. -/
inductive Restarting where
  /-- It is not in the case of `RESTART`. -/
  | idle
  /-- It has read `RESTART`. -/
  | found
  /-- It has cleared the first of the counters. -/
  | retriesCleared
  /-- It has cleared both of them. -/
  | cleared
  deriving DecidableEq

open Classical in
/-- How it goes on. -/
noncomputable def Restarting.next : Restarting → (o : Op P) → Ans P o → Restarting
  | .idle, .getStatus, .restart => .found
  | .found, .modify f, _ => if ∀ c, (f c).retries = 0 then .retriesCleared else .found
  | .retriesCleared, .modify f, _ => if ∀ c, (f c).waits = 0 then .cleared else .retriesCleared
  | .cleared, .setStatus _, _ => .idle
  | st, _, _ => st

/-- The counters that have been cleared are left alone. -/
def Restarting.Spares : Restarting → (Cloud P → Cloud P) → Prop
  | .retriesCleared, f => ∀ c, (f c).retries = c.retries
  | .cleared, f => ∀ c, (f c).retries = c.retries ∧ (f c).waits = c.waits
  | _, _ => True

/-- What the daemon may do next: in the case of `RESTART` it writes the status when the
counters have been cleared, and it never asks for a restart itself. -/
def Restarting.Allows : Restarting → Op P → Prop
  | st, .modify f => KeepsFlags f ∧ st.Spares f
  | st, .setStatus s => (st = .idle ∨ st = .cleared) ∧ s ≠ .restart
  | st, .getStatus => st = .idle
  | _, _ => True

/-- The discipline of the daemon. -/
noncomputable def restartRule (P : CldProtocol) : Discipline (Op P) (Ans P) Restarting :=
  .ofRule Restarting.Allows Restarting.next

/-- What a handler may do: the only status it writes is `RESTART`. -/
def AskAllows : Op P → Prop
  | .modify f => KeepsFlags f ∧ Restarting.cleared.Spares f
  | .setStatus s => s = .restart
  | _ => True

/-- The discipline of the handlers. -/
noncomputable def askRule (P : CldProtocol) : Discipline (Op P) (Ans P) Restarting :=
  .ofRule (fun _ => AskAllows) fun s _ _ => s

theorem askRule_eq {s : Restarting} {o : Op P} {f : Ans P o → Restarting}
    (h : askRule P s o = some f) : AskAllows o ∧ f = fun _ => s := by
  obtain ⟨ho, rfl⟩ := Discipline.ofRule_eq_some.1 h
  exact ⟨ho, rfl⟩

theorem restartRule_stay (st : Restarting) {o : Op P} (h : st.Allows o)
    (hn : ∀ x : Ans P o, st.next o x = st) : restartRule P st o = some fun _ => st :=
  Discipline.ofRule_eq_some.2 ⟨h, funext hn⟩

/-- An operation after which the discipline is in the state `u`. -/
theorem obeys_restartRule {st u : Restarting} {o : Op P} (h : st.Allows o)
    (hn : ∀ x : Ans P o, st.next o x = u) : (perform o).Obeys (restartRule P) st u :=
  ⟨_, Discipline.ofRule_eq_some.2 ⟨h, rfl⟩, hn⟩

theorem restartRule_neutral (o : Op P) (h : o.neutral) :
    restartRule P .idle o = some fun _ => .idle := by
  cases o with
  | modify f => exact restartRule_stay .idle ⟨h, trivial⟩ fun _ => rfl
  | _ => first | exact h.elim | exact restartRule_stay .idle trivial fun _ => rfl

theorem locking_restartRule :
    Locking fun α (p : CloudM P α) => p.Obeys (restartRule P) .idle .idle :=
  locking_of_neutral restartRule_neutral (restartRule_stay .idle trivial fun _ => rfl)
    (restartRule_stay .idle trivial fun _ => rfl)
    fun _ hs => restartRule_stay .idle ⟨Or.inl rfl, hs⟩ fun _ => rfl

/-- A struct with a counter that is not clear. -/
theorem exists_uncleared : ∃ c : Cloud P, c.retries ≠ 0 :=
  ⟨{ (onlineWorld P).cloud with retries := 1 }, Int.one_ne_zero⟩

/-- A change that has nothing to do with the counters. -/
theorem obeys_found {f : Cloud P → Cloud P} (hf : KeepsFlags f)
    (hr : ∀ c, (f c).retries = c.retries) :
    (modifyCloud f).Obeys (restartRule P) .found .found := by
  refine obeys_restartRule ⟨hf, trivial⟩ fun _ => ?_
  obtain ⟨c, hc⟩ := exists_uncleared (P := P)
  unfold Restarting.next
  exact if_neg fun hall => hc ((hr c).symm.trans (hall c))

/-- **The case of `RESTART`**: the counters are cleared before the status is written. -/
theorem obeys_daemonRestart :
    (daemonRestart : CloudM P Unit).Obeys (restartRule P) .found .idle := by
  have hop : ∀ {st : Restarting} {o : Op P}, st.Allows o → (∀ x : Ans P o, st.next o x = st) →
      (perform o).Obeys (restartRule P) st st := fun h hn => obeys_restartRule h hn
  have hdisc : cloudDoDisconnect.Obeys (restartRule P) .found .found := by
    unfold cloudDoDisconnect
    refine Prog.Obeys.bind (hop (o := .get) trivial fun _ => rfl) fun _ => obeys_ite ?_ rfl
    exact Prog.Obeys.bind (hop (o := .close _) trivial fun _ => rfl) fun _ =>
      obeys_found (fun _ => ⟨rfl, rfl⟩) fun _ => rfl
  have hclear : cloudClearCounter.Obeys (restartRule P) .found .cleared := by
    unfold cloudClearCounter
    refine Prog.Obeys.bind (obeys_restartRule (u := .retriesCleared)
      (o := .modify fun c => { c with retries := 0 }) ⟨fun _ => ⟨rfl, rfl⟩, trivial⟩
      fun _ => if_pos fun _ => rfl) fun _ => ?_
    refine Prog.Obeys.bind (obeys_restartRule (u := .cleared)
      (o := .modify fun c => { c with waits := 0 }) ⟨fun _ => ⟨rfl, rfl⟩, fun _ => rfl⟩
      fun _ => if_pos fun _ => rfl) fun _ => ?_
    refine Prog.Obeys.bind (hop (o := .sysConfGetLong .retryWait) trivial fun _ => rfl) fun _ => ?_
    exact hop ⟨fun _ => ⟨rfl, rfl⟩, fun _ => ⟨rfl, rfl⟩⟩ fun _ => rfl
  unfold daemonRestart
  refine hdisc.bind fun _ => Prog.Obeys.bind (obeys_found (fun _ => ⟨rfl, rfl⟩) fun _ => rfl)
    fun _ => hclear.bind fun _ => ?_
  refine Prog.Obeys.bind (hop (o := .lock) trivial fun _ => rfl) fun _ => ?_
  refine Prog.Obeys.bind (obeys_restartRule (u := .idle) (o := .setStatus .disconnected)
    ⟨Or.inr rfl, nofun⟩ fun _ => rfl) fun _ => ?_
  exact hop (o := .unlock) trivial fun _ => rfl

/-- **What the daemon does with the status.** -/
theorem obeys_restart : (cloudDaemon : CloudM P Unit).Obeys (restartRule P) .idle .idle := by
  have h := locking_restartRule (P := P)
  have hneed : cloudNeedUpdate.Obeys (restartRule P) .idle .idle := by
    unfold cloudNeedUpdate
    refine h.bind h.getCloud fun _ => obeys_ite rfl ?_
    refine Prog.Obeys.bind (obeys_restartRule (u := .idle) (o := .getUpdate) trivial
      fun _ => rfl) fun _ => ?_
    exact Prog.Obeys.bind (obeys_restartRule (u := .idle) (o := .setUpdate false) trivial
      fun _ => rfl) fun _ => rfl
  refine ⟨_, restartRule_stay .idle trivial fun _ => rfl, ?_⟩
  intro _
  refine ⟨_, Discipline.ofRule_eq_some.2 ⟨rfl, rfl⟩, ?_⟩
  intro status
  cases status with
  | restart =>
    exact ⟨_, restartRule_stay .found trivial fun _ => rfl, fun _ => obeys_daemonRestart⟩
  | init => exact ⟨_, restartRule_stay .idle trivial fun _ => rfl, fun _ => h.daemonInit⟩
  | connecting =>
    exact ⟨_, restartRule_stay .idle trivial fun _ => rfl, fun _ => h.daemonConnecting⟩
  | connected =>
    exact ⟨_, restartRule_stay .idle trivial fun _ => rfl,
      fun _ => h.daemonConnected hneed⟩
  | disconnected =>
    exact ⟨_, restartRule_stay .idle trivial fun _ => rfl, fun _ => h.daemonDisconnected⟩
  | broken =>
    exact ⟨_, restartRule_stay .idle trivial fun _ => rfl, fun _ => h.daemonBroken⟩

/-- **What the handlers do with the status.** -/
theorem obeys_ask (m : Message) : (m.prog P).Obeys (askRule P) .idle .idle := by
  have hrule : ∀ {o : Op P}, AskAllows o → askRule P .idle o = some fun _ => .idle :=
    fun h => Discipline.ofRule_eq_some.2 ⟨h, rfl⟩
  have h : Handling fun α (p : CloudM P α) => p.Obeys (askRule P) .idle .idle :=
    handling_of_neutral (fun f => hrule ⟨fun _ => ⟨rfl, rfl⟩, fun _ => ⟨rfl, rfl⟩⟩)
      (hrule trivial) (hrule trivial) (hrule rfl) (hrule trivial) (hrule trivial)
  exact h.message m

/-! ## The law -/

/-- The two threads with the note. -/
abbrev RestartDuo (P : CldProtocol) : Type := Duo P RestartNote

/-- A step of the two threads. -/
def RestartStep (c : RestartDuo P) (a : DuoAct) (c' : RestartDuo P) : Prop :=
  duoStep (restartWatch P) c a = some c'

/-- Both threads wait, and no restart has been asked for. -/
def restartStart (w : World P) : RestartDuo P := duoStart w ⟨.init, false, false⟩

/-- The operation writes the status. -/
def Op.writesStatus : Op P → Bool
  | .setStatus _ => true
  | _ => false

/-- The step is a write of the status by the daemon. -/
def DaemonWrites (m : Move (RestartDuo P) DuoAct) : Prop :=
  (m.pre.does .daemon m.label).any Op.writesStatus = true

instance (m : Move (RestartDuo P) DuoAct) : Decidable (DaemonWrites m) :=
  inferInstanceAs (Decidable (_ = _))

/-- The daemon is in its case of `RESTART`, and has cleared the counters. -/
def InRestartCase (c : RestartDuo P) : Prop :=
  c.shared.note.known = .restart ∧
    c.shared.world.cloud.retries = 0 ∧ c.shared.world.cloud.waits = 0

instance (c : RestartDuo P) : Decidable (InRestartCase c) := inferInstanceAs (Decidable (_ ∧ _))

/-- **A restart is not lost**: if the daemon writes the status and `msg_network_change` has
written `RESTART` since its last write, it does so in its case of `RESTART`. -/
def RestartKept (m : Move (RestartDuo P) DuoAct) : Prop :=
  DaemonWrites m → m.pre.shared.note.asked = true → InRestartCase m.pre

instance (m : Move (RestartDuo P) DuoAct) : Decidable (RestartKept m) :=
  inferInstanceAs (Decidable (_ → _))

/-- The daemon writes the status, and `msg_network_change` has written `RESTART` after the
daemon had last read the status, and had not read `RESTART`. -/
def WritesUnseen (m : Move (RestartDuo P) DuoAct) : Prop :=
  DaemonWrites m ∧ m.pre.shared.note.unseen = true

instance (m : Move (RestartDuo P) DuoAct) : Decidable (WritesUnseen m) :=
  inferInstanceAs (Decidable (_ ∧ _))

section Law

variable {c c' : RestartDuo P} {a : DuoAct} {w₀ w w' : World P}
  {h : List (Move (RestartDuo P) DuoAct)} {t : Party} {o : Op P} {i : Input} {x : Ans P o}
  {g : RestartNote}

/-- What the state of its discipline says of the daemon, and of a handler. -/
def RestartPhase (w : World P) (g : RestartNote) : Party → Restarting → Prop
  | .daemon, .idle => g.known ≠ .restart
  | .daemon, .found => g.known = .restart
  | .daemon, .retriesCleared => g.known = .restart ∧ w.cloud.retries = 0
  | .daemon, .cleared => g.known = .restart ∧ w.cloud.retries = 0 ∧ w.cloud.waits = 0
  | .messages, st => st = .idle

/-- The disciplines of the two threads. -/
noncomputable def restartRules (P : CldProtocol) : Party → Discipline (Op P) (Ans P) Restarting
  | .daemon => restartRule P
  | .messages => askRule P

/-- The disciplines are kept. -/
def RestartDuo.Kept (c : RestartDuo P) : Prop :=
  Duo.Kept (restartRules P) (fun _ => .idle) RestartPhase c

/-- The counters after an operation. -/
theorem handle_counters (hH : handle P o i w = some (x, w')) :
    (∃ f, o = .modify f ∧ w'.cloud = f w.cloud) ∨
      (w'.cloud.retries = w.cloud.retries ∧ w'.cloud.waits = w.cloud.waits) := by
  by_cases hw : o.writes
  · cases o with
    | modify f =>
      cases hH
      exact Or.inl ⟨f, rfl, rfl⟩
    | setStatus s =>
      cases hH
      exact Or.inr ⟨rfl, rfl⟩
    | setUpdate b =>
      cases hH
      exact Or.inr ⟨rfl, rfl⟩
    | _ => exact hw.elim
  · rw [handle_cloud hH hw]
    exact Or.inr ⟨rfl, rfl⟩

/-- A change that spares what has been cleared leaves the phase as it is. -/
theorem RestartPhase.spared {st : Restarting} {g' : RestartNote}
    (hΦ : RestartPhase w g .daemon st) (hg : g'.known = g.known)
    (hH : handle P o i w = some (x, w')) (ho : ∀ f, o = .modify f → st.Spares f) :
    RestartPhase w' g' .daemon st := by
  have hcount := handle_counters hH
  cases st with
  | idle =>
    change g'.known ≠ .restart
    rw [hg]
    exact hΦ
  | found =>
    change g'.known = .restart
    rw [hg]
    exact hΦ
  | retriesCleared =>
    obtain ⟨hk, hr⟩ := hΦ
    refine ⟨hg.trans hk, ?_⟩
    rcases hcount with ⟨f, rfl, hf⟩ | ⟨hr', -⟩
    · rw [hf, ho f rfl, hr]
    · rw [hr', hr]
  | cleared =>
    obtain ⟨hk, hr, hwaits⟩ := hΦ
    refine ⟨hg.trans hk, ?_⟩
    rcases hcount with ⟨f, rfl, hf⟩ | ⟨hr', hw'⟩
    · rw [hf, (ho f rfl _).1, (ho f rfl _).2]
      exact ⟨hr, hwaits⟩
    · rw [hr', hw']
      exact ⟨hr, hwaits⟩

/-- **What the daemon does is in step with its discipline.** -/
theorem RestartPhase.daemon {st : Restarting} (ho : st.Allows o)
    (hH : handle P o i w = some (x, w')) (hΦ : RestartPhase w g .daemon st) :
    RestartPhase w' (restartWatch P .daemon o x g) .daemon (st.next o x) := by
  have hstay : (∀ f, o ≠ .modify f) → (restartWatch P .daemon o x g).known = g.known →
      st.next o x = st → RestartPhase w' (restartWatch P .daemon o x g) .daemon (st.next o x) := by
    intro hm hg hn
    rw [hn]
    exact hΦ.spared hg hH fun f hf => absurd hf (hm f)
  cases o with
  | getStatus =>
    obtain rfl : st = .idle := ho
    cases x with
    | restart => exact (rfl : Status.restart = .restart)
    | init | connecting | connected | disconnected | broken =>
      show _ ≠ Status.restart
      exact nofun
  | setStatus s =>
    obtain ⟨rfl | rfl, hs⟩ := ho
    · exact hs
    · exact hs
  | modify f =>
    obtain ⟨hkeeps, hspares⟩ := ho
    have hsame : RestartPhase w' g .daemon st := hΦ.spared rfl hH fun f' hf' => by
      cases hf'
      exact hspares
    have hw' : w'.cloud = f w.cloud := by
      cases hH
      rfl
    cases st with
    | idle => exact hsame
    | cleared => exact hsame
    | found =>
      by_cases hf : ∀ c, (f c).retries = 0
      · rw [show Restarting.found.next (.modify f) x = .retriesCleared from if_pos hf]
        exact ⟨hΦ, by rw [hw', hf]⟩
      · rw [show Restarting.found.next (.modify f) x = .found from if_neg hf]
        exact hsame
    | retriesCleared =>
      by_cases hf : ∀ c, (f c).waits = 0
      · rw [show Restarting.retriesCleared.next (.modify f) x = .cleared from if_pos hf]
        exact ⟨hsame.1, hsame.2, by rw [hw', hf]⟩
      · rw [show Restarting.retriesCleared.next (.modify f) x = .retriesCleared from if_neg hf]
        exact hsame
  | _ => exact hstay nofun rfl (by cases st <;> rfl)

theorem restartWatch_messages (ho : AskAllows o) :
    (restartWatch P .messages o x g).known = g.known := by
  cases o with
  | setStatus s =>
    obtain rfl : s = .restart := ho
    rfl
  | _ => rfl

theorem restartStart_kept : (restartStart w₀).Kept := by
  intro t
  refine ⟨.idle, rfl, ?_⟩
  cases t with
  | daemon =>
    show Status.init ≠ .restart
    exact nofun
  | messages => exact (rfl : Restarting.idle = .idle)

theorem RestartStep.kept (hs : RestartStep c a c') (hk : c.Kept) : c'.Kept := by
  refine Duo.Kept.step hk obeys_restart obeys_ask (fun t o i x w' s f hH hf hΦ => ?_)
    (fun t o i x w' u f s t' ht hH hf hΦ => ?_) hs
  · cases t with
    | daemon =>
      obtain ⟨ho, rfl⟩ := Discipline.ofRule_eq_some.1 hf
      exact hΦ.daemon ho hH
    | messages =>
      obtain ⟨-, rfl⟩ := askRule_eq hf
      exact hΦ
  · cases t' with
    | messages => exact hΦ
    | daemon =>
      cases t with
      | daemon => exact absurd rfl ht
      | messages =>
        obtain ⟨ho, -⟩ := askRule_eq hf
        apply hΦ.spared (restartWatch_messages ho) hH
        intro f hf'
        subst hf'
        cases s with
        | idle => trivial
        | found => trivial
        | retriesCleared => exact fun c => (ho.2 c).1
        | cleared => exact ho.2

/-- What a step can do to the note and the status; the third argument says whether it is the
daemon writing the status. -/
inductive AskStep : RestartNote → Status → Bool → RestartNote → Status → Prop
  | quiet (g : RestartNote) (s : Status) : AskStep g s false g s
  | read (g : RestartNote) (s : Status) : AskStep g s false ⟨s, g.asked, false⟩ s
  | wrote (g : RestartNote) (s s' : Status) : AskStep g s true ⟨s', false, false⟩ s'
  | asked (g : RestartNote) (s : Status) :
      AskStep g s false ⟨g.known, true, g.unseen || g.known ≠ .restart⟩ .restart

theorem askStep_daemon {st : Restarting} (ho : st.Allows o) (hH : handle P o i w = some (x, w')) :
    AskStep g w.cloud.status o.writesStatus (restartWatch P .daemon o x g) w'.cloud.status := by
  have hspare : o.SparesFlags := by
    cases o <;> first | trivial | exact ho.1
  rw [handle_status hH hspare]
  cases o with
  | getStatus =>
    cases hH
    exact .read g _
  | setStatus s => exact .wrote g _ s
  | _ => exact .quiet g _

theorem askStep_messages (ho : AskAllows o) (hH : handle P o i w = some (x, w')) :
    AskStep g w.cloud.status false (restartWatch P .messages o x g) w'.cloud.status := by
  have hspare : o.SparesFlags := by
    cases o <;> first | trivial | exact ho.1
  rw [handle_status hH hspare]
  cases o with
  | setStatus s =>
    obtain rfl : s = .restart := ho
    exact .asked g _
  | _ => exact .quiet g _

/-- **What a step does to the note and the status.** -/
theorem RestartStep.askStep (hs : RestartStep c a c') (hk : c.Kept) :
    AskStep c.shared.note c.shared.world.cloud.status ((c.does .daemon a).any Op.writesStatus)
      c'.shared.note c'.shared.world.cloud.status := by
  cases a with
  | iterate =>
    rw [Threads.begin_shared hs]
    exact .quiet _ _
  | deliver m =>
    rw [Threads.begin_shared hs]
    exact .quiet _ _
  | exec t i =>
    obtain ⟨o, f, st, x, hdoes, -, hf, hH, hnote⟩ := hk.exec hs
    rw [hnote]
    cases t with
    | daemon =>
      rw [hdoes]
      exact askStep_daemon (Discipline.ofRule_eq_some.1 hf).1 hH
    | messages => exact askStep_messages (askRule_eq hf).1 hH

/-- A `RESTART` that was asked for is in the status until the daemon writes another one, and
it is unseen exactly if the daemon knows of something else. -/
def RestartNote.Sound (g : RestartNote) (s : Status) : Prop :=
  (g.asked = true → s = .restart) ∧
    (g.unseen = true ↔ g.asked = true ∧ g.known ≠ .restart)

theorem AskStep.sound {g g' : RestartNote} {s s' : Status} {b : Bool} (hs : AskStep g s b g' s')
    (hg : g.Sound s) : g'.Sound s' := by
  obtain ⟨hasked, hunseen⟩ := hg
  cases hs with
  | quiet => exact ⟨hasked, hunseen⟩
  | read => exact ⟨hasked, iff_of_false nofun fun h => h.2 (hasked h.1)⟩
  | wrote s' => exact ⟨nofun, iff_of_false nofun fun h => nomatch h.1⟩
  | asked =>
    refine ⟨fun _ => rfl, ?_⟩
    simp only [Bool.or_eq_true, decide_eq_true_eq, true_and]
    exact ⟨fun h => h.elim (fun hu => (hunseen.1 hu).2) id, Or.inr⟩

/-- What holds in every state of a run. -/
structure RestartInv (c : RestartDuo P) : Prop where
  kept : c.Kept
  sound : c.shared.note.Sound c.shared.world.cloud.status

theorem restartInv_of_path (hp : Path RestartStep (restartStart w₀) h c) : RestartInv c :=
  hp.invariant RestartInv ⟨restartStart_kept, nofun, iff_of_false nofun fun h => nomatch h.1⟩
    fun _ _ _ hi hs => ⟨hs.kept hi.kept, (hs.askStep hi.kept).sound hi.sound⟩

/-- When the daemon writes the status and has read `RESTART`, the counters are clear. -/
theorem RestartStep.inRestartCase (hs : RestartStep c a c') (hk : c.Kept)
    (hw : DaemonWrites ⟨c, a, c'⟩) (hr : c.shared.note.known = .restart) : InRestartCase c := by
  unfold DaemonWrites at hw
  cases a with
  | iterate => cases hw
  | deliver m => cases hw
  | exec t i =>
    cases t with
    | messages => cases hw
    | daemon =>
      obtain ⟨o, f, st, x, hdoes, hphase, hf, -, -⟩ := hk.exec hs
      rw [hdoes] at hw
      obtain ⟨ho, -⟩ := Discipline.ofRule_eq_some.1 hf
      cases o with
      | setStatus s =>
        obtain ⟨rfl | rfl, -⟩ := ho
        · exact absurd hr hphase
        · exact hphase
      | _ => cases hw

/-- One step. -/
theorem RestartStep.kept_iff (hs : RestartStep c a c') (hi : RestartInv c) :
    RestartKept ⟨c, a, c'⟩ ↔ ¬ WritesUnseen ⟨c, a, c'⟩ := by
  constructor
  · rintro hkept ⟨hw, hu⟩
    obtain ⟨hasked, hknown⟩ := hi.sound.2.1 hu
    exact hknown (hkept hw hasked).1
  · intro hn hw hasked
    apply hs.inRestartCase hi.kept hw
    by_contra hknown
    exact hn ⟨hw, hi.sound.2.2 ⟨hasked, hknown⟩⟩

/-- **When a restart is not lost.**  In every run the law holds of all steps exactly if the
daemon never writes the status after a `RESTART` that came too late for its iteration. -/
theorem restartKept_iff (hp : Path RestartStep (restartStart w₀) h c) :
    (∀ m ∈ h, RestartKept m) ↔ ∀ m ∈ h, ¬ WritesUnseen m := by
  apply forall₂_congr
  intro m hm
  obtain ⟨hs, h', -, hp'⟩ := hp.mem_step hm
  exact RestartStep.kept_iff hs (restartInv_of_path hp')

end Law

/-! ## Two runs -/

/-- A change of the network is announced, from beginning to end. -/
def networkChanged : List DuoAct :=
  .deliver (.networkChange (some (CStr.lit "ip"))) :: List.replicate 9 (.exec .messages .none)

/-- A change of the network that is announced between two iterations of the daemon leads to
a restart. -/
theorem restartKept_iff_between : ∃ h c,
    Path RestartStep (restartStart (onlineWorld sampleProtocol)) h c ∧
      (∀ m ∈ h, RestartKept m) ∧ ∃ m ∈ h, DaemonWrites m ∧ m.pre.shared.note.asked = true := by
  obtain ⟨h, c, hp, hcalm, hwrites⟩ : ∃ h c,
      Path RestartStep (restartStart (onlineWorld sampleProtocol)) h c ∧
        (∀ m ∈ h, ¬ WritesUnseen m) ∧
        ∃ m ∈ h, DaemonWrites m ∧ m.pre.shared.note.asked = true :=
    exists_replay (fun _ _ _ => id)
      (networkChanged ++ .iterate :: List.replicate 13 (.exec .daemon .none))
      (fun r => (∀ m ∈ r.1, ¬ WritesUnseen m) ∧
        ∃ m ∈ r.1, DaemonWrites m ∧ m.pre.shared.note.asked = true)
      (by decide +kernel)
  exact ⟨h, c, hp, (restartKept_iff hp).2 hcalm, hwrites⟩

/-- A change of the network is announced after the daemon has read `CONNECTED`.  The daemon
finds the update flag set, its request fails, and it writes `DISCONNECTED`. -/
theorem restart_lost : ∃ h c,
    Path RestartStep (restartStart (onlineWorld sampleProtocol)) h c ∧
      ¬ (∀ m ∈ h, RestartKept m) :=
  exists_replay (fun _ _ _ => id)
    (.iterate :: List.replicate 3 (.exec .daemon .none) ++ networkChanged ++
      List.replicate 5 (.exec .daemon .none) ++ [.exec .daemon (.bytes []), .exec .daemon .none,
        .exec .daemon (.writes [.err])] ++ List.replicate 3 (.exec .daemon .none))
    (fun r => ¬ ∀ m ∈ r.1, RestartKept m) (by decide +kernel)

end SwCloud
