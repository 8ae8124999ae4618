import Lpt.Cloud.Duo

/-!
# Pending updates

A handler that stores what it is told sets the update flag afterwards, under the mutex.
`cloud_need_update` reads the flag and then clears it, in two steps and without the mutex.
A handler that sets the flag between the two has its announcement taken back: the daemon
goes on with the value it has read.

* `Taking` — how far the daemon has come with the flag.
* `takingRule`, `markRule` — what the two threads do with the flag, read off their texts.
* `UpdateKept` — an announcement that the server has not been sent is still to be seen.
* `updateKept_iff` — a run keeps to it exactly if the flag is never cleared unread.
-/

namespace SwCloud

open CLib Effect Trans

variable {P : CldProtocol}

/-! ## What is watched -/

/-- How far the daemon has come with the update flag. -/
inductive Taking where
  /-- It has nothing to do with it. -/
  | idle
  /-- It has read the flag. -/
  | read (b : Bool)
  /-- It has read it as 1 and cleared it, and the payload is not built yet. -/
  | taken
  deriving DecidableEq

/-- How it goes on.  What it reads of the struct after it has taken the flag is what
`cloud_do_update` builds the payload from. -/
def Taking.next : Taking → (o : Op P) → Ans P o → Taking
  | .idle, .getUpdate, b => .read b
  | .read b, .setUpdate false, _ => if b = true then .taken else .idle
  | .taken, .get, _ => .idle
  | s, _, _ => s

/-- The note that is kept of a run. -/
structure UpdateNote where
  taking : Taking
  /-- A handler has finished after the last payload was built. -/
  pending : Bool
  deriving DecidableEq

/-- What is noted. -/
def updateWatch (P : CldProtocol) : Watch P UpdateNote
  | .daemon, .get, x, g => ⟨g.taking.next (P := P) .get x, g.pending && g.taking ≠ .taken⟩
  | .daemon, o, x, g => ⟨g.taking.next o x, g.pending⟩
  | .messages, .setUpdate true, _, g => ⟨g.taking, true⟩
  | .messages, _, _, g => g

/-! ## What the threads do with the flag -/

/-- What the daemon may do next: clear the flag when it has read it, and build the payload
when it has taken it. -/
def Taking.Allows : Taking → Op P → Prop
  | .idle, .setUpdate _ => False
  | .idle, .modify f => KeepsFlags f
  | .idle, _ => True
  | .read _, o => o = .setUpdate false
  | .taken, o => o = .get

/-- The discipline of the daemon. -/
noncomputable def takingRule (P : CldProtocol) : Discipline (Op P) (Ans P) Taking :=
  .ofRule Taking.Allows Taking.next

/-- What a handler may do: it sets the flag and does not clear it. -/
def MarkAllows : Op P → Prop
  | .setUpdate b => b = true
  | .modify f => KeepsFlags f
  | _ => True

/-- The discipline of the handlers. -/
noncomputable def markRule (P : CldProtocol) : Discipline (Op P) (Ans P) Taking :=
  .ofRule (fun _ => MarkAllows) fun s _ _ => s

theorem markRule_eq {s : Taking} {o : Op P} {f : Ans P o → Taking}
    (h : markRule P s o = some f) : MarkAllows o ∧ f = fun _ => s := by
  obtain ⟨ho, rfl⟩ := Discipline.ofRule_eq_some.1 h
  exact ⟨ho, rfl⟩

theorem takingRule_idle {o : Op P} (h : Taking.idle.Allows o)
    (hn : ∀ x : Ans P o, Taking.idle.next o x = .idle) :
    takingRule P .idle o = some fun _ => .idle :=
  Discipline.ofRule_eq_some.2 ⟨h, funext hn⟩

theorem takingRule_neutral (o : Op P) (h : o.neutral) :
    takingRule P .idle o = some fun _ => .idle := by
  cases o <;> first | exact h.elim | exact takingRule_idle h fun _ => rfl

theorem calling_takingRule :
    Calling fun α (p : CloudM P α) => p.Obeys (takingRule P) .idle .idle :=
  calling_of_neutral takingRule_neutral (takingRule_idle trivial fun _ => rfl)
    (takingRule_idle trivial fun _ => rfl) (fun _ _ => takingRule_idle trivial fun _ => rfl)
    (takingRule_idle trivial fun _ => rfl)

/-- `cloud_need_update` and what follows it. -/
theorem obeys_cloudNeedUpdate {k : Bool → CloudM P Unit}
    (hno : (k false).Obeys (takingRule P) .idle .idle)
    (hyes : (k true).Obeys (takingRule P) .taken .idle) :
    (cloudNeedUpdate >>= k).Obeys (takingRule P) .idle .idle := by
  refine ⟨_, takingRule_idle trivial fun _ => rfl, ?_⟩
  intro c
  change Prog.Obeys _ ((if c.fd = -1 then pure false else _) >>= k) _ _
  by_cases hfd : c.fd = -1
  · rw [if_pos hfd]
    exact hno
  · rw [if_neg hfd]
    refine ⟨_, Discipline.ofRule_eq_some.2 ⟨trivial, rfl⟩, ?_⟩
    intro b
    refine ⟨_, Discipline.ofRule_eq_some.2 ⟨rfl, rfl⟩, ?_⟩
    intro _
    cases b with
    | false => exact hno
    | true => exact hyes

/-- After the flag has been taken the payload is built at once. -/
theorem obeys_daemonUpdate {next : CloudM P Unit} (hn : next.Obeys (takingRule P) .idle .idle) :
    (daemonUpdate next).Obeys (takingRule P) .taken .idle := by
  have h := calling_takingRule (P := P)
  have hbuild : cloudDoUpdate.Obeys (takingRule P) .taken .idle :=
    ⟨_, Discipline.ofRule_eq_some.2 ⟨rfl, rfl⟩, h.updateRest⟩
  unfold daemonUpdate
  exact hbuild.bind fun _ => obeys_ite (h.setStatus nofun) (obeys_ite (h.setStatus nofun) hn)

/-- **What the daemon does with the flag.** -/
theorem obeys_taking : (cloudDaemon : CloudM P Unit).Obeys (takingRule P) .idle .idle := by
  have h := calling_takingRule (P := P)
  apply h.cloudDaemon
  unfold daemonConnected
  refine h.bind h.getCloud fun _ => obeys_ite ?_ (h.setStatus nofun)
  exact obeys_cloudNeedUpdate h.pollControl (obeys_daemonUpdate h.pollControl)

/-- **What the handlers do with the flag.** -/
theorem obeys_mark (m : Message) : (m.prog P).Obeys (markRule P) .idle .idle := by
  have hrule : ∀ {o : Op P}, MarkAllows o → markRule P .idle o = some fun _ => .idle :=
    fun h => Discipline.ofRule_eq_some.2 ⟨h, rfl⟩
  have h : Handling fun α (p : CloudM P α) => p.Obeys (markRule P) .idle .idle :=
    handling_of_neutral (fun f => hrule fun _ => ⟨rfl, rfl⟩) (hrule trivial) (hrule trivial)
      (hrule trivial) (hrule trivial) (hrule rfl)
  exact h.message m

/-! ## The law -/

/-- The two threads with the note. -/
abbrev UpdateDuo (P : CldProtocol) : Type := Duo P UpdateNote

/-- The device is connected and the socket is open. -/
def Online (w : World P) : Prop := w.cloud.status = .connected ∧ w.cloud.fd ≠ -1

instance (w : World P) : Decidable (Online w) := inferInstanceAs (Decidable (_ ∧ _))

/-- A step while the device stays online. -/
def OnlineStep (c : UpdateDuo P) (a : DuoAct) (c' : UpdateDuo P) : Prop :=
  duoStep (updateWatch P) c a = some c' ∧ Online c.shared.world ∧ Online c'.shared.world

/-- Both threads wait, and no handler has finished yet. -/
def updateStart (w : World P) : UpdateDuo P := duoStart w ⟨.idle, false⟩

/-- What the note and the flag `u` are to be: if a handler has finished after the last
payload was built, the flag is set, or the daemon is between reading it as 1 and building
the next payload. -/
def UpdateNote.Kept (g : UpdateNote) (u : Bool) : Prop :=
  g.pending = true → u = true ∨ g.taking = .read true ∨ g.taking = .taken

/-- **No pending update is lost.** -/
def UpdateKept (c : UpdateDuo P) : Prop := c.shared.note.Kept c.shared.world.cloud.update

instance (c : UpdateDuo P) : Decidable (UpdateKept c) := inferInstanceAs (Decidable (_ → _))

/-- The operation clears the update flag. -/
def Op.clears : Op P → Bool
  | .setUpdate false => true
  | _ => false

/-- In this step the flag is cleared by a daemon that has read it as 0, and it is set: a
handler has come in between. -/
def ClearsUnread (m : Move (UpdateDuo P) DuoAct) : Prop :=
  (m.pre.does .daemon m.label).any Op.clears = true ∧
    m.pre.shared.note.taking = .read false ∧ m.pre.shared.world.cloud.update = true

instance (m : Move (UpdateDuo P) DuoAct) : Decidable (ClearsUnread m) :=
  inferInstanceAs (Decidable (_ ∧ _))

section Law

variable {c c' : UpdateDuo P} {a : DuoAct} {w₀ w w' : World P}
  {h : List (Move (UpdateDuo P) DuoAct)} {t : Party} {o : Op P} {i : Input} {x : Ans P o}
  {g : UpdateNote}

/-- What the note says of the threads: the daemon is as far as it is noted, and a handler
has nothing to note. -/
def UpdatePhase (_ : World P) (g : UpdateNote) : Party → Taking → Prop
  | .daemon, st => g.taking = st
  | .messages, st => st = .idle

/-- The disciplines of the two threads. -/
noncomputable def updateRules (P : CldProtocol) : Party → Discipline (Op P) (Ans P) Taking
  | .daemon => takingRule P
  | .messages => markRule P

theorem updateWatch_taking (o : Op P) (x : Ans P o) (g : UpdateNote) :
    (updateWatch P .daemon o x g).taking = g.taking.next o x := by
  cases o <;> rfl

theorem updateWatch_messages (o : Op P) (x : Ans P o) (g : UpdateNote) :
    (updateWatch P .messages o x g).taking = g.taking := by
  unfold updateWatch
  split <;> first | rfl | simp_all

/-- The disciplines are kept. -/
def UpdateDuo.Kept (c : UpdateDuo P) : Prop :=
  Duo.Kept (updateRules P) (fun _ => .idle) UpdatePhase c

theorem updateStart_kept : (updateStart w₀).Kept := by
  intro t
  refine ⟨.idle, rfl, ?_⟩
  cases t <;> rfl

theorem OnlineStep.kept (hs : OnlineStep c a c') (hk : c.Kept) : c'.Kept := by
  refine Duo.Kept.step hk obeys_taking obeys_mark (fun t o i x w' s f _ hf hΦ => ?_)
    (fun t o i x w' _ _ s t' ht _ _ hΦ => ?_) hs.1
  · cases t with
    | daemon =>
      obtain ⟨-, rfl⟩ := Discipline.ofRule_eq_some.1 hf
      change (updateWatch P .daemon o x c.shared.note).taking = s.next o x
      rw [updateWatch_taking, show c.shared.note.taking = s from hΦ]
    | messages =>
      obtain ⟨-, rfl⟩ := markRule_eq hf
      exact hΦ
  · cases t' with
    | messages => exact hΦ
    | daemon =>
      cases t with
      | daemon => exact absurd rfl ht
      | messages =>
        change (updateWatch P .messages o x c.shared.note).taking = s
        rw [updateWatch_messages]
        exact hΦ

/-- What a step can do to the note and the flag; the third argument says whether it is the
daemon clearing the flag. -/
inductive FlagStep : UpdateNote → Bool → Bool → UpdateNote → Bool → Prop
  | quiet (g : UpdateNote) (u : Bool) : FlagStep g u false g u
  | marked (g : UpdateNote) (u : Bool) : FlagStep g u false ⟨g.taking, true⟩ true
  | looked (p u : Bool) : FlagStep ⟨.idle, p⟩ u false ⟨.read u, p⟩ u
  | cleared (b p u : Bool) :
      FlagStep ⟨.read b, p⟩ u true ⟨if b = true then .taken else .idle, p⟩ false
  | built (p u : Bool) : FlagStep ⟨.taken, p⟩ u false ⟨.idle, false⟩ u

/-- What the daemon does to them. -/
theorem flagStep_daemon (ho : g.taking.Allows o) (hH : handle P o i w = some (x, w')) :
    FlagStep g w.cloud.update o.clears (updateWatch P .daemon o x g) w'.cloud.update := by
  obtain ⟨taking, pending⟩ := g
  cases taking with
  | read b =>
    obtain rfl : o = .setUpdate false := ho
    cases hH
    exact .cleared b pending w.cloud.update
  | taken =>
    obtain rfl : o = .get := ho
    cases hH
    have hnote : updateWatch P .daemon .get w.cloud ⟨.taken, pending⟩ = ⟨.idle, false⟩ := by
      cases pending <;> rfl
    rw [hnote]
    exact .built pending w.cloud.update
  | idle =>
    have hspare : o.SparesFlags := by
      cases o <;> trivial
    rw [handle_update hH hspare]
    cases o with
    | getUpdate =>
      cases hH
      exact .looked pending w.cloud.update
    | setUpdate b => exact ho.elim
    | get =>
      have hnote : updateWatch P .daemon .get x ⟨.idle, pending⟩ = ⟨.idle, pending⟩ := by
        cases pending <;> rfl
      rw [hnote]
      exact .quiet _ _
    | _ => exact .quiet _ _

/-- What a handler does to them. -/
theorem flagStep_messages (ho : MarkAllows o) (hH : handle P o i w = some (x, w')) :
    FlagStep g w.cloud.update false (updateWatch P .messages o x g) w'.cloud.update := by
  have hspare : o.SparesFlags := by
    cases o <;> trivial
  rw [handle_update hH hspare]
  cases o with
  | setUpdate b =>
    obtain rfl : b = true := ho
    exact .marked g _
  | _ => exact .quiet g _

/-- **What a step does to the note and the flag.** -/
theorem OnlineStep.flagStep (hs : OnlineStep c a c') (hk : c.Kept) :
    FlagStep c.shared.note c.shared.world.cloud.update ((c.does .daemon a).any Op.clears)
      c'.shared.note c'.shared.world.cloud.update := by
  cases a with
  | iterate =>
    rw [Threads.begin_shared hs.1]
    exact .quiet _ _
  | deliver m =>
    rw [Threads.begin_shared hs.1]
    exact .quiet _ _
  | exec t i =>
    obtain ⟨o, f, st, x, hdoes, hphase, hf, hH, hnote⟩ := hk.exec hs.1
    rw [hnote]
    cases t with
    | daemon =>
      have hst : c.shared.note.taking = st := hphase
      rw [hdoes]
      exact flagStep_daemon (hst ▸ (Discipline.ofRule_eq_some.1 hf).1) hH
    | messages => exact flagStep_messages (markRule_eq hf).1 hH

/-- A flag that is set although the daemon has read 0 was set by a handler. -/
def UpdateNote.Known (g : UpdateNote) (u : Bool) : Prop :=
  g.taking = .read false → u = true → g.pending = true

section Note

variable {u u' clears : Bool} {g' : UpdateNote}

theorem FlagStep.known (hs : FlagStep g u clears g' u') (hknown : g.Known u) : g'.Known u' := by
  unfold UpdateNote.Known at hknown ⊢
  cases hs with
  | quiet _ _ => exact hknown
  | marked _ _ => exact fun _ _ => rfl
  | looked p u =>
    intro hr hu
    rw [hu] at hr
    cases hr
  | cleared b p u =>
    intro _ hu
    cases hu
  | built p u => exact nofun

/-- The law is kept unless the flag is cleared by a daemon that has read it as 0, and it is
set. -/
theorem FlagStep.kept_iff (hs : FlagStep g u clears g' u') (hknown : g.Known u)
    (hlaw : g.Kept u) :
    g'.Kept u' ↔ ¬ (clears = true ∧ g.taking = .read false ∧ u = true) := by
  unfold UpdateNote.Kept at hlaw ⊢
  unfold UpdateNote.Known at hknown
  cases hs with
  | quiet _ _ =>
    apply iff_of_true hlaw
    rintro ⟨hc, -⟩
    cases hc
  | marked _ _ =>
    apply iff_of_true (fun _ => Or.inl rfl)
    rintro ⟨hc, -⟩
    cases hc
  | looked p u =>
    refine iff_of_true (fun hp => ?_) ?_
    · rcases hlaw hp with hu | hr | ht
      · exact Or.inl hu
      · cases hr
      · cases ht
    · rintro ⟨hc, -⟩
      cases hc
  | built p u =>
    apply iff_of_true nofun
    rintro ⟨hc, -⟩
    cases hc
  | cleared b p u =>
    by_cases hb : b = true
    · rw [if_pos hb]
      refine iff_of_true (fun _ => Or.inr (Or.inr rfl)) ?_
      rintro ⟨-, hr, -⟩
      rw [hb] at hr
      cases hr
    · obtain rfl : b = false := by simpa using hb
      rw [if_neg hb]
      constructor
      · rintro hkept ⟨-, -, hu⟩
        rcases hkept (hknown rfl hu) with hu' | hr | ht
        · cases hu'
        · cases hr
        · cases ht
      · intro hc hp
        rcases hlaw hp with hu | hr | ht
        · exact absurd ⟨rfl, rfl, hu⟩ hc
        · cases hr
        · cases ht

end Note

/-- What holds in every state of a run, whether or not the law does. -/
structure UpdateInv (c : UpdateDuo P) : Prop where
  kept : c.Kept
  known : c.shared.note.Known c.shared.world.cloud.update

theorem OnlineStep.inv (hs : OnlineStep c a c') (hi : UpdateInv c) : UpdateInv c' :=
  ⟨hs.kept hi.kept, (hs.flagStep hi.kept).known hi.known⟩

/-- **One step.**  The law is kept by every step that does not clear the flag unread, and
broken by every step that does. -/
theorem OnlineStep.keeps_iff (hs : OnlineStep c a c') (hi : UpdateInv c)
    (hlaw : UpdateKept c) : UpdateKept c' ↔ ¬ ClearsUnread ⟨c, a, c'⟩ :=
  (hs.flagStep hi.kept).kept_iff hi.known hlaw

/-- **When no pending update is lost.**  While the device stays connected over an open
socket, the law holds in every state of a run exactly if no step of it clears the flag
unread. -/
theorem updateKept_iff (hp : Path OnlineStep (updateStart w₀) h c) :
    (∀ m ∈ h, UpdateKept m.post) ↔ ∀ m ∈ h, ¬ ClearsUnread m := by
  refine hp.forall_iff (fun c => UpdateInv c ∧ UpdateKept c)
    ⟨⟨updateStart_kept, nofun⟩, fun hpending => by cases hpending⟩ ?_
  intro m _ hs ⟨hi, hkept⟩
  have hiff := hs.keeps_iff hi hkept
  exact ⟨hiff, fun hc => ⟨hs.inv hi, hiff.2 hc⟩⟩

end Law

/-! ## Two runs -/

/-- A step of a script, while the device stays online. -/
def onlineStep (c : UpdateDuo P) (a : DuoAct) : Option (UpdateDuo P) :=
  if Online c.shared.world then
    (duoStep (updateWatch P) c a).filter fun c' => decide (Online c'.shared.world)
  else none

theorem onlineStep_eq {c c' : UpdateDuo P} {a : DuoAct} (h : onlineStep c a = some c') :
    OnlineStep c a c' := by
  unfold onlineStep at h
  by_cases hc : Online c.shared.world
  · rw [if_pos hc, Option.filter_eq_some_iff] at h
    exact ⟨h.1, hc, of_decide_eq_true h.2⟩
  · rw [if_neg hc] at h
    cases h

/-- A change of the password is announced, from beginning to end. -/
def announcement : List DuoAct :=
  .deliver (.passwordChange (some (CStr.lit "pw"))) :: List.replicate 7 (.exec .messages .none)

/-- The daemon begins an iteration and comes to the point where it has read the flag. -/
def lookAtFlag : List DuoAct := .iterate :: List.replicate 6 (.exec .daemon .none)

/-- An announcement that comes before the daemon looks at the flag is kept until the payload
is built. -/
theorem updateKept_iff_taken : ∃ h c,
    Path OnlineStep (updateStart (onlineWorld sampleProtocol)) h c ∧
      (∀ m ∈ h, UpdateKept m.post) ∧ c.shared.note = ⟨.taken, true⟩ := by
  obtain ⟨h, c, hp, hcalm, hnote⟩ : ∃ h c,
      Path OnlineStep (updateStart (onlineWorld sampleProtocol)) h c ∧
        (∀ m ∈ h, ¬ ClearsUnread m) ∧ c.shared.note = ⟨.taken, true⟩ :=
    exists_replay (fun _ _ _ => onlineStep_eq)
      (announcement ++ lookAtFlag ++ [.exec .daemon .none])
      (fun r => (∀ m ∈ r.1, ¬ ClearsUnread m) ∧ r.2.shared.note = ⟨.taken, true⟩)
      (by decide +kernel)
  exact ⟨h, c, hp, (updateKept_iff hp).2 hcalm, hnote⟩

/-- An announcement that comes between the daemon's looking at the flag and its clearing it
is lost. -/
theorem update_lost : ∃ h c,
    Path OnlineStep (updateStart (onlineWorld sampleProtocol)) h c ∧
      ¬ (∀ m ∈ h, UpdateKept m.post) :=
  exists_replay (fun _ _ _ => onlineStep_eq)
    (lookAtFlag ++ announcement ++ [.exec .daemon .none])
    (fun r => ¬ ∀ m ∈ r.1, UpdateKept m.post) (by decide +kernel)

end SwCloud
