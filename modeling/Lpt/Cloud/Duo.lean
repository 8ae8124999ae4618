import Lpt.Base.Transition
import Lpt.Cloud.Phrases
import Lpt.Cloud.Run
import Lpt.Cloud.Trace

/-!
# The daemon and the message thread

The daemon goes round its loop; the message thread runs one handler after another.  Both
work on the same struct, and the laws about the two are laws about every order of their
operations.

* `Duo` — the two threads, one operation at a time, and the mutex, with a note that a
  `Watch` keeps of what has been done.  The note is for the laws only: no program sees it.
* `duoStep` — an iteration begins, a message is delivered, or a thread carries out its next
  operation.
* `Duo.Kept` — disciplines of the two threads; `Kept.step` says when a step keeps them.
-/

namespace SwCloud

open CLib Effect Trans

variable {P : CldProtocol} {G S : Type}

/-- The two threads. -/
inductive Party where
  /-- The thread of `cloud_daemon`. -/
  | daemon
  /-- The thread that delivers messages. -/
  | messages
  deriving DecidableEq

/-- The messages from other modules. -/
inductive Message where
  | sysnameChange (arg : Option CStr)
  | networkChange (arg : Option CStr)
  | passwordChange (arg : Option CStr)
  | upnpChange (arg : Option CStr)

/-- The handler of a message. -/
def Message.prog (P : CldProtocol) : Message → CloudM P Unit
  | .sysnameChange arg => msgSysnameChange arg
  | .networkChange arg => msgNetworkChange arg
  | .passwordChange arg => msgPasswordChange arg
  | .upnpChange arg => msgUpnpChange arg

/-- What holds of the phrases of the handlers holds of them. -/
theorem Handling.message {T : (α : Type) → CloudM P α → Prop} (h : Handling T) (m : Message) :
    T _ (m.prog P) := by
  cases m with
  | sysnameChange arg => exact h.msgSysnameChange arg
  | networkChange arg => exact h.msgNetworkChange arg
  | passwordChange arg => exact h.msgPasswordChange arg
  | upnpChange arg => exact h.msgUpnpChange arg

/-- What the two threads share, and the note. -/
structure Watched (P : CldProtocol) (G : Type) where
  world : World P
  /-- The thread that holds `cloud.lock`. -/
  holder : Option Party
  note : G

/-- How the note changes with an operation of a thread and its answer. -/
abbrev Watch (P : CldProtocol) (G : Type) : Type := Party → (o : Op P) → Ans P o → G → G

/-- Who holds `cloud.lock` after an operation of the thread `t`; a thread that asks for it
while it is held has to wait. -/
def lockStep (t : Party) (holder : Option Party) : Op P → Option (Option Party)
  | .lock => if holder = none then some (some t) else none
  | .unlock => some none
  | _ => some holder

/-- What an operation of the thread `t` does. -/
def watchHandle (watch : Watch P G) (t : Party) : Handler (Op P) (Ans P) Input (Watched P G) :=
  fun o i s => (lockStep t s.holder o).bind fun holder =>
    (handle P o i s.world).map fun r => (r.1, ⟨r.2, holder, watch t o r.1 s.note⟩)

/-- The two threads over the shared world. -/
abbrev Duo (P : CldProtocol) (G : Type) : Type := Threads Party (Op P) (Ans P) (Watched P G)

/-- What can happen next. -/
inductive DuoAct where
  /-- The daemon begins an iteration. -/
  | iterate
  /-- A message is delivered. -/
  | deliver (m : Message)
  /-- A thread carries out its next operation. -/
  | exec (t : Party) (i : Input)

/-- One step.  A thread begins something only when it has nothing left to do. -/
def duoStep (watch : Watch P G) (c : Duo P G) : DuoAct → Option (Duo P G)
  | .iterate => c.begin .daemon cloudDaemon
  | .deliver m => c.begin .messages (m.prog P)
  | .exec t i => c.exec (watchHandle watch) t i

/-- What the thread `t` carries out in a step. -/
def Duo.does (c : Duo P G) (t : Party) : DuoAct → Option (Op P)
  | .exec u _ => if u = t then (c.prog t).next else none
  | _ => none

/-- Both threads wait. -/
def duoStart (w : World P) (g : G) : Duo P G := ⟨⟨w, none, g⟩, fun _ => .ret ()⟩

/-! ## The flags -/

/-- A change of the struct, if it is one, is not one of the status or of the update flag. -/
def Op.SparesFlags : Op P → Prop
  | .modify f => KeepsFlags f
  | _ => True

/-- The update flag after an operation. -/
def Op.updateAfter (u : Bool) : Op P → Bool
  | .setUpdate b => b
  | _ => u

/-- The status after an operation. -/
def Op.statusAfter (s : Status) : Op P → Status
  | .setStatus st => st
  | _ => s

section Flags

variable {o : Op P} {i : Input} {x : Ans P o} {w w' : World P}

theorem handle_update (h : handle P o i w = some (x, w')) (ho : o.SparesFlags) :
    w'.cloud.update = o.updateAfter w.cloud.update := by
  by_cases hw : o.writes
  · cases o with
    | modify f =>
      cases h
      exact (ho _).2
    | setStatus s =>
      cases h
      rfl
    | setUpdate b =>
      cases h
      rfl
    | _ => exact hw.elim
  · rw [handle_cloud h hw]
    cases o <;> first | rfl | exact absurd trivial hw

theorem handle_status (h : handle P o i w = some (x, w')) (ho : o.SparesFlags) :
    w'.cloud.status = o.statusAfter w.cloud.status := by
  by_cases hw : o.writes
  · cases o with
    | modify f =>
      cases h
      exact (ho _).1
    | setStatus s =>
      cases h
      rfl
    | setUpdate b =>
      cases h
      rfl
    | _ => exact hw.elim
  · rw [handle_cloud h hw]
    cases o <;> first | rfl | exact absurd trivial hw

end Flags

/-! ## Steps -/

section Steps

variable {watch : Watch P G} {c c' : Duo P G} {a : DuoAct} {t : Party} {i : Input}

/-- What an operation of a thread does, apart from the mutex. -/
theorem watchHandle_eq {o : Op P} {x : Ans P o} {s s' : Watched P G}
    (h : watchHandle watch t o i s = some (x, s')) :
    handle P o i s.world = some (x, s'.world) ∧ s'.note = watch t o x s.note := by
  unfold watchHandle at h
  obtain ⟨holder, -, h⟩ := Option.bind_eq_some_iff.1 h
  obtain ⟨⟨y, w'⟩, hH, heq⟩ := Option.map_eq_some_iff.1 h
  cases heq
  exact ⟨hH, rfl⟩

variable {D : Party → Discipline (Op P) (Ans P) S} {idle : Party → S}
  {Φ : World P → G → Party → S → Prop}

/-- The disciplines of the two threads are kept, and the world and the note are as `Φ` says
for the states they are in. -/
def Duo.Kept (D : Party → Discipline (Op P) (Ans P) S) (idle : Party → S)
    (Φ : World P → G → Party → S → Prop) (c : Duo P G) : Prop :=
  c.DisciplinedBy D idle fun s t st => Φ s.world s.note t st

/-- **The disciplines are kept by every step**, if the programs keep to them and single
operations do what they say. -/
theorem Duo.Kept.step (hd : c.Kept D idle Φ)
    (hdaemon : (cloudDaemon : CloudM P Unit).Obeys (D .daemon) (idle .daemon) (idle .daemon))
    (hmsg : ∀ m : Message, (m.prog P).Obeys (D .messages) (idle .messages) (idle .messages))
    (hown : ∀ t o i x w' s f, handle P o i c.shared.world = some (x, w') → D t s o = some f →
      Φ c.shared.world c.shared.note t s → Φ w' (watch t o x c.shared.note) t (f x))
    (hother : ∀ t o i x w' u f s t', t' ≠ t → handle P o i c.shared.world = some (x, w') →
      D t u o = some f → Φ c.shared.world c.shared.note t' s →
        Φ w' (watch t o x c.shared.note) t' s)
    (h : duoStep watch c a = some c') : c'.Kept D idle Φ := by
  cases a with
  | iterate => exact Threads.DisciplinedBy.begin hd hdaemon h
  | deliver m => exact Threads.DisciplinedBy.begin hd (hmsg m) h
  | exec t i =>
    refine Threads.DisciplinedBy.exec hd h (fun o x s' s f _ hH hf hΦ => ?_)
      fun o x s' u f s t' ht _ hH hf hΦ => ?_
    · obtain ⟨hH, hnote⟩ := watchHandle_eq hH
      rw [hnote]
      exact hown t o i x s'.world s f hH hf hΦ
    · obtain ⟨hH, hnote⟩ := watchHandle_eq hH
      rw [hnote]
      exact hother t o i x s'.world u f s t' ht hH hf hΦ

/-- **What a thread does in a step**, and the state of its discipline. -/
theorem Duo.Kept.exec (hk : c.Kept D idle Φ) (h : duoStep watch c (.exec t i) = some c') :
    ∃ o f st x, c.does t (.exec t i) = some o ∧ Φ c.shared.world c.shared.note t st ∧
      D t st o = some f ∧ handle P o i c.shared.world = some (x, c'.shared.world) ∧
      c'.shared.note = watch t o x c.shared.note := by
  obtain ⟨o, k, x, s', hp, hwatch, rfl⟩ := Threads.exec_eq h
  obtain ⟨st, hobeys, hΦ⟩ := hk t
  rw [hp] at hobeys
  obtain ⟨f, hf, -⟩ := hobeys
  obtain ⟨hH, hnote⟩ := watchHandle_eq hwatch
  refine ⟨o, f, st, x, ?_, hΦ, hf, hH, hnote⟩
  unfold Duo.does
  rw [hp]
  exact if_pos rfl

end Steps

end SwCloud
