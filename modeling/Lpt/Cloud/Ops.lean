import Lpt.Cloud.World

/-!
# The operations as programs, and what each of them does

One program and one lemma for each operation of `Op`.  The lemmas say exactly
which answers and which next worlds are possible; they are simp lemmas, so that
the outcome of a whole function is computed from its text.
-/

namespace SwCloud

open CLib Effect

variable {P : CldProtocol}

/-- Ask for one operation. -/
def perform (o : Op P) : CloudM P (Ans P o) := Prog.call o

/-- The struct, read in one access. -/
def getCloud : CloudM P (Cloud P) := perform .get

/-- The struct, changed in one access. -/
def modifyCloud (f : Cloud P → Cloud P) : CloudM P Unit := perform (.modify f)

def getStatus : CloudM P Status := perform .getStatus
def setStatus (s : Status) : CloudM P Unit := perform (.setStatus s)
def getUpdate : CloudM P Bool := perform .getUpdate
def setUpdate (b : Bool) : CloudM P Unit := perform (.setUpdate b)
def lock : CloudM P Unit := perform .lock
def unlock : CloudM P Unit := perform .unlock
def socket : CloudM P ℤ := perform .socket
def connect (fd : ℤ) : CloudM P ℤ := perform (.connect fd)
def readGreeting (fd : ℤ) : CloudM P ℤ := perform (.readGreeting fd)
def close (fd : ℤ) : CloudM P Unit := perform (.close fd)
def tcpWritePacket (fd : ℤ) (hdr : CldHdr) (payload : List UInt8) : CloudM P ℤ :=
  perform (.tcpWrite fd hdr payload)
def recvPacket (rc : Receiver) (fd : ℤ) (res : List UInt8) : CloudM P (ℤ × List UInt8) :=
  perform (.recvPacket rc fd res)
def select (fd mwait : ℤ) : CloudM P SelectRes := perform (.select fd mwait)
def sleep (mwait : ℤ) : CloudM P Unit := perform (.sleep mwait)
def stack (n : ℕ) : CloudM P (List UInt8) := perform (.stack n)
def logTooLarge (cmd : ℕ) : CloudM P Unit := perform (.logTooLarge cmd)
def crash : CloudM P Unit := perform .crash
def sysConfGetLong (key : CfgLong) : CloudM P ℤ := perform (.sysConfGetLong key)
def sysConfSetString (key : CfgString) (v : Field P.cloudNameLen) : CloudM P Unit :=
  perform (.sysConfSetString key v)
def swSystemSetProductName (name : CStr) : CloudM P CommonStatus :=
  perform (.swSystemSetProductName name)
def swSystemSetProductNameCheck (name : CStr) : CloudM P CommonStatus :=
  perform (.swSystemSetProductNameCheck name)
def swVideoCtrlGetResolution : CloudM P (ℤ × ℤ) := perform .swVideoCtrlGetResolution
def swVideoCtrlSetResolution (width height : ℤ) : CloudM P ℤ :=
  perform (.swVideoCtrlSetResolution width height)

/-- `cloud_set_status`. -/
def cloudSetStatus (s : Status) : CloudM P Unit := do
  lock
  setStatus s
  unlock

/-- `cloud_get_status`. -/
def cloudGetStatus : CloudM P Status := do
  lock
  let status ← getStatus
  unlock
  return status

/-- The outcomes of a program of this module. -/
abbrev Runs {α : Type} (p : CloudM P α) (w : World P) (a : α) (w' : World P) : Prop :=
  p.Outcome (handle P) w a w'

section Outcomes

variable {w w' : World P}

@[simp] theorem runs_bind {α β : Type} {p : CloudM P α} {f : α → CloudM P β} {b : β} :
    Runs (p >>= f) w b w' ↔ ∃ a w₁, Runs p w a w₁ ∧ Runs (f a) w₁ b w' := Prog.outcome_bind

@[simp] theorem runs_pure {α : Type} {a b : α} :
    Runs (pure a : CloudM P α) w b w' ↔ b = a ∧ w' = w := Iff.rfl

theorem runs_ite {α : Type} {c : Prop} [Decidable c] {p q : CloudM P α} {a : α} :
    Runs (if c then p else q) w a w' ↔ (c ∧ Runs p w a w') ∨ (¬ c ∧ Runs q w a w') :=
  Prog.outcome_ite

theorem runs_perform {o : Op P} {x : Ans P o} :
    Runs (perform o) w x w' ↔ ∃ i, handle P o i w = some (x, w') := Prog.outcome_call

/-- An operation that takes nothing from the environment has one outcome. -/
theorem runs_quiet {o : Op P} {x y : Ans P o} {w₁ : World P}
    (h : ∀ i, handle P o i w = some (x, w₁)) : Runs (perform o) w y w' ↔ y = x ∧ w' = w₁ := by
  refine runs_perform.trans ⟨?_, ?_⟩
  · rintro ⟨i, hi⟩
    rw [h i, Option.some.injEq, Prod.mk.injEq] at hi
    exact ⟨hi.1.symm, hi.2.symm⟩
  · rintro ⟨rfl, rfl⟩
    exact ⟨.none, h .none⟩

/-- The same for an operation without an answer. -/
theorem runs_quiet_unit {p : CloudM P Unit} {u : Unit} {w₁ : World P}
    (h : Runs p w u w' ↔ u = () ∧ w' = w₁) : Runs p w u w' ↔ w' = w₁ :=
  h.trans (and_iff_right rfl)

@[simp] theorem runs_getCloud {c : Cloud P} : Runs getCloud w c w' ↔ c = w.cloud ∧ w' = w :=
  runs_quiet fun _ => rfl

@[simp] theorem runs_modifyCloud {f : Cloud P → Cloud P} {u : Unit} :
    Runs (modifyCloud f) w u w' ↔ w' = w.modify f :=
  runs_quiet_unit (runs_quiet fun _ => rfl)

@[simp] theorem runs_getStatus {s : Status} :
    Runs getStatus w s w' ↔ s = w.cloud.status ∧ w' = w :=
  runs_quiet fun _ => rfl

@[simp] theorem runs_setStatus {s : Status} {u : Unit} :
    Runs (setStatus s) w u w' ↔ w' = w.modify fun c => { c with status := s } :=
  runs_quiet_unit (runs_quiet fun _ => rfl)

@[simp] theorem runs_getUpdate {b : Bool} :
    Runs getUpdate w b w' ↔ b = w.cloud.update ∧ w' = w :=
  runs_quiet fun _ => rfl

@[simp] theorem runs_setUpdate {b : Bool} {u : Unit} :
    Runs (setUpdate b) w u w' ↔ w' = w.modify fun c => { c with update := b } :=
  runs_quiet_unit (runs_quiet fun _ => rfl)

@[simp] theorem runs_lock {u : Unit} : Runs lock w u w' ↔ w' = w :=
  runs_quiet_unit (runs_quiet fun _ => rfl)

@[simp] theorem runs_unlock {u : Unit} : Runs unlock w u w' ↔ w' = w :=
  runs_quiet_unit (runs_quiet fun _ => rfl)

@[simp] theorem runs_close {fd : ℤ} {u : Unit} : Runs (close fd) w u w' ↔ w' = w.closed fd :=
  runs_quiet_unit (runs_quiet fun _ => rfl)

@[simp] theorem runs_sleep {t : ℤ} {u : Unit} : Runs (sleep t) w u w' ↔ w' = w :=
  runs_quiet_unit (runs_quiet fun _ => rfl)

@[simp] theorem runs_logTooLarge {cmd : ℕ} {u : Unit} :
    Runs (logTooLarge cmd) w u w' ↔ w' = w.log (.tooLarge cmd) :=
  runs_quiet_unit (runs_quiet fun _ => rfl)

@[simp] theorem runs_sysConfGetLong {key : CfgLong} {r : ℤ} :
    Runs (sysConfGetLong key) w r w' ↔ r = w.conf.getLong key ∧ w' = w :=
  runs_quiet fun _ => rfl

@[simp] theorem runs_sysConfSetString {key : CfgString} {v : Field P.cloudNameLen} {u : Unit} :
    Runs (sysConfSetString key v) w u w' ↔ w' = w.setConf key v :=
  runs_quiet_unit (runs_quiet fun _ => rfl)

@[simp] theorem not_runs_crash {u : Unit} : ¬ Runs crash w u w' := fun h => by
  obtain ⟨i, h⟩ := runs_perform.1 h
  cases h

@[simp] theorem runs_socket {fd : ℤ} :
    Runs socket w fd w' ↔ (fd = -1 ∧ w' = w.log (.socket (-1))) ∨
      (0 ≤ fd ∧ fd ∉ w.sockets ∧ w' = w.opened fd) := by
  refine runs_perform.trans ⟨?_, ?_⟩
  · rintro ⟨i, h⟩
    cases i with
    | int r =>
      change (if r = -1 then some (-1, w.log (.socket (-1)))
        else if 0 ≤ r ∧ r ∉ w.sockets then some (r, w.opened r) else none) = _ at h
      split_ifs at h with h1 h2
      · cases h; exact Or.inl ⟨rfl, rfl⟩
      · cases h; exact Or.inr ⟨h2.1, h2.2, rfl⟩
    | _ => cases h
  · rintro (⟨rfl, rfl⟩ | ⟨h0, hfd, rfl⟩)
    · exact ⟨.int (-1), rfl⟩
    · refine ⟨.int fd, ?_⟩
      change (if fd = -1 then some (-1, w.log (.socket (-1)))
        else if 0 ≤ fd ∧ fd ∉ w.sockets then some (fd, w.opened fd) else none) = _
      rw [if_neg (by omega), if_pos ⟨h0, hfd⟩]

/-- An operation to which the environment gives any answer. -/
theorem runs_free {o : Op P} {next : Ans P o → World P} {r : Ans P o}
    (hin : ∀ i x v, handle P o i w = some (x, v) → v = next x)
    (hout : ∀ x, ∃ i, handle P o i w = some (x, next x)) :
    Runs (perform o) w r w' ↔ w' = next r := by
  refine runs_perform.trans ⟨fun ⟨i, h⟩ => hin i r w' h, ?_⟩
  rintro rfl
  exact hout r

@[simp] theorem runs_connect {fd r : ℤ} :
    Runs (connect fd) w r w' ↔ w' = w.log (.connect fd r) :=
  runs_free (o := .connect fd) (fun i _ _ h => by cases i <;> cases h; rfl)
    fun r => ⟨.int r, rfl⟩

@[simp] theorem runs_readGreeting {fd r : ℤ} :
    Runs (readGreeting fd) w r w' ↔ w' = w.log (.greeting fd r) :=
  runs_free (o := .readGreeting fd) (fun i _ _ h => by cases i <;> cases h; rfl)
    fun r => ⟨.int r, rfl⟩

@[simp] theorem runs_select {fd t : ℤ} {r : SelectRes} :
    Runs (select fd t) w r w' ↔ w' = w :=
  runs_free (o := .select fd t) (fun i _ _ h => by cases i <;> cases h; rfl)
    fun r => ⟨.select r, rfl⟩

@[simp] theorem runs_stack {n : ℕ} {m : List UInt8} :
    Runs (stack n) w m w' ↔ m.length = n ∧ w' = w := by
  refine runs_perform.trans ⟨?_, ?_⟩
  · rintro ⟨i, h⟩
    cases i with
    | bytes m' =>
      change (if m'.length = n then some (m', w) else none) = _ at h
      split_ifs at h with hl
      cases h
      exact ⟨hl, rfl⟩
    | _ => cases h
  · rintro ⟨hl, rfl⟩
    exact ⟨.bytes m, if_pos hl⟩

@[simp] theorem runs_swSystemSetProductName {name : CStr} {r : CommonStatus} :
    Runs (swSystemSetProductName name) w r w' ↔ w' = w :=
  runs_free (o := .swSystemSetProductName name) (fun i _ _ h => by cases i <;> cases h; rfl)
    fun r => ⟨.status r, rfl⟩

@[simp] theorem runs_swSystemSetProductNameCheck {name : CStr} {r : CommonStatus} :
    Runs (swSystemSetProductNameCheck name) w r w' ↔ w' = w :=
  runs_free (o := .swSystemSetProductNameCheck name) (fun i _ _ h => by cases i <;> cases h; rfl)
    fun r => ⟨.status r, rfl⟩

@[simp] theorem runs_swVideoCtrlGetResolution {r : ℤ × ℤ} :
    Runs swVideoCtrlGetResolution w r w' ↔ w' = w :=
  runs_free (o := .swVideoCtrlGetResolution) (fun i _ _ h => by cases i <;> cases h; rfl)
    fun r => ⟨.ints r.1 r.2, rfl⟩

@[simp] theorem runs_swVideoCtrlSetResolution {a b r : ℤ} :
    Runs (swVideoCtrlSetResolution a b) w r w' ↔ w' = w :=
  runs_free (o := .swVideoCtrlSetResolution a b) (fun i _ _ h => by cases i <;> cases h; rfl)
    fun r => ⟨.int r, rfl⟩

@[simp] theorem runs_cloudSetStatus {s : Status} {u : Unit} :
    Runs (cloudSetStatus s) w u w' ↔ w' = w.modify fun c => { c with status := s } := by
  simp [cloudSetStatus]

@[simp] theorem runs_cloudGetStatus {s : Status} :
    Runs cloudGetStatus w s w' ↔ s = w.cloud.status ∧ w' = w := by
  simp [cloudGetStatus]

end Outcomes

end SwCloud
