import Lpt.Base.Transition
import Lpt.Cloud.Trace

/-!
# Runs of the module

A step is one iteration of the daemon, one message handler, or one call from another
module, carried out without interruption and with any outcome of the network.  A run
starts after `cloud_init` and `cloud_start`, with any configuration, and takes steps in
any order.  `Moves` sums up what the single steps come to; the laws of the following
modules are proved by going through its cases.
-/

namespace SwCloud

open CLib Effect Trans

variable {P : CldProtocol}

/-! ## Steps -/

/-- What can be done next. -/
inductive Action where
  /-- One iteration of `cloud_daemon`. -/
  | daemon
  /-- `MSG_SYSTEM_NAME_CHANGE`. -/
  | sysnameChange (arg : Option CStr)
  /-- `MSG_NETCONF_IP_CHANGE` and `MSG_NETCONF_GW_CHANGE`. -/
  | networkChange (arg : Option CStr)
  /-- `MSG_UM_DEFAULT_ADMIN_PASSWORD_CHANGE`. -/
  | passwordChange (arg : Option CStr)
  /-- `MSG_UPNP_INFO_STREAM_SERVER_CHANGE`. -/
  | upnpChange (arg : Option CStr)
  | regUsr (account username password : Option CStr)
  | bind (user password devicename : Option CStr)
  | ubind
  | ping
  deriving DecidableEq

/-- The program of an action. -/
def Action.prog (P : CldProtocol) : Action → CloudM P Unit
  | .daemon => cloudDaemon
  | .sysnameChange arg => msgSysnameChange arg
  | .networkChange arg => msgNetworkChange arg
  | .passwordChange arg => msgPasswordChange arg
  | .upnpChange arg => msgUpnpChange arg
  | .regUsr account username password => do
      let _ ← swCloudRegUsr account username password
      return ()
  | .bind user password devicename => do
      let _ ← swCloudBind user password devicename
      return ()
  | .ubind => do
      let _ ← swCloudUBind
      return ()
  | .ping => do
      let _ ← swCloudPing
      return ()

/-- One step: the action is carried out from beginning to end. -/
def Step (w : World P) (a : Action) (w' : World P) : Prop := Runs (a.prog P) w () w'

/-- The world after `cloud_init` and `cloud_start`. -/
def start (f : Conf P) (s : SysInfo P) : World P := ⟨cloudStart s (cloudInit f), f, [], []⟩

/-- A run, with its steps, newest first. -/
abbrev Run (f : Conf P) (s : SysInfo P) (h : List (Move (World P) Action)) (w : World P) : Prop :=
  Path Step (start f s) h w

/-! ## Runs against a script -/

/-- Carry out actions one after the other, each against its own script; the steps so far
are `h`. -/
def replayRun (w : World P) :
    List (Action × List Input) → List (Move (World P) Action) →
      Option (List (Move (World P) Action) × World P)
  | [], h => some (h, w)
  | (a, is) :: rest, h =>
      ((a.prog P).replay (handle P) (quiet P) is w).bind fun r =>
        replayRun r.2 rest (⟨w, a, r.2⟩ :: h)

/-- What a script shows is a run. -/
theorem replayRun_path {w₀ w w' : World P} {h h' : List (Move (World P) Action)}
    {script : List (Action × List Input)} (hp : Path Step w₀ h w)
    (hr : replayRun w script h = some (h', w')) : Path Step w₀ h' w' := by
  induction script generalizing w h with
  | nil =>
    simp only [replayRun, Option.some.injEq, Prod.mk.injEq] at hr
    obtain ⟨rfl, rfl⟩ := hr
    exact hp
  | cons x rest ih =>
    obtain ⟨r, hr₁, hr₂⟩ := Option.bind_eq_some_iff.1 hr
    exact ih (hp.snoc (Prog.replay_outcome hr₁)) hr₂

/-- A script from the start that shows a run with the property `Q`. -/
theorem exists_run (f : Conf P) (s : SysInfo P) (script : List (Action × List Input))
    (Q : List (Move (World P) Action) × World P → Prop) [DecidablePred Q]
    (hq : (replayRun (start f s) script []).any (fun r => decide (Q r)) = true) :
    ∃ h w, Run f s h w ∧ Q (h, w) := by
  cases hr : replayRun (start f s) script [] with
  | none => rw [hr] at hq; cases hq
  | some r =>
    rw [hr] at hq
    exact ⟨r.1, r.2, replayRun_path .start hr, of_decide_eq_true hq⟩

/-- A script from `w` that shows an outcome of the program `p` with the property `Q`. -/
theorem exists_outcome {α : Type} (p : CloudM P α) (w : World P) (is : List Input)
    (Q : α × World P → Prop) [DecidablePred Q]
    (hq : (p.replay (handle P) (quiet P) is w).any (fun r => decide (Q r)) = true) :
    ∃ a w', Runs p w a w' ∧ Q (a, w') :=
  Prog.exists_outcome is Q hq

/-- A device that is bound and connected over the descriptor 3. -/
def onlineWorld (P : CldProtocol) : World P :=
  let f : Conf P := ⟨.zero, .zero, 0, 0⟩
  ⟨{ cloudInit f with status := .connected, binded := true, fd := 3 }, f, [3], []⟩

/-- A configuration to start from: an account, a password, and a retry interval of one
second. -/
def sampleConf (account password : CStr) : Conf sampleProtocol :=
  ⟨.snprintf account, .snprintf password, 1, 20⟩

/-- A device to start with. -/
def sampleInfo : SysInfo sampleProtocol :=
  ⟨.snprintf (CStr.lit "01"), .snprintf (CStr.lit "cam"), .snprintf (CStr.lit "m"),
    .snprintf (CStr.lit "a"), .snprintf (CStr.lit "b"), CStr.lit "null"⟩

/-- The inputs of a successful `cloud_do_connect`. -/
def connectInputs (fd : ℤ) : List Input := [.int fd, .int 0, .int 1]

/-- The inputs of a request of at most 56 bytes and its reply. -/
def replyInputs (reply : CStr) : List Input :=
  [.bytes [], .writes [.sent 64], .reads (sampleEnc ⟨77, 1, 0, 2, 1⟩ ++ store [0, 0, 0, 0] 0
    reply.bytes) [.data 8, .data 4]]

/-- The inputs of an iteration of the daemon that connects. -/
def connectedInputs (fd : ℤ) : List Input :=
  connectInputs fd ++ replyInputs (CStr.lit "OK") ++ replyInputs (CStr.lit "OK")

/-- The inputs of `swCloudRegUsr` when the device is not connected and the request is
answered with `OK`. -/
def regUsrInputs (fd : ℤ) : List Input :=
  connectInputs fd ++ .bytes (List.replicate 36 0) :: replyInputs (CStr.lit "OK")

/-- The inputs of `swCloudBind` when every request is answered with `OK`. -/
def bindInputs (fd : ℤ) : List Input :=
  connectInputs fd ++ replyInputs (CStr.lit "OK") ++ .bytes (List.replicate 36 0) ::
    replyInputs (CStr.lit "OK") ++ replyInputs (CStr.lit "OK")

/-! ## What the steps come to -/

/-- The change of the device information that a handler is asked for. -/
def Action.notice (P : CldProtocol) : Action → Option (DevInfo P → DevInfo P)
  | .sysnameChange (some arg) => some (sysnameInfo arg)
  | .passwordChange (some arg) => some (passwordInfo arg)
  | .upnpChange (some arg) => some (upnpInfo (upnpBuf arg))
  | _ => none

/-- The actions that are more than a message, and have all their arguments. -/
def Action.active : Action → Bool
  | .daemon | .ubind | .ping => true
  | .regUsr (some _) (some _) (some _) => true
  | .bind (some _) (some _) (some _) => true
  | _ => false

/-- Everything that can become of a step. -/
inductive Moves (w : World P) : Action → World P → Prop
  | daemon {w' : World P} : DaemonStep w w' → Moves w .daemon w'
  | notice {a : Action} {f : DevInfo P → DevInfo P} : a.notice P = some f →
      w.cloud.status = .connected → Moves w a (w.notified f)
  | restart {arg : CStr} : w.cloud.status = .connected →
      Moves w (.networkChange (some arg)) w.restarted
  /-- A message that is not looked at, or a call without its arguments. -/
  | ignored {a : Action} : a.active = false →
      (w.cloud.status = .connected → a.notice P = none) → Moves w a w
  | regUsr {account username password : CStr} {r : CommonStatus} {w' : World P} :
      RegUsrStep account username password w r w' →
      Moves w (.regUsr (some account) (some username) (some password)) w'
  | bind {user password devicename : CStr} {r : CommonStatus} {w' : World P} :
      BindStep user password devicename w r w' →
      Moves w (.bind (some user) (some password) (some devicename)) w'
  | ubind {r : CommonStatus} {w' : World P} : UBindStep w r w' → Moves w .ubind w'
  | ping : Moves w .ping w.pinged

section Lemmas

variable {w w' : World P} {a : Action}

/-- The announcements, for all three handlers. -/
theorem moves_delivered {arg : Option CStr} (f : CStr → DevInfo P → DevInfo P)
    (ha : a.active = false) (hn : a.notice P = arg.map f) :
    Moves w a (w.delivered arg fun arg w => w.notified (f arg)) := by
  cases arg with
  | none => exact .ignored ha fun _ => hn
  | some arg =>
    rw [World.delivered]
    split
    · exact .notice hn ‹_›
    · exact .ignored ha fun h => absurd h ‹_›

/-- **Everything that can become of a step.** -/
theorem Step.moves (h : Step w a w') : Moves w a w' := by
  cases a with
  | daemon => exact .daemon (runs_cloudDaemon h)
  | sysnameChange arg =>
    rw [runs_msgSysnameChange.1 h]
    exact moves_delivered sysnameInfo rfl (by cases arg <;> rfl)
  | passwordChange arg =>
    rw [runs_msgPasswordChange.1 h]
    exact moves_delivered passwordInfo rfl (by cases arg <;> rfl)
  | upnpChange arg =>
    rw [runs_msgUpnpChange.1 h]
    exact moves_delivered (fun arg => upnpInfo (upnpBuf arg)) rfl (by cases arg <;> rfl)
  | networkChange arg =>
    rw [runs_msgNetworkChange.1 h]
    cases arg with
    | none => exact .ignored rfl fun _ => rfl
    | some arg =>
      rw [World.delivered]
      split
      · exact .restart ‹_›
      · exact .ignored rfl fun _ => rfl
  | regUsr account username password =>
    obtain ⟨r, _, h, -, rfl⟩ := runs_bind.1 h
    rcases account with _ | account
    · rw [runs_swCloudRegUsr_none (by simp) h]
      exact .ignored rfl fun _ => rfl
    rcases username with _ | username
    · rw [runs_swCloudRegUsr_none (by simp) h]
      exact .ignored rfl fun _ => rfl
    rcases password with _ | password
    · rw [runs_swCloudRegUsr_none (by simp) h]
      exact .ignored rfl fun _ => rfl
    exact .regUsr (runs_swCloudRegUsr h)
  | bind user password devicename =>
    obtain ⟨r, _, h, -, rfl⟩ := runs_bind.1 h
    rcases user with _ | user
    · rw [runs_swCloudBind_none (by simp) h]
      exact .ignored rfl fun _ => rfl
    rcases password with _ | password
    · rw [runs_swCloudBind_none (by simp) h]
      exact .ignored rfl fun _ => rfl
    rcases devicename with _ | devicename
    · rw [runs_swCloudBind_none (by simp) h]
      exact .ignored rfl fun _ => rfl
    exact .bind (runs_swCloudBind h)
  | ubind =>
    obtain ⟨r, _, h, -, rfl⟩ := runs_bind.1 h
    exact .ubind (runs_swCloudUBind h)
  | ping =>
    obtain ⟨r, _, h, -, rfl⟩ := runs_bind.1 h
    rw [(runs_swCloudPing h).2]
    exact .ping

end Lemmas

end SwCloud
