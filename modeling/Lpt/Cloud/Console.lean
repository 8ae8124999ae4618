import Lpt.Base.Simulation
import Lpt.Cloud.Command
import Lpt.Cloud.Credentials
import Lpt.Cloud.Recovery

/-!
# The module as the rest of the device sees it

Other modules do not only call the module: the local tool sends it commands as texts, the
module framework resets it, and its state is asked for.  Each of these is a call in another
dress, or changes nothing, so what holds of every run of the calls holds of every run of all
of it; and the answer the tool gets for a command is the truth about what has become of it.

* `Query`, `ConsoleStep` — everything the module can be asked.
* `console_simulates` — each query is a call, or nothing.
* `command_answers` — what the answers to commands say.
-/

namespace SwCloud

open CLib Effect Trans

variable {P : CldProtocol}

/-- `cloud_reset`. -/
def cloudReset : CloudM P CommonStatus := swCloudUBind

/-! ## Queries -/

/-- What the module is asked for, and what it answers. -/
inductive Query where
  /-- The daemon goes on, a message is delivered, or another module makes a call. -/
  | act (a : Action)
  /-- `swCloudCommand`, with the memories of its arguments and what `output` is left with. -/
  | command (input output result : Option (List UInt8))
  | getStatus (result : Status)
  | bindStatus (result : ℤ)
  | reset (result : CommonStatus)

/-- One query is carried out from beginning to end. -/
def ConsoleStep (w : World P) : Query → World P → Prop
  | .act a, w' => Step w a w'
  | .command input output r, w' => Runs (swCloudCommand input output) w r w'
  | .getStatus r, w' => Runs swCloudGetStatus w r w'
  | .bindStatus r, w' => Runs swCloudDeviceBindStatus w r w'
  | .reset r, w' => Runs cloudReset w r w'

/-- A run of queries. -/
abbrev ConsoleRun (f : Conf P) (s : SysInfo P) (h : List (Move (World P) Query)) (w : World P) :
    Prop :=
  Path ConsoleStep (start f s) h w

/-- The call a query stands for. -/
inductive StandsFor : Move (World P) Query → Action → Prop
  | act {w w' : World P} {a : Action} : StandsFor ⟨w, .act a, w'⟩ a
  | register {w w' : World P} {input : List UInt8} {output r : Option (List UInt8)} {c : CldCmd} :
      cldcmdParse input = some c → startsWith c.mem c.cmd cRegister = true →
      StandsFor ⟨w, .command (some input) output r, w'⟩
        (.regUsr (some c.otherStr) (some c.usrStr) (some c.passStr))
  | bind {w w' : World P} {input : List UInt8} {output r : Option (List UInt8)} {c : CldCmd} :
      cldcmdParse input = some c → startsWith c.mem c.cmd cBind = true →
      StandsFor ⟨w, .command (some input) output r, w'⟩
        (.bind (some c.usrStr) (some c.passStr) (some c.otherStr))
  | reset {w w' : World P} {r : CommonStatus} : StandsFor ⟨w, .reset r, w'⟩ .ubind

section Steps

variable {w w' : World P} {s : CommonStatus} {usr pass other : CStr}

/-- `BIND` asks for the name to be checked, and makes the call if it may be used. -/
theorem runs_bindCommand (h : Runs (bindCommand usr pass other) w s w') :
    (s ≠ .succeed ∧ w' = w) ∨
      Runs (swCloudBind (some usr) (some pass) (some other)) w s w' := by
  simp only [bindCommand, runs_bind, runs_swSystemSetProductNameCheck, runs_ite, runs_pure,
    runs_swSystemSetProductName] at h
  obtain ⟨check, _, rfl, ⟨-, ret, w₁, hb, h⟩ | ⟨hne, rfl, rfl⟩⟩ := h
  · rcases h with ⟨-, _, _, rfl, rfl, rfl⟩ | ⟨-, rfl, rfl⟩
    · exact Or.inr hb
    · exact Or.inr hb
  · exact Or.inl ⟨hne, rfl⟩

theorem Step.of_regUsr {account username password : Option CStr}
    (h : Runs (swCloudRegUsr account username password) w s w') :
    Step w (.regUsr account username password) w' :=
  runs_bind.2 ⟨s, w', h, rfl, rfl⟩

theorem Step.of_bind {user password devicename : Option CStr}
    (h : Runs (swCloudBind user password devicename) w s w') :
    Step w (.bind user password devicename) w' :=
  runs_bind.2 ⟨s, w', h, rfl, rfl⟩

/-- **Each query is a call, or changes nothing.** -/
theorem console_simulates :
    Simulates (ConsoleStep (P := P)) Step (fun _ => True) id StandsFor := by
  intro w q w' _ hs
  refine ⟨trivial, ?_⟩
  cases q with
  | act a => exact Or.inr ⟨a, .act, hs⟩
  | getStatus r => exact Or.inl (runs_cloudGetStatus.1 hs).2
  | bindStatus r =>
    simp only [ConsoleStep, swCloudDeviceBindStatus, runs_bind, runs_getCloud, runs_pure] at hs
    obtain ⟨_, _, ⟨-, rfl⟩, -, rfl⟩ := hs
    exact Or.inl rfl
  | reset r => exact Or.inr ⟨.ubind, .reset, runs_bind.2 ⟨r, w', hs, rfl, rfl⟩⟩
  | command input output r =>
    cases input with
    | none => exact Or.inl hs.2
    | some input =>
      cases output with
      | none => exact Or.inl hs.2
      | some output =>
        simp only [ConsoleStep, swCloudCommand] at hs
        cases hp : cldcmdParse input with
        | none =>
          rw [hp] at hs
          exact Or.inl hs.2
        | some c =>
          rw [hp] at hs
          obtain ⟨ret, w₁, hret, -, rfl⟩ := runs_bind.1 hs
          rw [runCommand, runs_ite, runs_ite] at hret
          rcases hret with ⟨hreg, hret⟩ | ⟨-, ⟨hbind, hret⟩ | ⟨-, -, rfl⟩⟩
          · exact Or.inr ⟨_, .register hp hreg, .of_regUsr hret⟩
          · rcases runs_bindCommand hret with ⟨-, rfl⟩ | hret
            · exact Or.inl rfl
            · exact Or.inr ⟨_, .bind hp hbind, .of_bind hret⟩
          · exact Or.inl rfl

end Steps

/-! ## The answers -/

/-- What the answer `code` to a command says about the step from `w` to `w'`: whether the
server has taken the request, and then what is in force and saved afterwards. -/
def Tells (c : TddpCmd) (usr pass other : CStr) (w w' : World P) (code : List UInt8) : Prop :=
  match c with
  | .register =>
      (code = text "OK\n" ↔ okReplies P P.cldcmdRegusr (w.since w') ≠ []) ∧
      (code = text "OK\n" → ∃ fd sign,
        (fd, lines [other, usr, pass, sign]) ∈ okReplies P P.cldcmdRegusr (w.since w')) ∧
      w'.conf = w.conf ∧ w'.cloud.binded = w.cloud.binded
  | .bind =>
      (code = text "OK\n" ↔ okReplies P P.cldcmdBindev (w.since w') ≠ []) ∧
      (code = text "OK\n" → InService w' ∧
        BoundAs (Field.snprintf usr : Field P.cloudNameLen).str
          (Field.snprintf pass : Field P.cloudNameLen).str w w' ∧
        w'.cloud.devinfo.desc = .snprintf other) ∧
      (code ≠ text "OK\n" → w'.conf = w.conf ∧ w'.cloud.binded = w.cloud.binded)

section Answers

variable {w w' : World P} {r s : CommonStatus} {usr pass other : CStr}

theorem tddpCode_eq_ok : tddpCode s = text "OK\n" ↔ s = .succeed := by
  have hother : text "1000" ≠ text "OK\n" := by decide
  cases s with
  | other code => simp [tddpCode, hother]
  | _ => decide

theorem tddpCode_ne_1004 : tddpCode s ≠ text "1004" := by
  have hother : text "1000" ≠ text "1004" := by decide
  cases s with
  | other code => exact hother
  | _ => decide

/-- A registration is taken by the server exactly if it succeeds. -/
theorem RegUsrStep.asked (hr : RegUsrStep other usr pass w r w') :
    ∃ fd qs, Asks w w' fd qs ∧ (r = .succeed ↔
      ∃ q ∈ qs, q.cmd = P.cldcmdRegusr ∧ q.result = .succeed) ∧
      ∀ q ∈ qs, ∃ sign, q.text = lines [other, usr, pass, sign] := by
  cases hr with
  | noConnection _ hc hne => exact ⟨0, [], hc.asks 0, by simpa using hne, nofun⟩
  | offline _ hc hq =>
    obtain ⟨sign, hq⟩ := hq
    exact ⟨_, _, (hc.asks _).trans hq.asks, by simp, by simpa using ⟨sign, rfl⟩⟩
  | online _ _ hq =>
    obtain ⟨sign, hq⟩ := hq
    exact ⟨_, _, hq.asks, by simp, by simpa using ⟨sign, rfl⟩⟩
  | @dropped w₁ _ _ hq =>
    obtain ⟨sign, hq⟩ := hq
    have hd : Asks w₁ (w₁.disconnect.setStatus .disconnected) w.cloud.fd [] :=
      (w₁.disconnect_asks _).trans (.of_eq rfl)
    exact ⟨_, _, hq.asks.trans hd, by simp, by simpa using ⟨sign, rfl⟩⟩

theorem RegUsrStep.tells (hr : RegUsrStep other usr pass w r w') :
    Tells .register usr pass other w w' (tddpCode r) := by
  obtain ⟨fd, qs, ha, hsucceed, htext⟩ := hr.asked
  have hok : tddpCode r = text "OK\n" ↔ okReplies P P.cldcmdRegusr (w.since w') ≠ [] := by
    rw [tddpCode_eq_ok, hsucceed, ha.since.okReplies_ne_nil]
  refine ⟨hok, fun h => ?_, hr.keeps.conf_eq, hr.keeps.binded_eq⟩
  obtain ⟨q, hmem, hcmd, hres⟩ := hsucceed.1 (tddpCode_eq_ok.1 h)
  obtain ⟨sign, hq⟩ := htext q hmem
  refine ⟨fd, sign, ?_⟩
  rw [← hq, ← hcmd]
  exact ha.since.mem_okReplies hmem hres

/-- A binding is taken by the server exactly if it succeeds. -/
theorem BindStep.asked (hb : BindStep usr pass other w r w') :
    ∃ fd qs, Asks w w' fd qs ∧ (r = .succeed ↔
      ∃ q ∈ qs, q.cmd = P.cldcmdBindev ∧ q.result = .succeed) := by
  have hne := P.cmds_ne
  have hab : P.cldcmdAuth ≠ P.cldcmdBindev := by omega
  cases hb with
  | refused _ _ => exact ⟨0, [], .of_eq rfl, by simp⟩
  | @noConnection r w₁ _ hc hr =>
    exact ⟨0, _, ((w.disconnect_asks 0).trans (hc.asks 0)).trans (w₁.disconnect_asks 0), by
      simp [hr]⟩
  | @authFailed r w₁ w₂ _ hc ha hr =>
    have haq : Asks w₁ w₂ _ _ := ha.asks
    exact ⟨_, _, (((w.disconnect_asks _).trans (hc.asks _)).trans haq).trans
      (w₂.disconnect_asks _), by simp [hr]⟩
  | @bindFailed r w₁ w₂ w₃ _ hc ha hb hr =>
    obtain ⟨code, hb⟩ := hb
    have haq : Asks w₁ w₂ w₁.cloud.fd _ := ha.asks
    have hbq := hb.asks
    rw [Requests.cloud_eq ha] at hbq
    exact ⟨_, _, (((((w.disconnect_asks _).trans (hc.asks _)).trans haq).trans hbq).trans
      (w₃.disconnect_asks _)), by simp [hr, hab]⟩
  | @bound r w₁ w₂ w₃ w₄ _ hc ha hb hu =>
    obtain ⟨code, hb⟩ := hb
    have haq : Asks w₁ w₂ w₁.cloud.fd _ := ha.asks
    have hbq := hb.asks
    have huq := hu.asks
    rw [hb.cloud_eq] at huq
    rw [Requests.cloud_eq ha] at hbq huq
    have hbound : Asks w₄ w₄.bound w₁.cloud.fd [] := .of_eq rfl
    exact ⟨_, _, (((((w.disconnect_asks _).trans (hc.asks _)).trans haq).trans hbq).trans
      huq).trans hbound, by simp⟩

/-- A binding that fails changes nothing that is saved. -/
theorem BindStep.keeps (hb : BindStep usr pass other w r w') (hr : r ≠ .succeed) :
    Keeps w w' := by
  cases hb with
  | refused _ _ => exact .of_eq rfl rfl rfl
  | noConnection _ hc _ =>
    exact (w.disconnect_keeps.trans hc.keeps).trans (World.disconnect_keeps _)
  | authFailed _ hc ha _ =>
    have hk := (World.credited_keeps _ usr pass other).trans ha.keeps
    exact ((w.disconnect_keeps.trans hc.keeps).trans hk).trans (World.disconnect_keeps _)
  | bindFailed _ hc ha hbi _ =>
    have hk := ((World.credited_keeps _ usr pass other).trans ha.keeps).trans hbi.keeps
    exact ((w.disconnect_keeps.trans hc.keeps).trans hk).trans (World.disconnect_keeps _)
  | bound _ _ _ _ _ => exact absurd rfl hr

/-- What a successful bind leaves in the struct. -/
theorem BindStep.bound_state (hb : BindStep usr pass other w .succeed w') :
    w'.cloud.status = .connected ∧ w'.cloud.binded = true ∧
      w'.cloud.devinfo.desc = .snprintf other := by
  cases hb with
  | noConnection _ _ hne => exact absurd rfl hne
  | authFailed _ _ _ hne => exact absurd rfl hne
  | bindFailed _ _ _ _ hne => exact absurd rfl hne
  | bound _ hc ha hbi hu =>
    refine ⟨rfl, rfl, ?_⟩
    obtain ⟨code, hbi⟩ := hbi
    rw [World.cloud_bound, hu.cloud_eq, hbi.cloud_eq, Requests.cloud_eq ha]
    rfl

theorem BindStep.tells (hb : BindStep usr pass other w r w')
    (hauth : w'.cloud.status = .connected → w'.cloud.binded = true → Authenticated w') :
    Tells .bind usr pass other w w' (tddpCode r) := by
  obtain ⟨fd, qs, ha, hsucceed⟩ := hb.asked
  refine ⟨?_, fun h => ?_, fun h => ?_⟩
  · rw [tddpCode_eq_ok, hsucceed, ha.since.okReplies_ne_nil]
  · obtain rfl := tddpCode_eq_ok.1 h
    obtain ⟨hs, hbd, hd⟩ := hb.bound_state
    exact ⟨⟨hs, hbd, hauth hs hbd⟩, hb.boundAs_cut, hd⟩
  · have hk := hb.keeps fun hr => h (tddpCode_eq_ok.2 hr)
    exact ⟨hk.conf_eq, hk.binded_eq⟩

/-- What is answered to a command that is carried out. -/
theorem TddpCmd.tells {c : TddpCmd} (hs : Runs (c.call usr pass other) w s w')
    (hauth : w'.cloud.status = .connected → w'.cloud.binded = true → Authenticated w') :
    Tells c usr pass other w w' (tddpCode s) := by
  cases c with
  | register => exact (runs_swCloudRegUsr hs).tells
  | bind =>
    rcases runs_bindCommand hs with ⟨hne, rfl⟩ | hs
    · -- the name may not be used: no request was made
      have hnone : okReplies P P.cldcmdBindev (w'.since w') = [] := by
        rw [World.since_eq (List.nil_append _).symm]
        rfl
      have hok : tddpCode s ≠ CLib.text "OK\n" := fun h => hne (tddpCode_eq_ok.1 h)
      exact ⟨iff_of_false hok (not_not.2 hnone), fun h => absurd h hok, fun _ => ⟨rfl, rfl⟩⟩
    · exact (runs_swCloudBind hs).tells hauth

end Answers

section Run

variable {f : Conf P} {s : SysInfo P} {h : List (Move (World P) Query)} {w : World P}

/-- **The answers of the tool are true.**  In every run, whatever else happens in between,
`swCloudCommand` writes an answer to every command: `1004` exactly if the text is not that of
a command, and then nothing has happened; and otherwise the answer tells what has become of
the three values of the text. -/
theorem command_answers (hr : ConsoleRun f s h w) : ∀ m ∈ h, ∀ (t : CStr)
    (rest output : List UInt8) (r : Option (List UInt8)),
    m.label = .command (some (t.bytes ++ 0 :: rest)) (some output) r →
    ∃ code, r = some (store output 0 (code ++ [0])) ∧
      (code = text "1004" ↔ cldcmdParse (t.bytes ++ 0 :: rest) = none) ∧
      (code = text "1004" → m.post = m.pre) ∧
      ∀ c, cldcmdParse (t.bytes ++ 0 :: rest) = some c →
        ∃ cmd : TddpCmd, cmd.name <+: t.bytes ∧
          Tells cmd c.usrStr c.passStr c.otherStr m.pre m.post code := by
  intro m hm t rest output r hlabel
  obtain ⟨hs, -, h', hpost⟩ := hr.simulates_step console_simulates trivial hm
  rw [hlabel] at hs
  simp only [ConsoleStep] at hs
  cases hp : cldcmdParse (t.bytes ++ 0 :: rest) with
  | none =>
    simp only [swCloudCommand, hp] at hs
    exact ⟨text "1004", hs.1, iff_of_true rfl rfl, fun _ => hs.2, fun c h =>
      absurd h.symm (Option.some_ne_none c)⟩
  | some c =>
    obtain ⟨cmd, hacc, h0, hname⟩ := cldcmdParse_accepted hp
    rw [swCloudCommand_eq hp h0 hname] at hs
    obtain ⟨s', w', hcall, rfl, hw⟩ := runs_bind.1 hs
    have hne := tddpCode_ne_1004 (s := s')
    refine ⟨tddpCode s', rfl, iff_of_false hne (Option.some_ne_none c),
      fun h => absurd h hne, ?_⟩
    rintro _ ⟨⟩
    refine ⟨cmd, hacc.name, ?_⟩
    rw [hw]
    exact TddpCmd.tells hcall (hw ▸ Run.authenticated hpost)

end Run

/-- A run to which the law applies: a `BIND` on a device that was not bound, and a server that
accepts it. -/
theorem command_answers_bind : ∃ (r : Option (List UInt8)) (w : World sampleProtocol),
    ConsoleRun (sampleConf (CStr.lit "") (CStr.lit "")) sampleInfo
      [⟨start (sampleConf (CStr.lit "") (CStr.lit "")) sampleInfo, .command
        (some ((CStr.lit "BIND\nUSERNAME:u\nPASSWORD:p\nDEVICENAME:n\n").bytes ++ [0]))
        (some (List.replicate 8 0)) r, w⟩] w ∧
    r = some (store (List.replicate 8 0) 0 (text "OK\n" ++ [0])) ∧ InService w := by
  have hsome : (cldcmdParse
      ((CStr.lit "BIND\nUSERNAME:u\nPASSWORD:p\nDEVICENAME:n\n").bytes ++ [0])).isSome =
        true := by decide +kernel
  obtain ⟨c, hc⟩ := Option.isSome_iff_exists.1 hsome
  obtain ⟨r, w, hs, hok⟩ := exists_outcome (swCloudCommand
      (some ((CStr.lit "BIND\nUSERNAME:u\nPASSWORD:p\nDEVICENAME:n\n").bytes ++ [0]))
      (some (List.replicate 8 0)))
    (start (sampleConf (CStr.lit "") (CStr.lit "")) sampleInfo)
    (.status .succeed :: bindInputs 3 ++ [.status .succeed])
    (fun r => okReplies sampleProtocol sampleProtocol.cldcmdBindev (World.since
      (start (sampleConf (CStr.lit "") (CStr.lit "")) sampleInfo) r.2) ≠ []) (by decide +kernel)
  have hstep : ConsoleStep (start (sampleConf (CStr.lit "") (CStr.lit "")) sampleInfo) (.command
      (some ((CStr.lit "BIND\nUSERNAME:u\nPASSWORD:p\nDEVICENAME:n\n").bytes ++ [0]))
      (some (List.replicate 8 0)) r) w := hs
  have hrun := Path.snoc .start hstep
  obtain ⟨code, hr, -, -, htells⟩ := command_answers hrun _ (List.mem_singleton_self _) _ [] _ r rfl
  obtain ⟨cmd, hname, ht⟩ := htells c hc
  cases cmd with
  | register => exact absurd hname (by decide)
  | bind =>
    have hcode := ht.1.2 hok
    rw [hcode] at hr
    exact ⟨r, w, hrun, hr, (ht.2.1 hcode).1⟩

end SwCloud
