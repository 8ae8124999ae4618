import Lpt.Base.Loops
import Lpt.Relay.Client

/-!
# When the loop of the relay client stops

Both directions of an iteration of `process_relay` leave their result in the variable `ret`,
one after the other, and the loop is left if it is -1 in the end.  An error of
`process_local` is lost when the relay server has sent something, or has seemed to.

* `RelayLoop` — the runs of `process_relay`, with the descriptors.
* `StopsAtError` — the loop stops at the first socket error.
* `Masked` — an error of `process_local` that the result of `process_remote` takes the place
  of.
* `stopsAtError_iff` — the runs in which the loop stops.
-/

namespace HttpRelay

open CLib Trans

namespace Client

/-! ## Runs -/

/-- The lengths of the buffers are values of an `int`. -/
theorem maxLine_succ_lt : maxLine + 1 < 2147483648 := by decide

/-- What `process_relay` holds, and what it has sent to the relay server. -/
structure Ends where
  sent : List UInt8
  localClosed : Bool
  remoteClosed : Bool

/-- `close(*fd_local)` and `close(*fd_remote)`. -/
def Ends.close (s : Ends) : Ends := ⟨s.sent, true, true⟩

/-- The loop body of `process_relay`. -/
def relayBody (s : Ends) (c : Round) : Option (Bool × Ends) :=
  (processRelay c).map fun r => (r.1, { s with sent := s.sent ++ r.2 })

/-- One iteration of `process_relay`. -/
abbrev RelayLoop : Loop Ends → Round → Loop Ends → Prop := LoopStep relayBody Ends.close

/-- Both sockets are connected. -/
def loopStart : Loop Ends := .inside ⟨[], false, false⟩

/-! ## The law -/

namespace Round

/-- `process_remote` is called. -/
def CallsRemote (c : Round) : Prop :=
  0 ≤ c.selectRead ∧ 0 ≤ c.selectWrite ∧ c.remoteReadable = true

/-- `process_local` returns -1. -/
def LocalFails (c : Round) : Prop :=
  c.CallsLocal ∧ ∃ out, processLocal c.recvline c.recvLocal c.sends = some (-1, out)

/-- `process_remote` returns -1. -/
def RemoteFails (c : Round) : Prop := c.CallsRemote ∧ processRemote c.recvRemote = -1

/-- The camera has gone, or something cannot be sent to the relay server. -/
def LocalBroken (c : Round) : Prop :=
  c.recvLocal = .error ∨ c.recvLocal = .closed ∨
    ∃ bs wire, c.recvLocal = .data bs ∧ sendLoop (relayed c.recvline bs) c.sends = some (wire, true)

/-- The camera's side is broken, and in the same iteration `recv` gets something from the
relay server, or would block. -/
def Masked (c : Round) : Prop :=
  c.CallsLocal ∧ c.LocalBroken ∧ c.remoteReadable = true ∧
    c.recvRemote ≠ .error ∧ c.recvRemote ≠ .closed

end Round

/-- **The loop stops at the first socket error**: behind the iteration in which one of the two
functions returns -1 there is no `recv` and no `send`, and both descriptors are closed with
it. -/
def StopsAtError (h : List (Move (Loop Ends) Round)) : Prop :=
  ∀ later m earlier, h = later ++ m :: earlier → m.label.LocalFails ∨ m.label.RemoteFails →
    (∀ m' ∈ later, ¬ m'.label.CallsLocal ∧ ¬ m'.label.CallsRemote) ∧
      m.post.state.localClosed = true ∧ m.post.state.remoteClosed = true

/-! ## One iteration -/

section Step

variable {c : Round} {s s' : Ends} {go : Bool} {out : List UInt8}

/-- `tcp_send` returns -1 if a `send` fails. -/
theorem tcpSend_fails (buf wire : List UInt8) (es : List SendEv) :
    tcpSend buf es = some (-1, wire) ↔ sendLoop buf es = some (wire, true) :=
  sendLoop_fails (by decide) buf wire es

/-- **When `process_local` returns -1.** -/
theorem localFails_iff : c.LocalFails ↔ c.CallsLocal ∧ c.LocalBroken := by
  unfold Round.LocalFails Round.LocalBroken
  refine and_congr_right fun _ => ?_
  cases hr : c.recvLocal with
  | data bs =>
    simp only [processLocal_of_data, tcpSend_fails]
    simp
  | wouldBlock => simp [processLocal]
  | error => simp [processLocal]
  | closed => simp [processLocal]

/-- **When `process_remote` returns -1.** -/
theorem processRemote_fails (r : Recv) : processRemote r = -1 ↔ r = .error ∨ r = .closed := by
  cases r with
  | data bs => simp [processRemote]
  | wouldBlock => simp [processRemote]
  | error => simp [processRemote]
  | closed => simp [processRemote]

/-- **When the loop is left.**  Where `process_remote` is called, only its result counts. -/
theorem processRelay_leaves (h : processRelay c = some (go, out)) (h₁ : 0 ≤ c.selectRead)
    (h₂ : 0 ≤ c.selectWrite) :
    go = false ↔
      if c.remoteReadable = true then processRemote c.recvRemote = -1 else c.LocalFails := by
  unfold processRelay at h
  rw [if_neg (not_lt.2 h₁), if_neg (not_lt.2 h₂)] at h
  obtain ⟨⟨ret, sent⟩, hlocal, heq⟩ := Option.map_eq_some_iff.1 h
  cases heq
  by_cases hremote : c.remoteReadable = true
  · rw [if_pos hremote, if_pos hremote]
    simp
  · rw [if_neg hremote, if_neg hremote]
    unfold Round.LocalFails
    by_cases hcalls : c.localReadable = true ∧ c.remoteWritable = true
    · rw [if_pos hcalls] at hlocal
      have hcalled : c.CallsLocal := ⟨h₁, h₂, hcalls⟩
      rw [hlocal]
      simp [hcalled]
    · rw [if_neg hcalls] at hlocal
      cases hlocal
      have hnot : ¬ c.CallsLocal := fun hc => hcalls hc.2.2
      have hsel : c.selectWrite ≠ -1 := by omega
      simp [hnot, hsel]

/-- The body closes nothing. -/
theorem relayBody_open (h : relayBody s c = some (go, s')) :
    s'.localClosed = s.localClosed ∧ s'.remoteClosed = s.remoteClosed := by
  obtain ⟨_, -, heq⟩ := Option.map_eq_some_iff.1 h
  cases heq
  exact ⟨rfl, rfl⟩

/-- **One iteration**: every error leaves the loop, unless it is masked. -/
theorem relayBody_iff (h : relayBody s c = some (go, s')) :
    (c.LocalFails ∨ c.RemoteFails → go = false) ↔ ¬ c.Masked := by
  obtain ⟨⟨go', out⟩, hrelay, heq⟩ := Option.map_eq_some_iff.1 h
  cases heq
  by_cases hsel : 0 ≤ c.selectRead ∧ 0 ≤ c.selectWrite
  · rw [processRelay_leaves hrelay hsel.1 hsel.2]
    by_cases hremote : c.remoteReadable = true
    · rw [if_pos hremote]
      have hfails : c.RemoteFails ↔ processRemote c.recvRemote = -1 :=
        and_iff_right ⟨hsel.1, hsel.2, hremote⟩
      have hmasked : c.Masked ↔ c.LocalFails ∧ ¬ processRemote c.recvRemote = -1 := by
        unfold Round.Masked
        rw [localFails_iff, processRemote_fails, not_or, and_assoc]
        simp [hremote]
      rw [hfails, hmasked]
      constructor
      · intro hleaves hm
        exact hm.2 (hleaves (Or.inl hm.1))
      · intro hm herror
        by_contra hno
        exact hm ⟨herror.resolve_right hno, hno⟩
    · rw [if_neg hremote]
      have hnoremote : ¬ c.RemoteFails := fun hf => hremote hf.1.2.2
      have hnomask : ¬ c.Masked := fun hm => hremote hm.2.2.1
      exact iff_of_true (fun herror => herror.resolve_right hnoremote) hnomask
  · have hnocall : ¬ c.CallsLocal := fun hc => hsel ⟨hc.1, hc.2.1⟩
    have hnomask : ¬ c.Masked := fun hm => hnocall hm.1
    refine iff_of_true ?_ hnomask
    rintro (hf | hf)
    · exact absurd hf.1 hnocall
    · exact absurd ⟨hf.1.1, hf.1.2.1⟩ hsel

end Step

/-! ## Runs -/

section Runs

variable {s : Loop Ends} {h : List (Move (Loop Ends) Round)}

/-- The loop stops at an error by leaving. -/
theorem stopsAtError_iff_left (hp : Path RelayLoop loopStart h s) : StopsAtError h ↔
    ∀ m ∈ h, m.label.LocalFails ∨ m.label.RemoteFails → m.post.Left := by
  unfold StopsAtError
  exact stops_iff (fun m => m.label.LocalFails ∨ m.label.RemoteFails)
    (fun t => t.localClosed = true ∧ t.remoteClosed = true)
    (fun later => ∀ m' ∈ later, ¬ m'.label.CallsLocal ∧ ¬ m'.label.CallsRemote)
    (List.forall_mem_nil _) (fun t => ⟨rfl, rfl⟩)
    (fun hb hopen => by rwa [(relayBody_open hb).1, (relayBody_open hb).2])
    (fun hclosed => by cases hclosed.1) hp

/-- In a run that stops at its errors, an iteration with an error is the last one, and the
descriptors are closed when the run has ended. -/
theorem StopsAtError.at_end (hp : Path RelayLoop loopStart h s) (hstops : StopsAtError h)
    {m : Move (Loop Ends) Round} (hm : m ∈ h)
    (hfails : m.label.LocalFails ∨ m.label.RemoteFails) :
    h.head? = some m ∧ s.Left ∧ s.state.localClosed = true ∧ s.state.remoteClosed = true := by
  have hleft := (stopsAtError_iff_left hp).1 hstops m hm hfails
  obtain ⟨later, earlier, rfl⟩ := List.append_of_mem hm
  have hclosed := (hstops later m earlier rfl hfails).2
  obtain ⟨rfl, rfl⟩ := LoopStep.last hp hleft
  exact ⟨rfl, hleft, hclosed⟩

/-- **The loop stops at every socket error of a run** exactly if no error is masked. -/
theorem stopsAtError_iff (hp : Path RelayLoop loopStart h s) :
    StopsAtError h ↔ ∀ m ∈ h, ¬ m.label.Masked := by
  refine (stopsAtError_iff_left hp).trans (forall₂_congr fun m hm => ?_)
  obtain ⟨t, go, t', -, hb, hpost⟩ := (hp.mem_step hm).1.cases
  rw [← relayBody_iff hb, hpost]
  cases go with
  | true => simp
  | false => simp

/-- The camera closes the connection; the relay server may send something at the same time. -/
def closingRound (remoteReadable : Bool) : Round where
  selectRead := 1
  localReadable := true
  remoteReadable := remoteReadable
  selectWrite := 1
  remoteWritable := true
  recvline := Frame.filled _ 0 maxLine_succ_lt
  recvLocal := .closed
  sends := []
  recvRemote := .data [65]

/-- A run to which the law applies: the relay server has nothing to say. -/
theorem stopsAtError_iff_quiet : ∃ h s, Path RelayLoop loopStart h s ∧
    (∃ m ∈ h, m.label.LocalFails) ∧ StopsAtError h := by
  have hbody : relayBody ⟨[], false, false⟩ (closingRound false) = some (false, _) := rfl
  have hp : Path RelayLoop loopStart _ _ := .snoc .start (.leaves hbody)
  refine ⟨_, _, hp, ?_, (stopsAtError_iff hp).2 ?_⟩
  · exact ⟨_, List.mem_singleton_self _, by decide, [], rfl⟩
  · rw [List.forall_mem_singleton]
    intro hmasked
    cases hmasked.2.2.1

/-- The camera closes the connection while the relay server sends a byte: the loop goes on, and
receives another byte. -/
theorem camera_error_masked : ∃ h s, Path RelayLoop loopStart h s ∧ h.length = 2 ∧
    ¬ StopsAtError h := by
  have hbody : ∀ s, relayBody s (closingRound true) = some (true, ⟨s.sent ++ [], _, _⟩) :=
    fun s => rfl
  refine ⟨_, _, .snoc (.snoc .start (.goesOn (hbody _))) (.goesOn (hbody _)), rfl, ?_⟩
  intro hstops
  obtain ⟨hquiet, -⟩ := hstops [_] _ [] rfl (Or.inl ⟨by decide, [], rfl⟩)
  exact (hquiet _ (List.mem_singleton_self _)).2 ⟨by decide, by decide, rfl⟩

end Runs

end Client

end HttpRelay
