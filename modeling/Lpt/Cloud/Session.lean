import Lpt.Base.Acceptor
import Lpt.Cloud.Authenticated

/-!
# The conversation on a connection

What the device says to the server, read off the record of a run from its beginning: the
automaton `sessionStep` knows the connection in use and how far the conversation on it has
come, and forbids every event out of order.  A connection is opened, connected and greeted
before `AUTH`, which is the first request on it or none at all; `BINDEV` is the request
right after an accepted `AUTH`; `UPDEV` comes only after one; a reply is read when one is
outstanding and nothing else is done then; and `DEVCTL` goes out only for a device-control
packet that has been received and not been answered.

* `Talk`, `Session` — how far the conversation has come.
* `sessionStep` — the automaton.
* `session_conforms` — it reads the record of every run.
-/

namespace SwCloud

open CLib Effect Trans

variable {P : CldProtocol}

/-! ## The automaton -/

/-- How far the conversation on the connection in use has come. -/
inductive Talk where
  /-- There is no connection. -/
  | closed
  /-- A socket has been opened. -/
  | opened
  /-- The socket has been connected. -/
  | dialled
  /-- The socket could not be connected, or there was no greeting. -/
  | failed
  /-- The server has sent its greeting, and nothing has been asked. -/
  | greeted
  /-- Something has been asked, and no `AUTH` has been accepted. -/
  | stranger
  /-- `AUTH` has been accepted, and nothing has been asked since. -/
  | welcome
  /-- `AUTH` has been accepted, and something else has been asked since. -/
  | member
  deriving DecidableEq

namespace Talk

/-- An `AUTH` has been accepted on this connection. -/
def authed : Talk → Bool
  | .welcome | .member => true
  | _ => false

/-- There is a connection, and the attempt to set it up is over. -/
def settled : Talk → Bool
  | .closed | .opened | .dialled => false
  | _ => true

/-- The conversation after a request of the command `cmd`, which has been accepted or not. -/
def after (P : CldProtocol) (cmd : ℕ) (ok : Bool) (t : Talk) : Talk :=
  if t.settled = false then t
  else if cmd = P.cldcmdAuth then if ok = true then .welcome else .stranger
  else if t.authed = true then .member
  else .stranger

/-- The conversation after anything that is not a request. -/
def aside : Talk → Talk
  | .greeted => .stranger
  | .welcome => .member
  | t => t

end Talk

/-- What is known of the connection in use. -/
structure Session where
  fd : ℤ
  talk : Talk
  /-- A device-control packet has been received that has not been answered. -/
  ordered : Bool
  /-- The request whose reply is outstanding. -/
  waiting : Option (CldHdr × List UInt8)
  deriving DecidableEq

namespace Session

/-- There is no connection. -/
def offline : Session := ⟨-1, .closed, false, none⟩

/-- A packet of this command may be sent now. -/
def permits (P : CldProtocol) (s : Session) (cmd : ℕ) : Bool :=
  if cmd = P.cldcmdAuth then s.talk = .greeted
  else if cmd = P.cldcmdBindev then s.talk = .welcome
  else if cmd = P.cldcmdUpdev then s.talk.authed
  else if cmd = P.cldcmdUbindev then s.talk.authed || s.ordered
  else if cmd = P.cldcmdDevctl then s.ordered
  else cmd = P.cldcmdRegusr && (s.talk = .closed || s.talk.settled)

/-- `fd` is the connection in use, and no reply is outstanding on it. -/
def IdleOn (s : Session) (fd : ℤ) : Prop := s.fd = fd ∧ s.waiting = none

instance (s : Session) (fd : ℤ) : Decidable (s.IdleOn fd) := inferInstanceAs (Decidable (_ ∧ _))

end Session

/-- **The protocol of a connection.** -/
def sessionStep (P : CldProtocol) (s : Session) : Event → Option Session
  | .socket fd =>
      if s.waiting = none then some (if fd = -1 then .offline else ⟨fd, .opened, false, none⟩)
      else none
  | .connect fd ret =>
      if s.IdleOn fd ∧ s.talk = .opened then
        some { s with talk := if ret = 0 then .dialled else .failed }
      else none
  | .greeting fd ret =>
      if s.IdleOn fd ∧ s.talk = .dialled then
        some { s with talk := if 0 < ret then .greeted else .failed }
      else none
  | .close fd => if s.IdleOn fd ∧ s.talk.settled = true then some .offline else none
  | .wrote fd hdr payload ret =>
      if s.IdleOn fd ∧ s.permits P hdr.cmd = true then
        if hdr.cmd = P.cldcmdDevctl then some { s with ordered := false }
        else if ret = 0 then some { s with waiting := some (hdr, payload) }
        else some { s with talk := s.talk.after P hdr.cmd false }
      else none
  | .received (.reply hdr payload) fd ret mem =>
      if s.fd = fd ∧ s.waiting = some (hdr, payload) then
        some { s with
          waiting := none, talk := s.talk.after P hdr.cmd (decide (0 ≤ ret ∧ ReplyOk P mem)) }
      else none
  | .received .control fd ret _ =>
      if s.IdleOn fd ∧ s.talk.settled = true then
        some { s with talk := s.talk.aside, ordered := decide (0 < ret) }
      else none
  | .tooLarge cmd =>
      if s.waiting = none ∧ s.permits P cmd = true then
        some { s with
          talk := s.talk.aside, ordered := s.ordered && decide (cmd ≠ P.cldcmdDevctl) }
      else none

/-- **What the automaton allows**, event by event. -/
inductive Allowed (P : CldProtocol) (s : Session) : Event → Session → Prop
  | socket {fd : ℤ} : s.waiting = none →
      Allowed P s (.socket fd) (if fd = -1 then .offline else ⟨fd, .opened, false, none⟩)
  | connect {fd ret : ℤ} : s.IdleOn fd → s.talk = .opened →
      Allowed P s (.connect fd ret) { s with talk := if ret = 0 then .dialled else .failed }
  | greeting {fd ret : ℤ} : s.IdleOn fd → s.talk = .dialled →
      Allowed P s (.greeting fd ret) { s with talk := if 0 < ret then .greeted else .failed }
  | close {fd : ℤ} : s.IdleOn fd → s.talk.settled = true → Allowed P s (.close fd) .offline
  /-- The answer to a device-control packet. -/
  | answer {fd ret : ℤ} {hdr : CldHdr} {payload : List UInt8} : s.IdleOn fd →
      hdr.cmd = P.cldcmdDevctl → s.ordered = true →
      Allowed P s (.wrote fd hdr payload ret) { s with ordered := false }
  /-- A request. -/
  | request {fd : ℤ} {hdr : CldHdr} {payload : List UInt8} : s.IdleOn fd →
      s.permits P hdr.cmd = true → hdr.cmd ≠ P.cldcmdDevctl →
      Allowed P s (.wrote fd hdr payload 0) { s with waiting := some (hdr, payload) }
  /-- A request that could not be written. -/
  | unsent {fd ret : ℤ} {hdr : CldHdr} {payload : List UInt8} : s.IdleOn fd →
      s.permits P hdr.cmd = true → hdr.cmd ≠ P.cldcmdDevctl → ret ≠ 0 →
      Allowed P s (.wrote fd hdr payload ret) { s with talk := s.talk.after P hdr.cmd false }
  | reply {fd ret : ℤ} {hdr : CldHdr} {payload mem : List UInt8} : s.fd = fd →
      s.waiting = some (hdr, payload) → Allowed P s (.received (.reply hdr payload) fd ret mem)
        { s with
          waiting := none, talk := s.talk.after P hdr.cmd (decide (0 ≤ ret ∧ ReplyOk P mem)) }
  /-- A device-control packet. -/
  | order {fd ret : ℤ} {mem : List UInt8} : s.IdleOn fd → s.talk.settled = true →
      Allowed P s (.received .control fd ret mem)
        { s with talk := s.talk.aside, ordered := decide (0 < ret) }
  | tooLarge {cmd : ℕ} : s.waiting = none → s.permits P cmd = true →
      Allowed P s (.tooLarge cmd)
        { s with
          talk := s.talk.aside, ordered := s.ordered && decide (cmd ≠ P.cldcmdDevctl) }

/-- The conversation after a record. -/
def session (P : CldProtocol) (tr : List Event) : Option Session :=
  readAll (sessionStep P) .offline tr

/-! ## What the automaton allows -/

section Automaton

variable {s s' : Session} {t : Talk} {cmd : ℕ} {ok : Bool}

@[simp] theorem Talk.settled_after : (t.after P cmd ok).settled = t.settled := by
  unfold Talk.after
  cases t <;> split_ifs <;> simp_all [Talk.settled]

@[simp] theorem Talk.settled_aside : t.aside.settled = t.settled := by
  cases t <;> rfl

@[simp] theorem Talk.authed_aside : t.aside.authed = t.authed := by
  cases t <;> rfl

theorem Talk.authed_after (hcmd : cmd ≠ P.cldcmdAuth) : (t.after P cmd ok).authed = t.authed := by
  unfold Talk.after
  cases t <;> simp [hcmd, Talk.authed, Talk.settled]

theorem Talk.after_auth (ht : t.settled = true) : t.after P P.cldcmdAuth true = .welcome := by
  simp [Talk.after, ht]

theorem Talk.settled_of_authed (ht : t.authed = true) : t.settled = true := by
  cases t <;> first | rfl | cases ht

theorem permits_auth : s.permits P P.cldcmdAuth = true ↔ s.talk = .greeted := by
  simp [Session.permits]

theorem permits_bindev : s.permits P P.cldcmdBindev = true ↔ s.talk = .welcome := by
  simp [Session.permits, P.cmds_ne.2.1.2.1.symm]

theorem permits_updev : s.permits P P.cldcmdUpdev = true ↔ s.talk.authed = true := by
  simp [Session.permits, P.cmds_ne.2.1.2.2.1.symm, P.cmds_ne.2.2.2.1.1.symm]

theorem permits_ubindev :
    s.permits P P.cldcmdUbindev = true ↔ s.talk.authed = true ∨ s.ordered = true := by
  simp [Session.permits, P.cmds_ne.2.1.1.symm, P.cmds_ne.2.2.1.1, P.cmds_ne.2.2.1.2.1]

theorem permits_devctl : s.permits P P.cldcmdDevctl = true ↔ s.ordered = true := by
  simp [Session.permits, P.cmds_ne.2.1.2.2.2.symm, P.cmds_ne.2.2.1.2.2.symm,
    P.cmds_ne.2.2.2.1.2.symm, P.cmds_ne.2.2.2.2.symm]

theorem permits_regusr :
    s.permits P P.cldcmdRegusr = true ↔ s.talk = .closed ∨ s.talk.settled = true := by
  simp [Session.permits, P.cmds_ne.1.1, P.cmds_ne.1.2.1, P.cmds_ne.1.2.2.1, P.cmds_ne.1.2.2.2.1,
    P.cmds_ne.1.2.2.2.2]

theorem sessionStep_allowed {e : Event} (h : sessionStep P s e = some s') : Allowed P s e s' := by
  cases e with
  | socket fd =>
    simp only [sessionStep, Option.ite_none_right_eq_some, Option.some.injEq] at h
    obtain ⟨hwait, rfl⟩ := h
    exact .socket hwait
  | connect fd ret =>
    simp only [sessionStep, Option.ite_none_right_eq_some, Option.some.injEq] at h
    obtain ⟨⟨hidle, htalk⟩, rfl⟩ := h
    exact .connect hidle htalk
  | greeting fd ret =>
    simp only [sessionStep, Option.ite_none_right_eq_some, Option.some.injEq] at h
    obtain ⟨⟨hidle, htalk⟩, rfl⟩ := h
    exact .greeting hidle htalk
  | close fd =>
    simp only [sessionStep, Option.ite_none_right_eq_some, Option.some.injEq] at h
    obtain ⟨⟨hidle, htalk⟩, rfl⟩ := h
    exact .close hidle htalk
  | wrote fd hdr payload ret =>
    simp only [sessionStep, Option.ite_none_right_eq_some] at h
    obtain ⟨⟨hidle, hp⟩, h⟩ := h
    split_ifs at h with hcmd hret
    · cases h
      exact .answer hidle hcmd (permits_devctl.1 (hcmd ▸ hp))
    · cases h
      exact hret ▸ .request hidle hp hcmd
    · cases h
      exact .unsent hidle hp hcmd hret
  | received rc fd ret mem =>
    cases rc with
    | reply hdr payload =>
      simp only [sessionStep, Option.ite_none_right_eq_some, Option.some.injEq] at h
      obtain ⟨⟨hfd, hwait⟩, rfl⟩ := h
      exact .reply hfd hwait
    | control =>
      simp only [sessionStep, Option.ite_none_right_eq_some, Option.some.injEq] at h
      obtain ⟨⟨hidle, htalk⟩, rfl⟩ := h
      exact .order hidle htalk
  | tooLarge cmd =>
    simp only [sessionStep, Option.ite_none_right_eq_some, Option.some.injEq] at h
    obtain ⟨⟨hwait, hp⟩, rfl⟩ := h
    exact .tooLarge hwait hp

/-- No packet has been written or read on the connection. -/
def Talk.fresh : Talk → Bool
  | .opened | .dialled | .greeted => true
  | _ => false

/-- Something has been said on the connection, or cannot be said any more. -/
def Talk.old : Talk → Bool
  | .failed | .stranger | .member => true
  | _ => false

theorem Talk.old_aside (h : t.settled = true) : t.aside.old = true := by
  cases t <;> first | rfl | cases h

theorem Talk.old_after (h : t.settled = true) : (t.after P cmd ok).old = true ∨
    (t.after P cmd ok = .welcome ∧ cmd = P.cldcmdAuth ∧ ok = true) := by
  unfold Talk.after
  by_cases hcmd : cmd = P.cldcmdAuth
  · cases ok <;> simp [h, hcmd, Talk.old]
  · cases hauth : t.authed <;> simp [h, hcmd, Talk.old]

theorem Talk.settled_of_old (h : t.old = true) : t.settled = true := by
  cases t <;> first | rfl | cases h

/-- What holds in every state of the automaton. -/
structure Session.Sound (P : CldProtocol) (s : Session) : Prop where
  auth : ∀ hdr payload, s.waiting = some (hdr, payload) → hdr.cmd = P.cldcmdAuth →
    s.talk = .greeted
  waiting : s.waiting ≠ none → s.talk = .closed ∨ s.talk.settled = true
  ordered : s.ordered = true → s.talk.old = true

/-- Nothing is asked while a connection is being set up. -/
theorem Session.settled_of_permits (h : s.permits P cmd = true) (hs : s.Sound P) :
    s.talk = .closed ∨ s.talk.settled = true := by
  by_cases h₁ : cmd = P.cldcmdAuth
  · rw [permits_auth.1 (h₁ ▸ h)]
    exact Or.inr rfl
  by_cases h₂ : cmd = P.cldcmdBindev
  · rw [permits_bindev.1 (h₂ ▸ h)]
    exact Or.inr rfl
  by_cases h₃ : cmd = P.cldcmdUpdev
  · exact Or.inr (Talk.settled_of_authed (permits_updev.1 (h₃ ▸ h)))
  by_cases h₄ : cmd = P.cldcmdUbindev
  · rcases permits_ubindev.1 (h₄ ▸ h) with hauth | hordered
    · exact Or.inr (Talk.settled_of_authed hauth)
    · exact Or.inr (Talk.settled_of_old (hs.ordered hordered))
  by_cases h₅ : cmd = P.cldcmdDevctl
  · exact Or.inr (Talk.settled_of_old (hs.ordered (permits_devctl.1 (h₅ ▸ h))))
  · simpa [Session.permits, h₁, h₂, h₃, h₄, h₅] using (And.right : _ ∧ _ → _) (by
      simpa [Session.permits, h₁, h₂, h₃, h₄, h₅] using h)

/-- Every allowed event keeps it. -/
theorem Allowed.sound {e : Event} (he : Allowed P s e s') (hs : s.Sound P) : s'.Sound P := by
  cases he with
  | socket hwait =>
    split
    · exact ⟨nofun, fun h => absurd rfl h, nofun⟩
    · exact ⟨nofun, fun h => absurd rfl h, nofun⟩
  | connect hidle htalk =>
    refine ⟨fun _ _ hw => ?_, fun hw => absurd hidle.2 hw, fun ho => ?_⟩
    · cases hidle.2.symm.trans hw
    · have hold := hs.ordered ho
      rw [htalk] at hold
      cases hold
  | greeting hidle htalk =>
    refine ⟨fun _ _ hw => ?_, fun hw => absurd hidle.2 hw, fun ho => ?_⟩
    · cases hidle.2.symm.trans hw
    · have hold := hs.ordered ho
      rw [htalk] at hold
      cases hold
  | close _ _ => exact ⟨nofun, fun h => absurd rfl h, nofun⟩
  | answer hidle _ _ => exact ⟨hs.auth, hs.waiting, nofun⟩
  | request _ hp _ =>
    have hsettled := Session.settled_of_permits hp hs
    refine ⟨fun hdr' payload' hw hcmd => ?_, fun _ => hsettled, hs.ordered⟩
    cases hw
    exact permits_auth.1 (hcmd ▸ hp)
  | @unsent fd ret hdr payload hidle hp _ _ =>
    refine ⟨fun _ _ hw => ?_, fun hw => absurd hidle.2 hw, fun ho => ?_⟩
    · cases hidle.2.symm.trans hw
    · exact (Talk.old_after (Talk.settled_of_old (hs.ordered ho))).resolve_right fun h => by
        cases h.2.2
  | @reply fd ret hdr payload mem _ hwait =>
    refine ⟨nofun, fun h => absurd rfl h, fun ho => ?_⟩
    have hold := hs.ordered ho
    refine (Talk.old_after (Talk.settled_of_old hold)).resolve_right fun ⟨_, hcmd, _⟩ => ?_
    -- a reply to `AUTH` is not outstanding on an old connection
    rw [hs.auth _ _ hwait hcmd] at hold
    cases hold
  | order hidle hsettled =>
    refine ⟨fun _ _ hw => ?_, fun hw => absurd hidle.2 hw, fun _ => Talk.old_aside hsettled⟩
    cases hidle.2.symm.trans hw
  | tooLarge hwait hp =>
    refine ⟨fun _ _ hw => ?_, fun hw => absurd hwait hw, fun ho => ?_⟩
    · cases hwait.symm.trans hw
    · have hold := hs.ordered (Bool.and_eq_true_iff.1 ho).1
      exact Talk.old_aside (Talk.settled_of_old hold)

theorem session_sound {tr : List Event} (h : session P tr = some s) : s.Sound P :=
  readAll_invariant (Session.Sound P) (fun _ _ _ hs he => (sessionStep_allowed he).sound hs)
    ⟨fun _ _ hw => (by cases hw), fun hw => absurd rfl hw, fun ho => (by cases ho)⟩ h

/-- **On a connection on which an `AUTH` has been accepted** the conversation knows it, unless
the connection has been closed. -/
theorem authed_of_okReplies {tr : List Event} (h : session P tr = some s)
    (hok : okReplies P P.cldcmdAuth (conn tr) ≠ []) :
    s.talk.authed = true ∨ s.talk = .closed := by
  induction tr generalizing s with
  | nil => exact absurd rfl hok
  | cons e tr ih =>
    obtain ⟨t, ht, he⟩ := Option.bind_eq_some_iff.1 h
    have hkeep : ∀ cmd ok, cmd ≠ P.cldcmdAuth → (t.talk.authed = true ∨ t.talk = .closed) →
        (t.talk.after P cmd ok).authed = true ∨ t.talk.after P cmd ok = .closed := by
      intro cmd ok hcmd
      rw [Talk.authed_after hcmd]
      exact Or.imp_right fun hclosed => by rw [hclosed]; rfl
    have haside : (t.talk.authed = true ∨ t.talk = .closed) →
        t.talk.aside.authed = true ∨ t.talk.aside = .closed := by
      rw [Talk.authed_aside]
      exact Or.imp_right fun hclosed => by rw [hclosed]; rfl
    cases sessionStep_allowed he with
    | socket _ => exact absurd rfl hok
    | connect _ htalk => simpa [htalk, Talk.authed] using ih ht hok
    | greeting _ htalk => simpa [htalk, Talk.authed] using ih ht hok
    | close _ _ => exact Or.inr rfl
    | answer _ _ _ =>
      have hbefore := ih ht hok
      exact hbefore
    | request _ _ _ =>
      have hbefore := ih ht hok
      exact hbefore
    | @unsent fd ret hdr payload _ hp _ _ =>
      have hbefore := ih ht hok
      refine hkeep _ _ (fun hcmd => ?_) hbefore
      -- an `AUTH` is not permitted after an accepted one
      rw [permits_auth.1 (hcmd ▸ hp)] at hbefore
      simp [Talk.authed] at hbefore
    | @reply fd ret hdr payload mem _ hwait =>
      by_cases hcmd : hdr.cmd = P.cldcmdAuth
      · have hgreet := (session_sound ht).auth _ _ hwait hcmd
        by_cases hacc : 0 ≤ ret ∧ ReplyOk P mem
        · rw [hcmd, decide_eq_true hacc, Talk.after_auth (by rw [hgreet]; rfl)]
          exact Or.inl rfl
        · have hbefore := ih ht (by
            simpa [okReplies, conn, Event.isSocket, Event.okReply, hcmd, hacc] using hok)
          rw [hgreet] at hbefore
          simp [Talk.authed] at hbefore
      · refine hkeep _ _ hcmd (ih ht ?_)
        simpa [okReplies, conn, Event.isSocket, Event.okReply, hcmd] using hok
    | order _ _ => exact haside (ih ht hok)
    | tooLarge _ _ => exact haside (ih ht hok)

/-! ### What stands in front of a packet -/

/-- A packet is written or read. -/
def Event.isPacket : Event → Bool
  | .wrote .. | .received .. => true
  | _ => false

theorem Talk.not_fresh_of_old (h : t.old = true) : t.fresh = false := by
  cases t <;> first | rfl | cases h

theorem Talk.not_fresh_aside (h : t = .closed ∨ t.settled = true) : t.aside.fresh = false := by
  rcases h with rfl | h
  · rfl
  · exact Talk.not_fresh_of_old (Talk.old_aside h)

theorem Talk.not_fresh_after (h : t = .closed ∨ t.settled = true) :
    (t.after P cmd ok).fresh = false := by
  rcases h with rfl | h
  · rfl
  · rcases Talk.old_after h with hold | ⟨hwelcome, -⟩
    · exact Talk.not_fresh_of_old hold
    · rw [hwelcome]
      rfl

/-- **On a fresh connection** no packet has been written or read. -/
theorem silent_of_fresh {tr : List Event} (h : session P tr = some s) (hw : s.waiting = none)
    (hf : s.talk.fresh = true) : ∀ e ∈ conn tr, e.isPacket = false := by
  induction tr generalizing s with
  | nil => exact nofun
  | cons e tr ih =>
    obtain ⟨t, ht, he⟩ := Option.bind_eq_some_iff.1 h
    have hsound := session_sound ht
    have hold : s.talk.fresh = false → ∀ e' ∈ conn (e :: tr), e'.isPacket = false := fun hno => by
      rw [hno] at hf
      cases hf
    have hnew : ∀ e', conn (e' :: tr) = e' :: conn tr → e'.isPacket = false →
        t.waiting = none → t.talk.fresh = true → ∀ e'' ∈ conn (e' :: tr), e''.isPacket = false := by
      intro e' hconn hpacket hw' hf'
      rw [hconn, List.forall_mem_cons]
      exact ⟨hpacket, ih ht hw' hf'⟩
    cases sessionStep_allowed he with
    | socket _ => exact nofun
    | connect hidle htalk => exact hnew _ rfl rfl hidle.2 (by rw [htalk]; rfl)
    | greeting hidle htalk => exact hnew _ rfl rfl hidle.2 (by rw [htalk]; rfl)
    | close _ _ => exact hold rfl
    | answer _ _ ho => exact hold (Talk.not_fresh_of_old (hsound.ordered ho))
    | request _ _ _ => cases hw
    | unsent _ hp _ _ => exact hold (Talk.not_fresh_after (Session.settled_of_permits hp hsound))
    | reply _ hwait =>
      exact hold (Talk.not_fresh_after (hsound.waiting (by rw [hwait]; exact nofun)))
    | order _ hsettled => exact hold (Talk.not_fresh_aside (Or.inr hsettled))
    | tooLarge _ hp => exact hold (Talk.not_fresh_aside (Session.settled_of_permits hp hsound))

/-- While a reply is outstanding, its request is the newest event. -/
theorem newest_of_waiting {tr : List Event} {hdr : CldHdr} {payload : List UInt8}
    (h : session P tr = some s) (hw : s.waiting = some (hdr, payload)) :
    ∃ older, tr = .wrote s.fd hdr payload 0 :: older := by
  cases tr with
  | nil =>
    cases h
    cases hw
  | cons e tr =>
    obtain ⟨t, -, he⟩ := Option.bind_eq_some_iff.1 h
    cases sessionStep_allowed he with
    | socket _ => split at hw <;> cases hw
    | connect hidle _ => cases hidle.2.symm.trans hw
    | greeting hidle _ => cases hidle.2.symm.trans hw
    | close _ _ => cases hw
    | answer hidle _ _ => cases hidle.2.symm.trans hw
    | request hidle _ _ =>
      cases hw
      exact ⟨tr, by rw [hidle.1]⟩
    | unsent hidle _ _ _ => cases hidle.2.symm.trans hw
    | reply _ _ => cases hw
    | order hidle _ => cases hidle.2.symm.trans hw
    | tooLarge hwait _ => cases hwait.symm.trans hw

/-- `AUTH` is the last request made, and the only event since is its reply, which is `OK`. -/
def JustWelcomed (P : CldProtocol) (fd : ℤ) (tr : List Event) : Prop :=
  ∃ hdr payload n mem older,
    tr = .received (.reply hdr payload) fd n mem :: .wrote fd hdr payload 0 :: older ∧
      hdr.cmd = P.cldcmdAuth ∧ 0 ≤ n ∧ ReplyOk P mem

/-- **A connection is welcome** only right after the reply to its `AUTH`. -/
theorem newest_of_welcome {tr : List Event} (h : session P tr = some s) (hw : s.waiting = none)
    (htalk : s.talk = .welcome) : JustWelcomed P s.fd tr := by
  cases tr with
  | nil =>
    cases h
    cases htalk
  | cons e tr =>
    obtain ⟨t, ht, he⟩ := Option.bind_eq_some_iff.1 h
    have hsound := session_sound ht
    have hold : s.talk.old = true → JustWelcomed P s.fd (e :: tr) := fun hold => by
      rw [htalk] at hold
      cases hold
    cases sessionStep_allowed he with
    | socket _ => split at htalk <;> cases htalk
    | connect _ _ => split at htalk <;> cases htalk
    | greeting _ _ => split at htalk <;> cases htalk
    | close _ _ => cases htalk
    | answer _ _ ho => exact hold (hsound.ordered ho)
    | request _ _ _ => cases hw
    | @unsent fd ret hdr payload _ hp _ _ =>
      rcases Session.settled_of_permits hp hsound with hc | hsettled
      · rw [hc] at htalk
        cases htalk
      · exact hold ((Talk.old_after hsettled).resolve_right fun h => by cases h.2.2)
    | @reply fd ret hdr payload mem hfd hwait =>
      rcases hsound.waiting (by rw [hwait]; exact nofun) with hc | hsettled
      · rw [hc] at htalk
        cases htalk
      · rcases Talk.old_after hsettled with hold' | ⟨-, hcmd, hok⟩
        · exact hold hold'
        · obtain ⟨older, rfl⟩ := newest_of_waiting ht hwait
          obtain ⟨hret, hreply⟩ := of_decide_eq_true hok
          exact ⟨hdr, payload, ret, mem, older, by rw [hfd], hcmd, hret, hreply⟩
    | order _ hsettled => exact hold (Talk.old_aside hsettled)
    | tooLarge _ hp =>
      rcases Session.settled_of_permits hp hsound with hc | hsettled
      · rw [hc] at htalk
        cases htalk
      · exact hold (Talk.old_aside hsettled)

/-! ### Answers and orders -/

/-- The answer to a device-control packet is written. -/
def Event.isAnswer (P : CldProtocol) : Event → Bool
  | .wrote _ hdr _ _ => hdr.cmd = P.cldcmdDevctl
  | _ => false

/-- A device-control packet is received. -/
def Event.isOrder : Event → Bool
  | .received .control _ ret _ => 0 < ret
  | _ => false

/-- **No more answers than orders**: a device-control packet that has been received is the
credit for one answer. -/
theorem answers_le_orders {tr : List Event} (h : session P tr = some s) :
    tr.countP (Event.isAnswer P) ≤ tr.countP Event.isOrder := by
  refine countP_le _ _ (fun s => s.ordered.toNat) rfl (fun t e t' he => ?_) h
  cases sessionStep_allowed he with
  | socket _ => split <;> exact Nat.zero_le _
  | connect _ _ => exact le_rfl
  | greeting _ _ => exact le_rfl
  | close _ _ => exact Nat.zero_le _
  | answer _ hcmd ho => simp [Event.isAnswer, Event.isOrder, hcmd, ho]
  | request _ _ hcmd => simp [Event.isAnswer, hcmd]
  | unsent _ _ hcmd _ => simp [Event.isAnswer, hcmd]
  | reply _ _ => exact le_rfl
  | order _ _ => simp [Event.isAnswer, Event.isOrder]
  | @tooLarge cmd _ _ =>
    cases t.ordered with
    | false => exact le_rfl
    | true => cases decide (cmd ≠ P.cldcmdDevctl) <;> simp [Event.isAnswer, Event.isOrder]

end Automaton

/-! ## The parts of a step -/

/-- The record grows from `w` to `w'` as the automaton allows it, from `s` to `s'`. -/
def Talks (w : World P) (s : Session) (w' : World P) (s' : Session) : Prop :=
  ∃ es, w'.trace = es ++ w.trace ∧ readAll (sessionStep P) s es = some s'

/-- `s` is the conversation on the connection of `w`, and no reply is outstanding on it. -/
structure InSession (w : World P) (s : Session) : Prop where
  fd_eq : s.fd = w.cloud.fd
  waiting_eq : s.waiting = none
  closed : s.fd = -1 → s.talk = .closed
  settled : s.fd ≠ -1 → s.talk.settled = true

section Parts

variable {w w' w₁ : World P} {s s' s₁ : Session} {r : CommonStatus}

theorem Talks.of_eq (h : w'.trace = w.trace) : Talks w s w' s := ⟨[], h, rfl⟩

theorem Talks.trans (h : Talks w s w₁ s₁) (h' : Talks w₁ s₁ w' s') : Talks w s w' s' := by
  obtain ⟨es, htr, hes⟩ := h
  obtain ⟨es', htr', hes'⟩ := h'
  exact ⟨es' ++ es, by rw [htr', htr, List.append_assoc], readAll_append_eq hes hes'⟩

/-- One event that the automaton allows. -/
theorem Talks.log {e : Event} (h : sessionStep P s e = some s') : Talks w s (w.log e) s' :=
  ⟨[e], rfl, h⟩

theorem InSession.of_fd (h : InSession w s) (hfd : w'.cloud.fd = w.cloud.fd) : InSession w' s :=
  ⟨h.fd_eq.trans hfd.symm, h.waiting_eq, h.closed, h.settled⟩

theorem offline_inSession (h : w.cloud.fd = -1) : InSession w .offline :=
  ⟨h.symm, rfl, fun _ => rfl, fun hfd => absurd rfl hfd⟩

theorem InSession.idleOn (h : InSession w s) : s.IdleOn w.cloud.fd := ⟨h.fd_eq, h.waiting_eq⟩

theorem InSession.settled_of_fd (h : InSession w s) (hfd : w.cloud.fd ≠ -1) :
    s.talk.settled = true :=
  h.settled (h.fd_eq ▸ hfd)

theorem InSession.closed_or (h : InSession w s) : s.talk = .closed ∨ s.talk.settled = true := by
  by_cases hfd : s.fd = -1
  · exact Or.inl (h.closed hfd)
  · exact Or.inr (h.settled hfd)

/-- Something is said, over the same connection or none. -/
theorem InSession.said {t : Talk} {ordered : Bool} (h : InSession w s)
    (hfd : w'.cloud.fd = w.cloud.fd) (hc : s.talk = .closed → t = .closed)
    (hs : t.settled = s.talk.settled) : InSession w' ⟨s.fd, t, ordered, none⟩ :=
  ⟨h.fd_eq.trans hfd.symm, rfl, fun h1 => hc (h.closed h1), fun h1 => hs.trans (h.settled h1)⟩

/-- **One request**, if it is permitted. -/
theorem Requests.session {cmd : ℕ} {t : CStr} (hq : Requests cmd t w r w') (h : InSession w s)
    (hp : s.permits P cmd = true) (hcmd : cmd ≠ P.cldcmdDevctl) :
    ∃ t', Talks w s w' { s with talk := t' } ∧ InSession w' { s with talk := t' } ∧
      (r = .succeed → t' = s.talk.after P cmd true) := by
  have hcloud := congrArg Cloud.fd hq.cloud_eq
  obtain ⟨fd, talk, ordered, waiting⟩ := s
  obtain rfl : fd = w.cloud.fd := h.fd_eq
  obtain rfl : waiting = none := h.waiting_eq
  have hidle : (Session.mk w.cloud.fd talk ordered none).IdleOn w.cloud.fd := ⟨rfl, rfl⟩
  have hin : ∀ ok, InSession w' ⟨w.cloud.fd, talk.after P cmd ok, ordered, none⟩ := fun ok =>
    h.said hcloud (fun hc : talk = .closed => by rw [hc]; rfl) Talk.settled_after
  have hwrote : ∀ hdr payload ret, Carries P cmd t hdr payload →
      sessionStep P ⟨w.cloud.fd, talk, ordered, none⟩ (.wrote w.cloud.fd hdr payload ret) =
        some (if ret = 0 then ⟨w.cloud.fd, talk, ordered, some (hdr, payload)⟩
          else ⟨w.cloud.fd, talk.after P cmd false, ordered, none⟩) := by
    intro hdr payload ret hcar
    simp only [sessionStep, hcar.cmd_eq, hp, hidle, and_self, if_true, if_neg hcmd]
    split <;> rfl
  obtain ⟨rep, hx, hrep⟩ := hq
  cases hx with
  | tooLarge _ =>
    cases hrep
    refine ⟨talk.aside, .log ?_, h.said hcloud (fun hc : talk = .closed => by rw [hc]; rfl)
      Talk.settled_aside, nofun⟩
    simp [sessionStep, hp, hcmd]
  | writeFailed hcar hret =>
    cases hrep
    exact ⟨_, .log ((hwrote _ _ _ hcar).trans (by rw [if_neg hret])), hin false, nofun⟩
  | noReply hcar hret =>
    cases hrep
    refine ⟨_, (Talks.log ((hwrote _ _ _ hcar).trans (by rw [if_pos rfl]))).trans (.log ?_),
      hin false, nofun⟩
    simp [sessionStep, hcar.cmd_eq, not_le.2 hret]
  | answered hcar hret _ =>
    obtain ⟨-, hok⟩ := hrep
    refine ⟨_, (Talks.log ((hwrote _ _ _ hcar).trans (by rw [if_pos rfl]))).trans (.log ?_),
      hin (decide (r = .succeed)), fun hr => by rw [decide_eq_true hr]⟩
    simp [sessionStep, hcar.cmd_eq, hret, hok]

/-- **A connect**, which leaves the old connection behind. -/
theorem Connects.session (hc : Connects w r w') (h : InSession w s) :
    ∃ s', Talks w s w' s' ∧ InSession w' s' ∧ (r = .succeed → s'.talk = .greeted) := by
  have hopen : ∀ fd : ℤ, 0 ≤ fd →
      sessionStep P s (.socket fd) = some ⟨fd, .opened, false, none⟩ := by
    intro fd hfd
    simp [sessionStep, h.waiting_eq, show fd ≠ -1 by omega]
  have hdial : ∀ fd ret : ℤ, sessionStep P ⟨fd, .opened, false, none⟩ (.connect fd ret) =
      some ⟨fd, if ret = 0 then .dialled else .failed, false, none⟩ := by
    intro fd ret
    simp [sessionStep, Session.IdleOn]
  have hgreet : ∀ fd n : ℤ, sessionStep P ⟨fd, .dialled, false, none⟩ (.greeting fd n) =
      some ⟨fd, if 0 < n then .greeted else .failed, false, none⟩ := by
    intro fd n
    simp [sessionStep, Session.IdleOn]
  have hin : ∀ {w' : World P} {t : Talk}, t.settled = true → w'.cloud.fd ≠ -1 →
      InSession w' ⟨w'.cloud.fd, t, false, none⟩ := fun ht hfd =>
    ⟨rfl, rfl, fun h => absurd h hfd, fun _ => ht⟩
  cases hc with
  | noSocket =>
    refine ⟨.offline, ⟨[_], rfl, ?_⟩, offline_inSession rfl, nofun⟩
    simp [sessionStep, h.waiting_eq]
  | @refused fd ret h0 _ hret =>
    refine ⟨_, ⟨[_, _], rfl, readAll_cons_eq (hopen fd h0) (hdial fd ret)⟩, hin ?_ ?_, nofun⟩
    · rw [if_neg hret]
      rfl
    · show fd ≠ -1
      omega
  | @noGreeting fd n h0 _ hn =>
    refine ⟨_, ⟨[_, _, _], rfl, readAll_cons_eq (readAll_cons_eq (hopen fd h0) (hdial fd 0))
      (hgreet fd n)⟩, hin ?_ ?_, nofun⟩
    · rw [if_neg (not_lt.2 hn)]
      rfl
    · show fd ≠ -1
      omega
  | @connected fd n h0 _ hn =>
    refine ⟨_, ⟨[_, _, _], rfl, readAll_cons_eq (readAll_cons_eq (hopen fd h0) (hdial fd 0))
      (hgreet fd n)⟩, hin ?_ ?_, fun _ => if_pos hn⟩
    · rw [if_pos hn]
      rfl
    · show fd ≠ -1
      omega

/-- A disconnect. -/
theorem World.disconnect_session (h : InSession w s) :
    ∃ s', Talks w s w.disconnect s' ∧ InSession w.disconnect s' := by
  by_cases hfd : w.cloud.fd = -1
  · rw [World.disconnect, if_pos hfd]
    exact ⟨s, .of_eq rfl, h⟩
  · rw [World.disconnect, if_neg hfd]
    refine ⟨.offline, ⟨[_], rfl, ?_⟩, offline_inSession rfl⟩
    simp [sessionStep, h.idleOn, h.settled_of_fd hfd]

/-- The answer to a device-control packet. -/
theorem Responds.session {ret : ℤ} (hr : Responds w ret w') (h : InSession w s)
    (ho : s.ordered = true) : ∃ s', Talks w s w' s' ∧ InSession w' s' := by
  have hp : s.permits P P.cldcmdDevctl = true := permits_devctl.2 ho
  cases hr with
  | tooLarge =>
    refine ⟨⟨s.fd, s.talk.aside, false, none⟩, .log ?_,
      h.said rfl (fun hc => by rw [hc]; rfl) Talk.settled_aside⟩
    simp [sessionStep, h.waiting_eq, hp]
  | wrote hcar =>
    refine ⟨⟨s.fd, s.talk, false, none⟩, .log ?_, h.said rfl id rfl⟩
    simp [sessionStep, h.idleOn, h.waiting_eq, hcar.cmd_eq, hp]

/-- What is done for a device-control packet before it is answered. -/
theorem Served.session (hs : Served w w') (h : InSession w s) (ho : s.ordered = true) :
    ∃ t', Talks w s w' { s with talk := t' } ∧ InSession w' { s with talk := t' } := by
  have hp : s.permits P P.cldcmdUbindev = true := permits_ubindev.2 (Or.inr ho)
  cases hs with
  | other => exact ⟨s.talk, .of_eq rfl, h⟩
  | refused hu _ =>
    obtain ⟨t', htalks, hin, -⟩ := Requests.session hu h hp P.cmds_ne.2.2.1.2.2
    exact ⟨t', htalks, hin⟩
  | unbound hu =>
    obtain ⟨t', htalks, hin, -⟩ := Requests.session hu h hp P.cmds_ne.2.2.1.2.2
    exact ⟨t', htalks.trans (.of_eq rfl), hin.of_fd rfl⟩

/-- A call of `network_device_control` on an open connection. -/
theorem Control.session {ret : ℤ} (hc : Control w ret w') (h : InSession w s)
    (hfd : w.cloud.fd ≠ -1) : ∃ s', Talks w s w' s' ∧ InSession w' s' := by
  have hrecv : ∀ (n : ℤ) (mem : List UInt8),
      Talks w s (w.log (.received .control w.cloud.fd n mem))
        ⟨s.fd, s.talk.aside, decide (0 < n), none⟩ := by
    intro n mem
    refine .log ?_
    simp [h.waiting_eq, sessionStep, h.idleOn, h.settled_of_fd hfd]
  have hin : ∀ (n : ℤ) (mem : List UInt8),
      InSession (w.log (.received .control w.cloud.fd n mem))
        ⟨s.fd, s.talk.aside, decide (0 < n), none⟩ := fun n mem =>
    h.said rfl (fun hc => by rw [hc]; rfl) Talk.settled_aside
  cases hc with
  | idle => exact ⟨s, .of_eq rfl, h⟩
  | lost _ => exact ⟨_, hrecv _ _, hin _ _⟩
  | ignored _ => exact ⟨_, hrecv _ _, hin _ _⟩
  | @replied n r mem w₁ w₂ hn hs hr =>
    obtain ⟨t', htalks, hin'⟩ := hs.session (hin n mem) (decide_eq_true hn)
    obtain ⟨s', hlast, hin''⟩ := hr.session hin' (decide_eq_true hn)
    exact ⟨s', ((hrecv n mem).trans htalks).trans hlast, hin''⟩

/-- A round of polling. -/
theorem Polls.session (hp : Polls w w') (h : InSession w s) :
    ∃ s', Talks w s w' s' ∧ InSession w' s' := by
  cases hp with
  | quiet => exact ⟨s, .of_eq rfl, h⟩
  | served hfd hc =>
    exact hc.session h hfd
  | failed hfd _ hc =>
    obtain ⟨s₁, htalks, hin⟩ := hc.session h hfd
    obtain ⟨s', htalks', hin'⟩ := World.disconnect_session hin
    exact ⟨s', (htalks.trans htalks').trans (.of_eq rfl), hin'.of_fd rfl⟩

end Parts

/-! ## Steps -/

section Steps

variable {w w' w₁ : World P} {s : Session} {r : CommonStatus}

/-- A step of the device goes on with the conversation. -/
def Converses (w : World P) (s : Session) (w' : World P) : Prop :=
  ∃ s', Talks w s w' s' ∧ InSession w' s'

theorem Converses.of_eq (h : InSession w s) (htr : w'.trace = w.trace)
    (hfd : w'.cloud.fd = w.cloud.fd) : Converses w s w' :=
  ⟨s, .of_eq htr, h.of_fd hfd⟩

/-- What a part of a step has begun another part goes on with. -/
theorem Talks.converses {s₁ : Session} (h : Talks w s w₁ s₁) (h' : Converses w₁ s₁ w') :
    Converses w s w' := by
  obtain ⟨s', htalks, hin⟩ := h'
  exact ⟨s', h.trans htalks, hin⟩

/-- What changes neither the record nor the descriptor may follow. -/
theorem Converses.then_eq (h : Converses w s w₁) (htr : w'.trace = w₁.trace)
    (hfd : w'.cloud.fd = w₁.cloud.fd) : Converses w s w' := by
  obtain ⟨s', htalks, hin⟩ := h
  exact ⟨s', htalks.trans (.of_eq htr), hin.of_fd hfd⟩

theorem Converses.disconnect (h : Converses w s w₁) : Converses w s w₁.disconnect := by
  obtain ⟨s₁, htalks, hin⟩ := h
  exact htalks.converses (World.disconnect_session hin)

/-- And it is given up, after nothing but the struct has changed. -/
theorem Talks.disconnect {w₂ : World P} {s₁ : Session} (h : Talks w s w₁ s₁)
    (hin : InSession w₁ s₁) (htr : w₂.trace = w₁.trace) (hfd : w₂.cloud.fd = w₁.cloud.fd) :
    Converses w s w₂.disconnect :=
  (h.trans (.of_eq htr)).converses (World.disconnect_session (hin.of_fd hfd))

/-- An `UPDEV` on an authenticated connection. -/
theorem Updates.session (hu : Updates w r w') (h : InSession w s) (ha : s.talk.authed = true) :
    ∃ t', Talks w s w' { s with talk := t' } ∧ InSession w' { s with talk := t' } := by
  obtain ⟨w₁, hq, rfl⟩ := hu
  obtain ⟨t', htalks, hin, -⟩ := hq.session h (permits_updev.2 ha) P.cmds_ne.2.2.2.2
  refine ⟨t', htalks.trans (.of_eq ?_), hin.of_fd ?_⟩
  · split <;> rfl
  · split <;> rfl

/-- A connect, and `AUTH` on the new connection. -/
theorem Connects.session_auth {w₂ : World P} (hc : Connects w .succeed w₁) (h : InSession w s)
    (ha : Auths w₂ r w') (hfd : w₂.cloud.fd = w₁.cloud.fd) (htr : w₂.trace = w₁.trace) :
    ∃ s', Talks w s w' s' ∧ InSession w' s' ∧ (r = .succeed → s'.talk = .welcome) := by
  obtain ⟨s₁, htalks, hin, hgreet⟩ := hc.session h
  have hgreet := hgreet rfl
  obtain ⟨t', htalks', hin', hwelcome⟩ := Requests.session ha (hin.of_fd hfd)
    (permits_auth.2 hgreet) P.cmds_ne.2.1.2.2.2
  refine ⟨_, (htalks.trans (.of_eq htr)).trans htalks', hin', fun hr => ?_⟩
  rw [hwelcome hr, Talk.after_auth]
  rw [hgreet]
  rfl

/-- One iteration of the daemon. -/
theorem DaemonStep.session (hd : DaemonStep w w') (h : InSession w s)
    (hm : w.cloud.status = .connected → w.cloud.binded = true → s.talk.authed = true) :
    Converses w s w' := by
  cases hd with
  | initIdle _ _ hp => exact hp.session h
  | initBound _ _ => exact .of_eq h rfl rfl
  | connectFailed _ hc _ =>
    obtain ⟨s', htalks, hin, -⟩ := hc.session h
    exact htalks.converses (.of_eq hin rfl rfl)
  | connectUnbound _ _ hc =>
    obtain ⟨s', htalks, hin, -⟩ := hc.session h
    exact htalks.converses (.of_eq hin rfl rfl)
  | authFailed _ _ hc ha _ =>
    obtain ⟨s', htalks, hin, -⟩ := hc.session_auth h ha rfl rfl
    exact htalks.converses (.of_eq hin rfl rfl)
  | updateFailed _ _ hc ha hu _ =>
    obtain ⟨s', htalks, hin, hw⟩ := hc.session_auth h ha rfl rfl
    obtain ⟨t', htalks', hin'⟩ := hu.session hin (by rw [hw rfl]; rfl)
    exact (htalks.trans htalks').converses (.of_eq hin' rfl rfl)
  | connected _ _ hc ha hu =>
    obtain ⟨s', htalks, hin, hw⟩ := hc.session_auth h ha rfl rfl
    obtain ⟨t', htalks', hin'⟩ := hu.session hin (by rw [hw rfl]; rfl)
    exact (htalks.trans htalks').converses (.of_eq hin' rfl rfl)
  | dropUnbound _ _ => exact .of_eq h rfl rfl
  | upToDate _ _ _ hp => exact hp.session h
  | refreshFailed hs hb _ _ hu _ =>
    obtain ⟨t', htalks, hin⟩ := hu.session (h.of_fd rfl) (hm hs hb)
    exact Talks.converses htalks (.of_eq hin rfl rfl)
  | refreshed hs hb _ _ hu hp =>
    obtain ⟨t', htalks, hin⟩ := hu.session (h.of_fd rfl) (hm hs hb)
    exact Talks.converses htalks (hp.session hin)
  | gaveUp _ _ => exact World.disconnect_session h
  | waiting _ _ _ _ => exact Converses.then_eq (World.disconnect_session h) rfl rfl
  | retry _ _ _ _ => exact Converses.then_eq (World.disconnect_session h) rfl rfl
  | broken _ => exact World.disconnect_session h
  | restart _ => exact Converses.then_eq (World.disconnect_session h) rfl rfl

theorem RegUsrStep.session {account username password : CStr}
    (hr : RegUsrStep account username password w r w') (h : InSession w s) :
    Converses w s w' := by
  have hask : ∀ {w w' : World P} {s : Session} {r : CommonStatus}, InSession w s →
      Regusrs account username password w r w' → Converses w s w' := by
    rintro w w' s r h ⟨code, hq⟩
    obtain ⟨t', htalks, hin, -⟩ := hq.session h (permits_regusr.2 h.closed_or) P.cmds_ne.1.2.2.2.2
    exact ⟨_, htalks, hin⟩
  cases hr with
  | noConnection _ hc _ =>
    obtain ⟨s', htalks, hin, -⟩ := hc.session h
    exact ⟨s', htalks, hin⟩
  | offline _ hc hq =>
    obtain ⟨s', htalks, hin, -⟩ := hc.session h
    exact htalks.converses (hask hin hq)
  | online _ _ hq => exact hask h hq
  | dropped _ _ hq => exact (hask h hq).disconnect.then_eq rfl rfl

theorem BindStep.session {user password devicename : CStr}
    (hb : BindStep user password devicename w r w') (h : InSession w s) : Converses w s w' := by
  obtain ⟨s₀, htalks₀, hin₀⟩ := World.disconnect_session h
  cases hb with
  | refused _ _ => exact .of_eq h rfl rfl
  | noConnection _ hc _ =>
    obtain ⟨s', htalks, hin, -⟩ := hc.session hin₀
    exact (htalks₀.trans htalks).disconnect hin rfl rfl
  | authFailed _ hc ha _ =>
    obtain ⟨s', htalks, hin, -⟩ := hc.session_auth hin₀ ha rfl rfl
    exact (htalks₀.trans htalks).disconnect hin rfl rfl
  | bindFailed _ hc ha hq _ =>
    obtain ⟨code, hq⟩ := hq
    obtain ⟨s', htalks, hin, hw⟩ := hc.session_auth hin₀ ha rfl rfl
    obtain ⟨t', htalks', hin', -⟩ :=
      hq.session hin (permits_bindev.2 (hw rfl)) P.cmds_ne.2.2.2.1.2
    exact ((htalks₀.trans htalks).trans htalks').disconnect hin' rfl rfl
  | bound _ hc ha hq hu =>
    obtain ⟨code, hq⟩ := hq
    obtain ⟨s', htalks, hin, hw⟩ := hc.session_auth hin₀ ha rfl rfl
    obtain ⟨t', htalks', hin', ht'⟩ :=
      hq.session hin (permits_bindev.2 (hw rfl)) P.cmds_ne.2.2.2.1.2
    have hauth : t'.authed = true := by
      rw [ht' rfl, Talk.authed_after P.cmds_ne.2.1.2.1.symm, hw rfl]
      rfl
    obtain ⟨t'', htalks'', hin''⟩ := hu.session hin' hauth
    exact (((htalks₀.trans htalks).trans htalks').trans htalks'').converses (.of_eq hin'' rfl rfl)

theorem UBindOnline.session (hu : UBindOnline w r w') (h : InSession w s)
    (ha : s.talk.authed = true) : Converses w s w' := by
  have hp : s.permits P P.cldcmdUbindev = true := permits_ubindev.2 (Or.inl ha)
  cases hu with
  | acknowledged hq =>
    obtain ⟨t', htalks, hin, -⟩ := Requests.session hq h hp P.cmds_ne.2.2.1.2.2
    exact Talks.disconnect htalks hin rfl rfl
  | failed hq _ =>
    obtain ⟨t', htalks, hin, -⟩ := Requests.session hq h hp P.cmds_ne.2.2.1.2.2
    exact Talks.disconnect htalks hin rfl rfl

theorem UBindStep.session (hu : UBindStep w r w') (h : InSession w s)
    (hm : w.cloud.status = .connected → w.cloud.binded = true → s.talk.authed = true) :
    Converses w s w' := by
  cases hu with
  | notBound _ => exact .of_eq h rfl rfl
  | noConnection _ _ hc _ =>
    obtain ⟨s', htalks, hin, -⟩ := hc.session h
    exact htalks.disconnect hin rfl rfl
  | authFailed _ _ hc ha _ =>
    obtain ⟨s', htalks, hin, -⟩ := hc.session_auth h ha rfl rfl
    exact htalks.disconnect hin rfl rfl
  | offline _ _ hc ha ho =>
    obtain ⟨s', htalks, hin, hw⟩ := hc.session_auth h ha rfl rfl
    exact htalks.converses (ho.session hin (by rw [hw rfl]; rfl))
  | online hb hs ho => exact ho.session h (hm hs hb)

/-- An authenticated connection is known as one. -/
theorem InSession.authed (hin : InSession w s) (hread : session P w.trace = some s)
    (ha : Authenticated w) : s.talk.authed = true := by
  refine (authed_of_okReplies hread (List.ne_nil_of_mem ha.mem_okReplies)).resolve_right ?_
  intro hclosed
  have hsettled := hin.settled_of_fd ha.fd_ne
  rw [hclosed] at hsettled
  cases hsettled

/-- **Every step.** -/
theorem Moves.session {a : Action} (hmv : Moves w a w') (h : InSession w s)
    (hm : w.cloud.status = .connected → w.cloud.binded = true → s.talk.authed = true) :
    Converses w s w' := by
  cases hmv with
  | daemon hd => exact hd.session h hm
  | notice _ _ => exact .of_eq h rfl rfl
  | restart _ => exact .of_eq h rfl rfl
  | ignored _ _ => exact .of_eq h rfl rfl
  | regUsr hr => exact hr.session h
  | bind hb => exact hb.session h
  | ubind hu => exact hu.session h hm
  | ping =>
    rw [World.pinged]
    split
    · exact .of_eq h rfl rfl
    · exact .of_eq h rfl rfl

end Steps

/-! ## Runs -/

section Runs

variable {f : Conf P} {i : SysInfo P} {h : List (Move (World P) Action)} {w : World P}

/-- The conversation after a run, in the state it has reached. -/
theorem Run.inSession (hr : Run f i h w) : ∃ s, session P w.trace = some s ∧ InSession w s := by
  induction hr with
  | start => exact ⟨.offline, rfl, offline_inSession rfl⟩
  | @snoc h w w' a hr hs ih =>
    obtain ⟨s, hread, hin⟩ := ih
    obtain ⟨s', ⟨es, htr, hes⟩, hin'⟩ := hs.moves.session hin fun hst hb =>
      hin.authed hread (Run.authenticated hr hst hb)
    refine ⟨s', ?_, hin'⟩
    rw [htr]
    exact readAll_append_eq hread hes

/-- **The protocol of a connection.**  The automaton reads the record of every run: every
event came when it was allowed.  Between two steps it knows the descriptor in use and that
no reply is outstanding, and while the device is bound and connected it knows that an `AUTH`
has been accepted on this connection. -/
theorem session_conforms (hr : Run f i h w) : ∃ s, session P w.trace = some s ∧
    s.fd = w.cloud.fd ∧ s.waiting = none ∧
    (w.cloud.status = .connected → w.cloud.binded = true → s.talk.authed = true) := by
  obtain ⟨s, hread, hin⟩ := Run.inSession hr
  exact ⟨s, hread, hin.fd_eq, hin.waiting_eq, fun hst hb =>
    hin.authed hread (Run.authenticated hr hst hb)⟩

/-- A run to which the law applies: the device is bound. -/
theorem session_conforms_bind : ∃ w : World sampleProtocol, ∃ s,
    session sampleProtocol w.trace = some s ∧ s.fd = 3 ∧ s.talk.authed = true := by
  obtain ⟨h, w, hr, hs, hb, hfd⟩ := exists_run (sampleConf (CStr.lit "") (CStr.lit "")) sampleInfo
    [(.bind (some (CStr.lit "u")) (some (CStr.lit "p")) (some (CStr.lit "n")), bindInputs 3)]
    (fun r => r.2.cloud.status = .connected ∧ r.2.cloud.binded = true ∧ r.2.cloud.fd = 3)
    (by decide +kernel)
  obtain ⟨s, hread, hfd', -, hauth⟩ := session_conforms hr
  exact ⟨w, s, hread, hfd'.trans hfd, hauth hs hb⟩

/-- **The order of the packets.**  In every run an `AUTH` is the first packet of its
connection, and a `BINDEV` follows on the accepted `AUTH` of its connection, with nothing in
between; and no more answers to device-control packets are written than such packets have
been received. -/
theorem packets_in_order (hr : Run f i h w) :
    (∀ newer fd hdr payload ret older, w.trace = newer ++ .wrote fd hdr payload ret :: older →
      (hdr.cmd = P.cldcmdAuth → ∀ e ∈ conn older, e.isPacket = false) ∧
      (hdr.cmd = P.cldcmdBindev → JustWelcomed P fd older)) ∧
    w.trace.countP (Event.isAnswer P) ≤ w.trace.countP Event.isOrder := by
  obtain ⟨s, hread, -⟩ := Run.inSession hr
  refine ⟨fun newer fd hdr payload ret older htr => ?_, answers_le_orders hread⟩
  rw [htr] at hread
  obtain ⟨t, t', ht, he, -⟩ := exists_of_readAll hread
  -- a packet of these two commands was written when the automaton permitted it
  have hpermits : hdr.cmd ≠ P.cldcmdDevctl → t.IdleOn fd ∧ t.permits P hdr.cmd = true := by
    intro hcmd
    cases sessionStep_allowed he with
    | answer _ hcmd' _ => exact absurd hcmd' hcmd
    | request hidle hp _ => exact ⟨hidle, hp⟩
    | unsent hidle hp _ _ => exact ⟨hidle, hp⟩
  constructor
  · intro hcmd
    obtain ⟨hidle, hp⟩ := hpermits (by rw [hcmd]; exact P.cmds_ne.2.1.2.2.2)
    have htalk : t.talk = .greeted := permits_auth.1 (hcmd ▸ hp)
    exact silent_of_fresh ht hidle.2 (by rw [htalk]; rfl)
  · intro hcmd
    obtain ⟨hidle, hp⟩ := hpermits (by rw [hcmd]; exact P.cmds_ne.2.2.2.1.2)
    rw [← hidle.1]
    exact newest_of_welcome ht hidle.2 (permits_bindev.1 (hcmd ▸ hp))

/-- A run to which the law applies: the device is bound, and has sent a `BINDEV`. -/
theorem packets_in_order_bind : ∃ w : World sampleProtocol,
    (∃ e ∈ w.trace, ∃ fd hdr payload ret, e = .wrote fd hdr payload ret ∧
      hdr.cmd = sampleProtocol.cldcmdBindev ∧ ∃ older, JustWelcomed sampleProtocol fd older) ∧
    w.trace.countP (Event.isAnswer sampleProtocol) ≤ w.trace.countP Event.isOrder := by
  obtain ⟨h, w, hr, hbind⟩ := exists_run (sampleConf (CStr.lit "") (CStr.lit "")) sampleInfo
    [(.bind (some (CStr.lit "u")) (some (CStr.lit "p")) (some (CStr.lit "n")), bindInputs 3)]
    (fun r => r.2.trace.any (fun e => match e with
      | .wrote _ hdr _ _ => decide (hdr.cmd = sampleProtocol.cldcmdBindev)
      | _ => false) = true)
    (by decide +kernel)
  obtain ⟨hlaw, hcount⟩ := packets_in_order hr
  obtain ⟨e, he, hcmd⟩ := List.any_eq_true.1 hbind
  cases e with
  | wrote fd hdr payload ret =>
    obtain ⟨newer, older, htr⟩ := List.append_of_mem he
    have hcmd := of_decide_eq_true hcmd
    exact ⟨w, ⟨_, he, fd, hdr, payload, ret, rfl, hcmd, older,
      (hlaw _ _ _ _ _ _ htr).2 hcmd⟩, hcount⟩
  | _ => cases hcmd

end Runs

end SwCloud
