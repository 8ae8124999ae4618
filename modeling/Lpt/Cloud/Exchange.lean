import Lpt.Cloud.Phrases

/-!
# The discipline of an exchange

`cloud_send_packet` is the only function that reads a reply, and it does so right after
it has written its request: the one thing it does in between is to read `cloud.fd` once
more.  This is a fact about the texts of the functions, so it is stated as a discipline
(`exchange`) and proved of the phrases they are made of (`tidy_calling`).  It says nothing
about what the packet that is read has to do with the request.
-/

namespace SwCloud

open CLib Effect

variable {P : CldProtocol}

/-- A packet that `cloud_send_packet` reads a reply to: neither `PKTFLG_NOTIFY` nor
`PKTFLG_RESPONSE` is set. -/
def IsRequest (P : CldProtocol) (hdr : CldHdr) : Prop :=
  hdr.flags &&& (P.pktflgNotify ||| P.pktflgResponse) = 0

instance (hdr : CldHdr) : Decidable (IsRequest P hdr) := inferInstanceAs (Decidable (_ = _))

/-- How far a thread is in an exchange. -/
inductive Phase where
  /-- It is in none. -/
  | idle
  /-- It has written its request. -/
  | asked
  /-- It is about to read the reply from `fd`. -/
  | reading (fd : ℤ)
  deriving DecidableEq

/-- A request that has been written is followed by a read of `cloud.fd`, and that by a
read of the reply from there; a reply is not read at any other time. -/
def exchange (P : CldProtocol) : Discipline (Op P) (Ans P) Phase
  | .idle, .tcpWrite _ hdr _ => some fun r => if r = 0 ∧ IsRequest P hdr then .asked else .idle
  | .idle, .recvPacket (.reply _ _) _ _ => none
  | .idle, _ => some fun _ => .idle
  | .asked, .get => some fun c => .reading c.fd
  | .reading fd, .recvPacket (.reply _ _) fd' _ => if fd' = fd then some fun _ => .idle else none
  | _, _ => none

/-- The program leaves no exchange unfinished. -/
def Tidy {α : Type} (p : CloudM P α) : Prop := p.Obeys (exchange P) .idle .idle

/-- The operations that have no part in an exchange. -/
def Op.outside : Op P → Prop
  | .tcpWrite _ _ _ | .recvPacket (.reply _ _) _ _ => False
  | _ => True

section Rules

variable {α β : Type} {p q : CloudM P α}

theorem exchange_outside {o : Op P} (ho : o.outside) :
    exchange P .idle o = some fun _ => .idle := by
  cases o with
  | tcpWrite fd hdr payload => exact ho.elim
  | recvPacket rc fd res =>
    cases rc with
    | reply hdr payload => exact ho.elim
    | control => rfl
  | _ => rfl

theorem Tidy.bind {f : α → CloudM P β} (hp : Tidy p) (hf : ∀ a, Tidy (f a)) : Tidy (p >>= f) :=
  Prog.Obeys.bind hp hf

theorem Tidy.ite {c : Prop} [Decidable c] (hp : Tidy p) (hq : Tidy q) :
    Tidy (if c then p else q) :=
  Prog.Obeys.ite (fun _ => hp) fun _ => hq

theorem tidy_pure (a : α) : Tidy (pure a : CloudM P α) := rfl

theorem tidy_perform {o : Op P} (ho : o.outside) : Tidy (perform o) :=
  ⟨_, exchange_outside ho, fun _ => rfl⟩

end Rules

/-! ## The functions of the module -/

section Functions

/-- **A request is one exchange.** -/
theorem tidy_cloudSendPacket (cmd : ℕ) (data : CStr) (flags : ℕ) (res : List UInt8) :
    Tidy (cloudSendPacket cmd data flags res : CloudM P _) := by
  unfold cloudSendPacket
  refine Tidy.ite (.bind (tidy_perform trivial) fun _ => tidy_pure _) ?_
  refine .bind (tidy_perform trivial) fun past => .bind (tidy_perform trivial) fun c => ?_
  refine ⟨_, rfl, ?_⟩
  intro ret
  -- the phase after the write is the one in which the rest of the text goes on
  refine .ite (fun hret => ?_) fun hret => .ite (fun hf => ?_) fun hf => ?_
  · rw [if_neg fun h => hret h.1]
    exact tidy_pure _
  · rw [if_neg fun h => hf h.2]
    exact tidy_pure _
  · rw [if_pos ⟨not_not.1 hret, not_not.1 hf⟩]
    refine ⟨_, rfl, fun c => ⟨_, if_pos rfl, ?_⟩⟩
    intro r
    exact Tidy.ite (tidy_pure _)
      (Tidy.ite (.bind (tidy_perform trivial) fun _ => tidy_pure _) (tidy_pure _))

theorem Op.outside_of_plain {o : Op P} (ho : o.plain) : o.outside := by
  cases o with
  | tcpWrite fd hdr payload => exact ho.elim
  | recvPacket rc fd res => exact ho.elim
  | _ => trivial

/-- **All phrases of the module are tidy**: only `cloud_send_packet` begins an exchange. -/
theorem tidy_plain : Plain fun α (p : CloudM P α) => Tidy p where
  pure := tidy_pure
  bind hp hf := hp.bind hf
  perform _ ho := tidy_perform (Op.outside_of_plain ho)
  modify _ := tidy_perform trivial
  sendPacket := tidy_cloudSendPacket
  recvControl _ _ := tidy_perform trivial

/-- And so are those that take the mutex. -/
theorem tidy_calling : Calling fun α (p : CloudM P α) => Tidy p where
  toPlain := tidy_plain
  setStatus _ := .bind (tidy_perform trivial) fun _ => .bind (tidy_perform trivial) fun _ =>
    tidy_perform trivial
  receive := by
    intro _ buf k hk
    refine .bind (tidy_perform trivial) fun _ => .bind (tidy_plain.receiveControl buf) fun r => ?_
    exact .bind (tidy_perform trivial) fun _ => hk r
  getStatus := .bind (tidy_perform trivial) fun _ => .bind (tidy_perform trivial) fun _ =>
    .bind (tidy_perform trivial) fun _ => tidy_pure _

theorem tidy_cloudNeedUpdate : Tidy (cloudNeedUpdate : CloudM P _) := by
  unfold cloudNeedUpdate
  refine .bind (tidy_perform trivial) fun _ => .ite (tidy_pure _) ?_
  exact .bind (tidy_perform trivial) fun _ => .bind (tidy_perform trivial) fun _ => tidy_pure _

theorem tidy_cloudDaemon : Tidy (cloudDaemon : CloudM P _) :=
  tidy_calling.cloudDaemon (tidy_calling.daemonConnected tidy_cloudNeedUpdate)

theorem tidy_swCloudRegUsr (account username password : Option CStr) :
    Tidy (swCloudRegUsr account username password : CloudM P _) :=
  tidy_calling.swCloudRegUsr account username password

theorem tidy_swCloudUBind : Tidy (swCloudUBind : CloudM P _) := tidy_calling.swCloudUBind

end Functions

end SwCloud
