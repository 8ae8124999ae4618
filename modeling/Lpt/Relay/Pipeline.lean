import Lpt.Relay.Transparent
import Lpt.Relay.Workers

/-!
# From the camera to a listener

The relay client receives from the camera and sends to the server over one of its connections;
the worker of that connection appends to the file, and the workers of the listeners send it.
The three programs run in any interleaving, with any other connections beside them.  As in
`Lpt.Relay.Workers`, one worker for a connection is an assumption; and the file, which is opened
with `"a"` and never truncated, is empty at the start.

* `System`, `PipeStep` — the relay client and all workers of the server.
* `sees_server`, `sees_client` — each side sees a run of its own.
* `end_to_end` — what a listener has been sent is what the camera has.
-/

namespace HttpRelay.Pipeline

open CLib Client Merge Server Trans

/-! ## The system -/

/-- The relay client, and the server. -/
structure System where
  relay : Relay
  server : Shared

/-- Who goes on. -/
inductive PipeAct where
  /-- The relay client, with an iteration of `process_relay`. -/
  | relay (c : Round)
  /-- A worker of the server, or the client of another connection. -/
  | server (a : ServerAct)

/-- What the relay client sends in the step from `s` to `s'`. -/
def sentOn (s s' : Relay) : List UInt8 := s'.sent.drop s.sent.length

/-- One step.  What the relay client sends goes over the connection `u`. -/
def PipeStep (cam : Response) (u : ℕ) (s : System) (a : PipeAct) (s' : System) : Prop :=
  match a with
  | .relay c => RelayStep cam s.relay c s'.relay ∧
      ServerStep s.server (.sends u (sentOn s.relay s'.relay)) s'.server
  | .server a => s'.relay = s.relay ∧ (∀ bs, a ≠ .sends u bs) ∧ ServerStep s.server a s'.server

/-- The relay client has connected to the camera and to the server, whose file is empty. -/
def pipeStart : System := ⟨relayStart, serverStart []⟩

/-! ## The two sides -/

/-- The iteration of the relay client that a step is. -/
inductive ClientLabel : Move System PipeAct → Round → Prop
  | relay {s s' : System} {c : Round} : ClientLabel ⟨s, .relay c, s'⟩ c

/-- What a step is for the server. -/
inductive ServerLabel (u : ℕ) : Move System PipeAct → ServerAct → Prop
  | relay {s s' : System} {c : Round} :
      ServerLabel u ⟨s, .relay c, s'⟩ (.sends u (sentOn s.relay s'.relay))
  | server {s s' : System} {a : ServerAct} : ServerLabel u ⟨s, .server a, s'⟩ a

/-- Nobody uploads but over the connection `u`. -/
def Sole (u : ℕ) (a : ServerAct) : Prop := ∀ i c, a = .post i c → i = u

/-- The relay client sends on what it receives, and no `send` of it fails; its worker prints what
it receives, no other one prints anything, and that of the listener `k` sends what it reads. -/
def CleanStep (cam : Response) (u k : ℕ) (m : Move System PipeAct) : Prop :=
  match m.label with
  | .relay c => .error ∉ c.sends ∧ Clean cam ⟨m.pre.relay, c, m.post.relay⟩
  | .server a => Sole u a ∧ PlainRead u ⟨m.pre.server, a, m.post.server⟩ ∧
      CleanGet k ⟨m.pre.server, a, m.post.server⟩

section Sides

variable {cam : Response} {u k : ℕ} {s : System} {h : List (Move System PipeAct)}

/-- What the client sees is what it does itself. -/
theorem sees_client (cam : Response) (u : ℕ) :
    Simulates (PipeStep cam u) (RelayStep cam) (fun _ => True) System.relay ClientLabel := by
  intro s a s' _ hs
  refine ⟨trivial, ?_⟩
  cases a with
  | relay c => exact Or.inr ⟨c, .relay, hs.1⟩
  | server a => exact Or.inl hs.1

/-- The server sees the relay client as the client of one of its connections. -/
theorem sees_server (cam : Response) (u : ℕ) :
    Simulates (PipeStep cam u) ServerStep (fun _ => True) System.server (ServerLabel u) := by
  intro s a s' _ hs
  refine ⟨trivial, Or.inr ?_⟩
  cases a with
  | relay c => exact ⟨_, .relay, hs.2⟩
  | server a => exact ⟨a, .server, hs.2.2⟩

/-- What has been sent over the connection is what the client has sent. -/
theorem wire_eq (hp : Path (PipeStep cam u) pipeStart h s) :
    (s.server.conn u).wire = s.relay.sent := by
  refine hp.invariant (fun s => (s.server.conn u).wire = s.relay.sent) rfl fun s a s' hi hs => ?_
  cases a with
  | relay c =>
    obtain ⟨⟨-, -, go, out, -, hrelay⟩, hserver⟩ := hs
    rw [← Option.some.inj hserver, Shared.conn_set_self, hi, sentOn, hrelay, List.drop_left]
  | server a =>
    obtain ⟨hrelay, hno, hserver⟩ := hs
    rw [hrelay, ServerStep.wire_eq hserver hno, hi]

/-- What the client has sent, if all it has received was clean. -/
theorem sent_expected (hp : Path (PipeStep cam u) pipeStart h s)
    (hclean : ∀ m ∈ h, CleanStep cam u k m) : AsExpected cam s.relay := by
  obtain ⟨-, h', hpath, hseen⟩ := hp.simulates (sees_client cam u) trivial
  refine hpath.invariant_of (AsExpected cam) (C := fun m => .error ∉ m.label.sends ∧ Clean cam m)
    (hseen.forall fun m hm c hc => ?_) ⟨List.nil_prefix, rfl⟩
    fun _ _ _ hi hc hs => (hs.keeps_iff hc.1 hi).2 hc.2
  cases hc with
  | relay => exact hclean _ hm

/-- And that is a part of what it should send. -/
theorem expected_prefix {received : List UInt8} (hpre : received <+: cam.stream) :
    expected cam received <+: headline.bytes ++ cam.body := by
  unfold expected
  split_ifs with hnil hlt
  · exact List.nil_prefix
  · exact List.prefix_append _ _
  · have hbody : received.drop cam.head.length <+: cam.body := by
      have hdrop := hpre.drop cam.head.length
      rwa [Response.stream, List.drop_left] at hdrop
    exact (List.prefix_append_right_inj _).2 hbody

/-- Nobody else has printed anything. -/
theorem stored_nil (hp : Path (PipeStep cam u) pipeStart h s)
    (hclean : ∀ m ∈ h, CleanStep cam u k m) {i : ℕ} (hi : i ≠ u) :
    (s.server.conn i).stored = [] := by
  refine hp.invariant_of (fun s => (s.server.conn i).stored = []) (C := CleanStep cam u k) hclean
    rfl fun s a s' hs hc hstep => ?_
  have hno : ∀ round, a ≠ .server (.post i round) := by
    rintro round rfl
    exact hi (hc.1 i round rfl)
  cases a with
  | relay c =>
    exact (ServerStep.posts_nothing hstep.2 nofun).1.trans hs
  | server a =>
    exact (ServerStep.posts_nothing hstep.2.2 fun round h => hno round (congrArg _ h)).1.trans hs

/-- What the listener has been sent is the beginning of what the worker of the relay client has
received after its first look. -/
theorem sent_posted (hp : Path (PipeStep cam u) pipeStart h s)
    (hclean : ∀ m ∈ h, CleanStep cam u k m) :
    (s.server.conn k).sent <+: (s.server.conn u).posted := by
  obtain ⟨-, h', hserver, hseen⟩ := hp.simulates (sees_server cam u) trivial
  have haccounted := accounted_run hserver
  -- the upload prints what it receives
  have hstored : (s.server.conn u).stored = (s.server.conn u).posted := by
    refine hserver.invariant_of (fun s => (s.conn u).stored = (s.conn u).posted)
      (C := PlainRead u) (hseen.forall fun m hm a ha => ?_) rfl
      fun _ _ _ hi hc hs => (hs.plain_iff hi).2 hc
    cases ha with
    | relay => exact nofun
    | server => exact (hclean _ hm).2.1
  -- the download sends the beginning of the file
  have hsent : (s.server.conn k).sent <+: content s.server.file := by
    refine Serving.sent_prefix (download_serving hserver (hseen.forall fun m hm a ha => ?_))
    cases ha with
    | relay => exact nofun
    | server => exact (hclean _ hm).2.2
  -- which is what the upload has printed, as far as it is in the file
  have hnobody : ∀ j, j ≠ some u → own j s.server.file = [] := by
    intro j hj
    cases j with
    | none => exact haccounted.own_none
    | some i =>
      have hi := haccounted.own_conn i
      rw [stored_nil hp hclean fun h => hj (congrArg some h)] at hi
      exact (List.append_eq_nil_iff.1 hi).1
  refine hsent.trans ?_
  rw [content_of_sole hnobody, ← hstored, ← haccounted.own_conn u]
  exact List.prefix_append _ _

end Sides

/-! ## The law -/

section Runs

variable {cam : Response} {u k : ℕ} {s : System} {h : List (Move System PipeAct)}

/-- **End to end.**  In every run whose steps are clean, what the worker of the relay client has
looked at, and behind it what the listener has been sent, is the beginning of the head of the
`POST` request and the body of the camera.  So the listener has been sent the beginning of that
body if the worker has looked at exactly that head. -/
theorem end_to_end (hp : Path (PipeStep cam u) pipeStart h s)
    (hclean : ∀ m ∈ h, CleanStep cam u k m) :
    (s.server.conn u).looked ++ (s.server.conn k).sent <+: headline.bytes ++ cam.body ∧
    ((s.server.conn u).looked = headline.bytes → (s.server.conn k).sent <+: cam.body) := by
  obtain ⟨hpre, hexpected⟩ := sent_expected hp hclean
  obtain ⟨-, h', hserver, -⟩ := hp.simulates (sees_server cam u) trivial
  have hall : (s.server.conn u).looked ++ (s.server.conn k).sent <+:
      headline.bytes ++ cam.body :=
    calc (s.server.conn u).looked ++ (s.server.conn k).sent
      _ <+: (s.server.conn u).looked ++ (s.server.conn u).posted :=
        (List.prefix_append_right_inj _).2 (sent_posted hp hclean)
      _ <+: (s.server.conn u).wire := (accounted_run hserver).received u
      _ = expected cam s.relay.received := (wire_eq hp).trans hexpected
      _ <+: headline.bytes ++ cam.body := expected_prefix hpre
  refine ⟨hall, fun hlooked => ?_⟩
  rw [hlooked] at hall
  exact (List.prefix_append_right_inj _).1 hall

end Runs

/-! ## A run -/

/-- A step taken from a script. -/
def pipeStep (cam : Response) (u : ℕ) (s : System) : PipeAct → Option System
  | .relay c => do
      let r ← relayStep cam s.relay c
      let t ← serverStep s.server (.sends u (sentOn s.relay r))
      some ⟨r, t⟩
  | .server (.sends i bs) =>
      if i = u then none else (serverStep s.server (.sends i bs)).map (System.mk s.relay)
  | .server a => (serverStep s.server a).map (System.mk s.relay)

theorem pipeStep_eq {cam : Response} {u : ℕ} {s s' : System} {a : PipeAct}
    (h : pipeStep cam u s a = some s') : PipeStep cam u s a s' := by
  have hquiet : ∀ {a : ServerAct}, (∀ bs, a ≠ .sends u bs) →
      (serverStep s.server a).map (System.mk s.relay) = some s' →
      PipeStep cam u s (.server a) s' := by
    intro a hno h
    obtain ⟨t, ht, rfl⟩ := Option.map_eq_some_iff.1 h
    exact ⟨rfl, hno, ht⟩
  cases a with
  | relay c =>
    obtain ⟨r, hr, h⟩ := Option.bind_eq_some_iff.1 h
    obtain ⟨t, ht, h⟩ := Option.bind_eq_some_iff.1 h
    cases h
    exact ⟨relayStep_eq hr, ht⟩
  | server a =>
    cases a with
    | sends i bs =>
      rw [pipeStep] at h
      split_ifs at h with hi
      refine hquiet (fun _ heq => hi ?_) h
      cases heq
      rfl
    | look i recvline r es => exact hquiet nofun h
    | post i c => exact hquiet nofun h
    | flush i n => exact hquiet nofun h
    | get i c => exact hquiet nofun h

instance (u : ℕ) : DecidablePred (Sole u)
  | .post j _ => decidable_of_iff (j = u)
      ⟨fun h _ _ he => by cases he; exact h, fun h => h _ _ rfl⟩
  | .sends _ _ | .look _ _ _ _ | .flush _ _ | .get _ _ => .isTrue fun _ _ he => nomatch he

instance (cam : Response) (u k : ℕ) : DecidablePred (CleanStep cam u k)
  | ⟨_, .relay _, _⟩ => inferInstanceAs (Decidable (_ ∧ _))
  | ⟨_, .server _, _⟩ => inferInstanceAs (Decidable (_ ∧ _ ∧ _))

/-- A run to which the law applies: the two bytes of the camera arrive at the listener. -/
theorem end_to_end_two : ∃ h s, Path (PipeStep (sampleCamera [1, 2]) 0) pipeStart h s ∧
    (s.server.conn 1).sent = [1, 2] ∧ (s.server.conn 1).sent <+: (sampleCamera [1, 2]).body := by
  obtain ⟨h, s, hp, hclean, hlooked, hsent⟩ : ∃ h s,
      Path (PipeStep (sampleCamera [1, 2]) 0) pipeStart h s ∧
        (∀ m ∈ h, CleanStep (sampleCamera [1, 2]) 0 1 m) ∧
        (s.server.conn 0).looked = headline.bytes ∧ (s.server.conn 1).sent = [1, 2] :=
    exists_replay (fun _ _ _ => pipeStep_eq)
      [.relay (pieceRound (sampleCamera []).head 118),
        .server (.sends 1 (text "GET /getaudio")),
        .server (.look 0 Server.zeros (.data headline.bytes) [.sent okAnswer.length]),
        .relay (pieceRound [1, 2] 2),
        .server (.post 0 ⟨1, true, Server.zeros, .data [1, 2]⟩), .server (.flush 0 2),
        .server (.look 1 Server.zeros (.data (text "GET /getaudio")) [.sent audioHead.length]),
        .server (.get 1 ⟨1, true, Server.zeros, [.sent 2]⟩)]
      (fun r => (∀ m ∈ r.1, CleanStep (sampleCamera [1, 2]) 0 1 m) ∧
        (r.2.server.conn 0).looked = headline.bytes ∧ (r.2.server.conn 1).sent = [1, 2])
      (by decide +kernel)
  exact ⟨h, s, hp, hsent, (end_to_end hp hclean).2 hlooked⟩

end HttpRelay.Pipeline
