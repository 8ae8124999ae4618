import Lpt.Relay.Echo
import Lpt.Relay.EchoClient

/-!
# The echo client and the echo server

The client sends lines, and prints pieces; the server reads pieces, and passes each to one
`send`.  Between them are two streams, which deliver bytes in their order, in pieces of any
size and at any time.  Neither side looks at how much `send` has taken.

* `System`, `SysStep` — the two programs and the two streams, in any interleaving.
* `Whole` — a `send` has taken all it was given.
* `echo_system` — what has been received and what is still on its way is a part of what has
  been typed, in the same order; it is all of it exactly if every `send` was whole; and what
  is printed is what has been received exactly if all pieces are covered.
-/

namespace EchoClient

open CLib HttpRelay EchoServer Trans

/-! ## The system -/

/-- How far the client has come. -/
inductive Phase where
  /-- At the beginning of the loop body. -/
  | typing
  /-- Behind `send`. -/
  | waiting
  /-- Behind the loop. -/
  | ended
  deriving DecidableEq

/-- The two programs, with what is on its way between them. -/
structure System where
  client : Client
  phase : Phase
  /-- From the client to the server. -/
  up : List UInt8
  server : Loop Echo
  /-- The piece that the server has read and not yet passed to `send`. -/
  held : Option (List UInt8)
  /-- From the server to the client. -/
  down : List UInt8
  /-- A record of the texts that the client has passed to `send`. -/
  typed : List UInt8
  /-- A record of the pieces it has received, newest first. -/
  pieces : List (List UInt8)

/-- What happens next. -/
inductive Act where
  /-- The client reads a line and passes it to `send`. -/
  | types (ev : SendEv)
  /-- It finds the end of its input. -/
  | ends
  /-- It has waited, and receives if there is something to receive, and prints. -/
  | waits (ret : ℤ) (eintr : Bool) (r : Recv)
  /-- The server calls `read`. -/
  | reads (r : ReadEv)
  /-- It passes what it has read to `send`. -/
  | echoes (ev : SendEv)

/-- How many bytes `send` has taken. -/
def takes : SendEv → ℕ
  | .sent n => n
  | .wouldBlock | .error => 0

/-- What `recv` stores, if it is called. -/
def received (fd ret : ℤ) (eintr : Bool) (r : Recv) : List UInt8 :=
  if recvEcho fd ret eintr = true then r.bytes else []

/-- `r` is a result of `recv` at this moment: the next bytes, or the end of the stream once
the server has left its loop. -/
def System.Gives (s : System) (r : Recv) : Prop :=
  r.Fits s.down [] EchoClient.maxLine ∧ (r = .closed → s.server.Left ∧ s.down = [])

/-- `r` is a result of `read` at this moment. -/
def System.Reads (s : System) : ReadEv → Prop
  | .data bs => bs ≠ [] ∧ bs.length ≤ EchoServer.maxLine ∧ bs <+: s.up
  | .closed => s.phase = .ended ∧ s.up = []
  | .eintr | .error => True

instance (s : System) (r : Recv) : Decidable (s.Gives r) := inferInstanceAs (Decidable (_ ∧ _))

instance (s : System) : (r : ReadEv) → Decidable (s.Reads r)
  | .data _ | .closed => inferInstanceAs (Decidable (_ ∧ _))
  | .eintr | .error => .isTrue trivial

/-- One step. -/
def sysStep (fd : ℤ) (s : System) : Act → Option System
  | .types ev =>
      if s.phase = .typing then
        (strCliSend s.client).bind fun (t, c) =>
          if t.length < takes ev then none
          else some { s with
            client := c, phase := .waiting, up := s.up ++ t.take (takes ev), typed := s.typed ++ t }
      else none
  | .ends =>
      if s.phase = .typing ∧ (strCliSend s.client).isNone = true then
        some { s with phase := .ended }
      else none
  | .waits ret eintr r =>
      if s.phase = .waiting ∧ (recvEcho fd ret eintr = true → s.Gives r) then
        let bs := received fd ret eintr r
        some { s with
          client := strCliRecv s.client bs, phase := .typing, down := s.down.drop bs.length,
          pieces := bs :: s.pieces }
      else none
  | .reads r =>
      if s.held = none ∧ ¬ s.server.Left ∧ s.Reads r then
        match r with
        | .data bs => some { s with held := some bs, up := s.up.drop bs.length }
        | r => (loopStep strEcho id s.server ⟨r, .error⟩).map fun l => { s with server := l }
      else none
  | .echoes ev =>
      s.held.bind fun bs =>
        (loopStep strEcho id s.server ⟨.data bs, ev⟩).map fun l => { s with
          server := l, held := none
          down := s.down ++ l.state.taken.drop s.server.state.taken.length }

/-- One step. -/
def SysStep (fd : ℤ) (s : System) (a : Act) (s' : System) : Prop := sysStep fd s a = some s'

theorem sysStep_eq (fd : ℤ) {s s' : System} {a : Act} (h : sysStep fd s a = some s') :
    SysStep fd s a s' := h

/-- The client has connected. -/
def sysStart (stdin : List UInt8) (sendline recvline : Frame (EchoClient.maxLine + 1)) :
    System where
  client := ⟨stdin, sendline.mem, recvline.mem, []⟩
  phase := .typing
  up := []
  server := echoStart
  held := none
  down := []
  typed := []
  pieces := []

/-! ## The law -/

/-- All that the client has received. -/
def System.received (s : System) : List UInt8 := s.pieces.reverse.flatten

/-- What is on its way to it. -/
def System.onTheWay (s : System) : List UInt8 := s.down ++ s.held.getD [] ++ s.up

/-- If the step is a `send`, it takes all it is given. -/
def Whole (m : Move System Act) : Prop :=
  match m.label with
  | .types ev => ∀ t c, strCliSend m.pre.client = some (t, c) → takes ev = t.length
  | .echoes ev => ∀ bs, m.pre.held = some bs → takes ev = bs.length
  | _ => True

/-! ## The streams -/

section Streams

variable {fd : ℤ} {s s' : System} {a : Act} {W : Prop}

/-- A piece is appended to both sides: whole to the one, in part to the other. -/
theorem append_take_eq_iff {x y t : List UInt8} {n : ℕ} (hle : x.length ≤ y.length)
    (hn : n ≤ t.length) : x ++ t.take n = y ++ t ↔ x = y ∧ n = t.length := by
  have hlen : (t.take n).length = n := by rw [List.length_take, min_eq_left hn]
  constructor
  · intro heq
    have hsum := congrArg List.length heq
    rw [List.length_append, List.length_append, hlen] at hsum
    exact ⟨(List.append_inj heq (by omega)).1, by omega⟩
  · rintro ⟨rfl, rfl⟩
    rw [List.take_length]

/-- The turn of the server in which it passes on what it holds. -/
theorem strEcho_data {e e' : Echo} {bs : List UInt8} {ev : SendEv} {go : Bool}
    (h : strEcho e ⟨.data bs, ev⟩ = some (go, e')) : go = true ∧ takes ev ≤ bs.length ∧
      e' = ⟨e.read ++ bs, e.taken ++ bs.take (takes ev)⟩ := by
  unfold strEcho at h
  dsimp only at h
  by_cases hsize : bs = [] ∨ EchoServer.maxLine < bs.length
  · rw [if_pos hsize] at h
    cases h
  rw [if_neg hsize] at h
  cases ev with
  | sent n =>
    dsimp only at h
    by_cases hn : bs.length < n
    · rw [if_pos hn] at h
      cases h
    · rw [if_neg hn] at h
      cases h
      exact ⟨rfl, not_lt.1 hn, rfl⟩
  | wouldBlock =>
    cases h
    exact ⟨rfl, Nat.zero_le _, by rw [takes, List.take_zero, List.append_nil]⟩
  | error =>
    cases h
    exact ⟨rfl, Nat.zero_le _, by rw [takes, List.take_zero, List.append_nil]⟩

/-- A turn in which the server has read nothing. -/
theorem strEcho_nothing {e e' : Echo} {r : ReadEv} {ev : SendEv} {go : Bool}
    (h : strEcho e ⟨r, ev⟩ = some (go, e')) (hr : ∀ bs, r ≠ .data bs) : e' = e := by
  cases r with
  | data bs => exact absurd rfl (hr bs)
  | closed => cases h; rfl
  | eintr => cases h; rfl
  | error => cases h; rfl

/-- The state of the loop after a round. -/
theorem EchoStep.state_eq {l l' : Loop Echo} {c : Turn} (h : loopStep strEcho id l c = some l') :
    ∃ go, strEcho l.state c = some (go, l'.state) := by
  obtain ⟨e, go, e', rfl, hb, hpost⟩ := LoopStep.cases h
  refine ⟨go, ?_⟩
  rw [hpost]
  cases go <;> exact hb

/-- **What one step does.** -/
inductive SysCase (s : System) : Act → System → Prop
  | types {ev : SendEv} {t : List UInt8} {c : Client} : strCliSend s.client = some (t, c) →
      takes ev ≤ t.length →
      SysCase s (.types ev) { s with
        client := c, phase := .waiting, up := s.up ++ t.take (takes ev), typed := s.typed ++ t }
  | ends : SysCase s .ends { s with phase := .ended }
  | waits {ret : ℤ} {eintr : Bool} {r : Recv} {bs : List UInt8} : bs <+: s.down →
      SysCase s (.waits ret eintr r) { s with
        client := strCliRecv s.client bs, phase := .typing, down := s.down.drop bs.length,
        pieces := bs :: s.pieces }
  | reads {bs : List UInt8} : s.held = none → bs <+: s.up →
      SysCase s (.reads (.data bs)) { s with held := some bs, up := s.up.drop bs.length }
  /-- The server has read nothing. -/
  | turns {r : ReadEv} {l : Loop Echo} : l.state = s.server.state →
      SysCase s (.reads r) { s with server := l }
  | echoes {ev : SendEv} {bs : List UInt8} {l : Loop Echo} : s.held = some bs →
      takes ev ≤ bs.length →
      l.state = ⟨s.server.state.read ++ bs, s.server.state.taken ++ bs.take (takes ev)⟩ →
      SysCase s (.echoes ev) { s with
        server := l, held := none
        down := s.down ++ l.state.taken.drop s.server.state.taken.length }

/-- **Every step is one of these.** -/
theorem SysStep.cases (hs : SysStep fd s a s') : SysCase s a s' := by
  unfold SysStep sysStep at hs
  cases a with
  | types ev =>
    dsimp only at hs
    split_ifs at hs with hphase
    obtain ⟨⟨t, c⟩, ht, hs⟩ := Option.bind_eq_some_iff.1 hs
    dsimp only at hs
    split_ifs at hs with hn
    cases hs
    exact .types ht (not_lt.1 hn)
  | ends =>
    dsimp only at hs
    split_ifs at hs with hphase
    cases hs
    exact .ends
  | waits ret eintr r =>
    dsimp only at hs
    split_ifs at hs with hg
    cases hs
    refine .waits ?_
    unfold received
    split_ifs with hrecv
    · exact Recv.Fits.prefix (hg.2 hrecv).1 List.nil_prefix
    · exact List.nil_prefix
  | reads r =>
    dsimp only at hs
    split_ifs at hs with hg
    obtain ⟨hheld, -, hreads⟩ := hg
    have hturn : ∀ {l : Loop Echo}, (∀ bs, r ≠ .data bs) →
        loopStep strEcho id s.server ⟨r, .error⟩ = some l → l.state = s.server.state := by
      intro l hr hl
      obtain ⟨go, hgo⟩ := EchoStep.state_eq hl
      exact strEcho_nothing hgo hr
    cases r with
    | data bs =>
      cases hs
      exact .reads hheld hreads.2.2
    | closed =>
      obtain ⟨l, hl, rfl⟩ := Option.map_eq_some_iff.1 hs
      exact .turns (hturn nofun hl)
    | eintr =>
      obtain ⟨l, hl, rfl⟩ := Option.map_eq_some_iff.1 hs
      exact .turns (hturn nofun hl)
    | error =>
      obtain ⟨l, hl, rfl⟩ := Option.map_eq_some_iff.1 hs
      exact .turns (hturn nofun hl)
  | echoes ev =>
    obtain ⟨bs, hheld, hs⟩ := Option.bind_eq_some_iff.1 hs
    obtain ⟨l, hl, rfl⟩ := Option.map_eq_some_iff.1 hs
    obtain ⟨go, hgo⟩ := EchoStep.state_eq hl
    obtain ⟨-, hn, hstate⟩ := strEcho_data hgo
    exact .echoes hheld hn hstate

/-- What the two streams carry, `W` being that every `send` so far was whole. -/
structure Flows (s : System) (W : Prop) : Prop where
  /-- What the server has read, or has yet to read, has been typed. -/
  typed : (s.server.state.read ++ s.held.getD [] ++ s.up).Sublist s.typed
  echoed : s.server.state.taken.Sublist s.server.state.read
  taken_eq : s.server.state.taken = s.received ++ s.down
  whole_iff : s.server.state.read ++ s.held.getD [] ++ s.up = s.typed ∧
    s.server.state.taken = s.server.state.read ↔ W
  nulFree : 0 ∉ s.typed

theorem Flows.congr {W' : Prop} (hi : Flows s W) (h : W ↔ W') : Flows s W' :=
  ⟨hi.typed, hi.echoed, hi.taken_eq, hi.whole_iff.trans h, hi.nulFree⟩

/-- The client passes a text to `send`. -/
theorem Flows.types (hi : Flows s W) {t : List UInt8} {c : Client} {n : ℕ} (hfree : 0 ∉ t)
    (hn : n ≤ t.length) : Flows { s with
      client := c, phase := .waiting, up := s.up ++ t.take n, typed := s.typed ++ t }
        (n = t.length ∧ W) where
  typed := by
    dsimp only
    rw [← List.append_assoc]
    exact hi.typed.append (List.take_sublist n t)
  echoed := hi.echoed
  taken_eq := hi.taken_eq
  whole_iff := by
    dsimp only
    rw [← List.append_assoc, append_take_eq_iff hi.typed.length_le hn, ← hi.whole_iff]
    tauto
  nulFree := fun h0 => (List.mem_append.1 h0).elim hi.nulFree hfree

/-- The client receives a piece. -/
theorem Flows.waits (hi : Flows s W) {c : Client} {bs : List UInt8} (hbs : bs <+: s.down) :
    Flows { s with
      client := c, phase := .typing
      down := s.down.drop bs.length, pieces := bs :: s.pieces } W where
  typed := hi.typed
  echoed := hi.echoed
  taken_eq := by
    have hdown : s.down = bs ++ s.down.drop bs.length := (List.prefix_iff_eq_append.1 hbs).symm
    rw [hi.taken_eq, System.received, System.received, List.reverse_cons, List.flatten_append,
      List.flatten_singleton, List.append_assoc, ← hdown]
  whole_iff := hi.whole_iff
  nulFree := hi.nulFree

/-- The server reads a piece. -/
theorem Flows.reads (hi : Flows s W) (hheld : s.held = none) {bs : List UInt8}
    (hbs : bs <+: s.up) :
    Flows { s with held := some bs, up := s.up.drop bs.length } W := by
  have hup : s.up = bs ++ s.up.drop bs.length := (List.prefix_iff_eq_append.1 hbs).symm
  have heq : s.server.state.read ++ bs ++ s.up.drop bs.length =
      s.server.state.read ++ s.held.getD [] ++ s.up := by
    rw [hheld, Option.getD_none, List.append_nil, List.append_assoc, ← hup]
  refine ⟨?_, hi.echoed, hi.taken_eq, ?_, hi.nulFree⟩
  · exact heq ▸ hi.typed
  · rw [← hi.whole_iff, ← heq]
    rfl

/-- The server passes on what it holds. -/
theorem Flows.echoes (hi : Flows s W) {bs : List UInt8} {n : ℕ} {l : Loop Echo}
    (hheld : s.held = some bs) (hn : n ≤ bs.length)
    (hl : l.state = ⟨s.server.state.read ++ bs, s.server.state.taken ++ bs.take n⟩) :
    Flows { s with
      server := l, held := none, down := s.down ++ l.state.taken.drop s.server.state.taken.length }
        (n = bs.length ∧ W) := by
  have hread : ∀ up, l.state.read ++ (none : Option (List UInt8)).getD [] ++ up =
      s.server.state.read ++ s.held.getD [] ++ up := by
    intro up
    rw [hl, hheld, Option.getD_none, List.append_nil, Option.getD_some]
  refine ⟨?_, ?_, ?_, ?_, hi.nulFree⟩
  · dsimp only
    rw [hread]
    exact hi.typed
  · dsimp only
    rw [hl]
    exact hi.echoed.append (List.take_sublist n bs)
  · show l.state.taken = s.received ++ (s.down ++ l.state.taken.drop s.server.state.taken.length)
    rw [hl, List.drop_left, hi.taken_eq, List.append_assoc]
  · dsimp only
    rw [hread, hl, append_take_eq_iff hi.echoed.length_le hn, ← hi.whole_iff]
    tauto

/-- **One step.** -/
theorem SysStep.flows (hs : SysStep fd s a s') (hi : Flows s W) :
    Flows s' (Whole ⟨s, a, s'⟩ ∧ W) := by
  -- a step that is no `send` is whole
  have hwhole : ∀ {s' : System}, Flows s' W → Flows s' (True ∧ W) := fun h =>
    h.congr (and_iff_right trivial).symm
  cases hs.cases with
  | types ht hn =>
    refine (hi.types (strCliSend_eq ht).1 hn).congr ?_
    refine and_congr_left fun _ => ⟨fun h t' c' ht' => ?_, fun h => h _ _ ht⟩
    cases ht.symm.trans ht'
    exact h
  | ends => exact hwhole ⟨hi.typed, hi.echoed, hi.taken_eq, hi.whole_iff, hi.nulFree⟩
  | waits hbs => exact hwhole (hi.waits hbs)
  | reads hheld hbs => exact hwhole (hi.reads hheld hbs)
  | turns hl =>
    exact hwhole ⟨hl ▸ hi.typed, hl ▸ hi.echoed, hl ▸ hi.taken_eq, hl ▸ hi.whole_iff, hi.nulFree⟩
  | echoes hheld hn hl =>
    refine (hi.echoes hheld hn hl).congr ?_
    refine and_congr_left fun _ => ⟨fun h bs' hbs' => ?_, fun h => h _ hheld⟩
    cases hheld.symm.trans hbs'
    exact h

end Streams

/-! ## The buffer -/

section Buffer

variable {fd : ℤ} {s s' : System} {a : Act} {m₀ : List UInt8}

/-- What the client has printed, `m₀` being what was in its buffer at the beginning. -/
structure Prints (m₀ : List UInt8) (s : System) : Prop where
  length_le : s.received.length ≤ s.client.printed.length
  printed_iff : s.client.printed = s.received ↔ Covered m₀ s.pieces
  swept : ∃ k, Swept m₀ s.client.recvline k ∧ (Covered m₀ s.pieces → k = high m₀ s.pieces)

theorem Prints.of_eq (hi : Prints m₀ s) (hprinted : s'.client.printed = s.client.printed)
    (hrecvline : s'.client.recvline = s.client.recvline) (hpieces : s'.pieces = s.pieces) :
    Prints m₀ s' := by
  have hreceived : s'.received = s.received := by rw [System.received, hpieces, System.received]
  refine ⟨?_, ?_, ?_⟩
  · rw [hprinted, hreceived]
    exact hi.length_le
  · rw [hprinted, hreceived, hpieces]
    exact hi.printed_iff
  · rw [hrecvline, hpieces]
    exact hi.swept

/-- The client receives a piece, and prints. -/
theorem Prints.waits (hi : Prints m₀ s) {bs : List UInt8} (hfree : 0 ∉ bs)
    (hclient : s'.client = strCliRecv s.client bs) (hpieces : s'.pieces = bs :: s.pieces) :
    Prints m₀ s' := by
  obtain ⟨k, hswept, hk⟩ := hi.swept
  obtain ⟨more, htext, hmore, hswept'⟩ := hswept.recv hfree
  have hprinted : s'.client.printed = s.client.printed ++ (bs ++ more) := by
    rw [hclient, ← htext]
    rfl
  have hreceived : s'.received = s.received ++ bs := by
    rw [System.received, hpieces, List.reverse_cons, List.flatten_append, List.flatten_singleton]
    rfl
  have hle := hi.length_le
  -- more is never taken back
  have hiff : s'.client.printed = s'.received ↔ s.client.printed = s.received ∧ more = [] := by
    rw [hprinted, hreceived]
    constructor
    · intro heq
      have hlen := congrArg List.length heq
      simp only [List.length_append] at hlen
      obtain rfl : more = [] := List.length_eq_zero_iff.1 (by omega)
      rw [List.append_nil] at heq
      exact ⟨List.append_cancel_right heq, rfl⟩
    · rintro ⟨heq, rfl⟩
      rw [heq, List.append_nil]
  have hcovered : s'.client.printed = s'.received ↔ Covered m₀ s'.pieces := by
    rw [hiff, hpieces, Covered, hi.printed_iff, hmore]
    exact and_congr_right fun hc => by rw [hk hc]
  refine ⟨?_, hcovered, max k (bs.length + more.length), ?_, fun hc => ?_⟩
  · rw [hprinted, hreceived]
    simp only [List.length_append]
    omega
  · rw [hclient]
    exact hswept'
  · obtain ⟨heq, rfl⟩ := hiff.1 (hcovered.2 hc)
    rw [hpieces, high, hk (hi.printed_iff.1 heq), List.length_nil, Nat.add_zero]

theorem SysStep.prints (hs : SysStep fd s a s') (hfree : 0 ∉ s.down) (hi : Prints m₀ s) :
    Prints m₀ s' := by
  cases hs.cases with
  | types ht _ =>
    obtain ⟨-, -, hrecvline, hprinted⟩ := strCliSend_eq ht
    exact hi.of_eq hprinted hrecvline rfl
  | ends => exact hi.of_eq rfl rfl rfl
  | waits hbs => exact hi.waits (fun h0 => hfree (hbs.subset h0)) rfl rfl
  | reads _ _ => exact hi.of_eq rfl rfl rfl
  | turns _ => exact hi.of_eq rfl rfl rfl
  | echoes _ _ _ => exact hi.of_eq rfl rfl rfl

end Buffer

/-! ## Runs -/

section Runs

variable {fd : ℤ} {stdin : List UInt8} {sendline recvline : Frame (EchoClient.maxLine + 1)}
  {s s' : System} {a : Act} {h : List (Move System Act)}

/-- What is on its way has been typed. -/
theorem Flows.down_nulFree {W : Prop} (hi : Flows s W) : 0 ∉ s.down := by
  intro h0
  have htaken : 0 ∈ s.server.state.taken := by
    rw [hi.taken_eq]
    exact List.mem_append_right _ h0
  exact hi.nulFree (hi.typed.subset
    (List.mem_append_left _ (List.mem_append_left _ (hi.echoed.subset htaken))))

theorem flows_run (hp : Path (SysStep fd) (sysStart stdin sendline recvline) h s) :
    Flows s (∀ m ∈ h, Whole m) ∧ Prints recvline.mem s := by
  induction hp with
  | start =>
    refine ⟨⟨.slnil, .slnil, rfl, by simp [sysStart, echoStart], List.not_mem_nil⟩,
      le_rfl, iff_of_true rfl trivial, strlen recvline.mem, Swept.start _, fun _ => rfl⟩
  | @snoc h s s' a _ hs ih =>
    obtain ⟨hflows, hprints⟩ := ih
    refine ⟨(hs.flows hflows).congr ?_, hs.prints hflows.down_nulFree hprints⟩
    rw [List.forall_mem_cons]

/-- What has been typed is what has been read of the input. -/
theorem SysStep.typed_append (hs : SysStep fd s a s') (hfree : 0 ∉ s.client.stdin) :
    s'.typed ++ s'.client.stdin = s.typed ++ s.client.stdin := by
  cases hs.cases with
  | types ht _ =>
    dsimp only
    rw [List.append_assoc, (strCliSend_eq ht).2.1 hfree]
  | ends => rfl
  | waits _ => rfl
  | reads _ _ => rfl
  | turns _ => rfl
  | echoes _ _ _ => rfl

theorem typed_append (hp : Path (SysStep fd) (sysStart stdin sendline recvline) h s)
    (hfree : 0 ∉ stdin) : s.typed ++ s.client.stdin = stdin :=
  hp.invariant (fun s => s.typed ++ s.client.stdin = stdin) rfl fun s _ _ hi hs => by
    have hno : 0 ∉ s.client.stdin := fun h0 => hfree (hi ▸ List.mem_append_right _ h0)
    exact (hs.typed_append hno).trans hi

/-- **The echo.**  In all states of all runs what the client has received and what is on its way
to it is a part of what has been typed, in the same order: nothing is made up, doubled or
overtaken.  It is all of it exactly if every `send` has taken all it was given.  What the client
has printed is what it has received exactly if every piece was covered. -/
theorem echo_system (hp : Path (SysStep fd) (sysStart stdin sendline recvline) h s) :
    (s.received ++ s.onTheWay).Sublist s.typed ∧
    (s.received ++ s.onTheWay = s.typed ↔ ∀ m ∈ h, Whole m) ∧
    (s.client.printed = s.received ↔ Covered recvline.mem s.pieces) ∧
    (0 ∉ stdin → s.typed ++ s.client.stdin = stdin) := by
  obtain ⟨hflows, hprints⟩ := flows_run hp
  have heq : s.received ++ s.onTheWay = s.server.state.taken ++ (s.held.getD [] ++ s.up) := by
    rw [hflows.taken_eq, System.onTheWay]
    simp only [List.append_assoc]
  have hall : (s.server.state.taken ++ (s.held.getD [] ++ s.up)).Sublist
      (s.server.state.read ++ s.held.getD [] ++ s.up) := by
    rw [List.append_assoc]
    exact hflows.echoed.append (List.Sublist.refl _)
  refine ⟨?_, ?_, hprints.printed_iff, typed_append hp⟩
  · rw [heq]
    exact hall.trans hflows.typed
  · rw [heq, ← hflows.whole_iff]
    constructor
    · intro h
      -- nothing has got lost on either way
      have hread := hflows.typed.eq_of_length_le (h ▸ hall.length_le)
      rw [← hread, List.append_assoc] at h
      exact ⟨hread, List.append_cancel_right h⟩
    · rintro ⟨hread, htaken⟩
      rw [← hread, htaken, List.append_assoc]

end Runs

/-- A buffer of zeros. -/
def zeros : Frame (EchoClient.maxLine + 1) := .filled _ 0 (by decide)

/-- A run to which the law applies: a line goes through in two pieces, and the client prints the
first of them. -/
theorem echo_system_line : ∃ h s, Path (SysStep 3) (sysStart (text "hi\n") zeros zeros) h s ∧
    s.client.printed = text "h" ∧ s.received = text "h" ∧ s.onTheWay = text "i\n" ∧
    (s.received ++ s.onTheWay).Sublist s.typed := by
  obtain ⟨h, s, hp, hstate⟩ : ∃ h s,
      Path (SysStep 3) (sysStart (text "hi\n") zeros zeros) h s ∧
      s.client.printed = text "h" ∧ s.received = text "h" ∧ s.onTheWay = text "i\n" :=
    exists_replay (fun _ _ _ => sysStep_eq 3)
      [.types (.sent 3), .reads (.data (text "hi")), .echoes (.sent 2),
        .waits 1 false (.data (text "h"))]
      (fun r => r.2.client.printed = text "h" ∧ r.2.received = text "h" ∧
        r.2.onTheWay = text "i\n") (by decide +kernel)
  exact ⟨h, s, hp, hstate.1, hstate.2.1, hstate.2.2, (echo_system hp).1⟩

end EchoClient
