import Lpt.Base.DoWhile
import Lpt.Cloud.Tcp
import Lpt.Relay.Client
import Lpt.Relay.Server

/-!
# The loops that send a buffer

`tcp_write`, `sys_send_packet`, `tcp_send` and `_tcp_send` are copies of one loop: what a
call of `send` or `write` has taken is added to an offset, and the rest is offered to the
next one.  They differ in the errors after which they go on, and in what they return.

The models of the other modules have the result of a whole loop; here it is run one call
after the other.

* `sendAll` — the loop, and the four copies of it.
* `Sends` — what a copy does.
* `send_loops` — all four do.
* `call_eq_sendLoop`, `tcpWrite_of_call` — the models of the other modules have the results
  of these loops.
-/

namespace SendLoops

open CLib Trans

/-! ## The loop -/

/-- The values of `errno` that the copies tell apart. -/
inductive Errno where
  | eintr
  | eagain
  | ewouldblock
  | other (code : ℕ)
  deriving DecidableEq

/-- What one `send` or `write` gives. -/
inductive Call where
  /-- The number of bytes it has taken. -/
  | count (n : ℕ)
  /-- -1 with this `errno`. -/
  | failed (e : Errno)
  deriving DecidableEq

/-- What is to be sent. -/
structure Outgoing where
  /-- The memory from `buf` on. -/
  mem : List UInt8
  size : ℕ
  /-- `size` is an `int`. -/
  size_lt : size < 2147483648
  /-- The buffer is a part of the memory. -/
  le_length : size ≤ mem.length

/-- `buf[0..size)`. -/
def Outgoing.data (b : Outgoing) : List UInt8 := b.mem.take b.size

theorem Outgoing.length_data (b : Outgoing) : b.data.length = b.size := by
  rw [data, List.length_take, min_eq_left b.le_length]

/-- The state of the loop. -/
structure Sending where
  /-- It never leaves the range of an `int` (`Tied.off_le`). -/
  off : ℕ
  /-- The bytes that the kernel has taken, in this order. -/
  accepted : List UInt8
  deriving DecidableEq

/-- Before the loop. -/
def Sending.start : Sending := ⟨0, []⟩

/-- After a call that has taken `n` bytes of the rest. -/
def Sending.took (s : Sending) (b : Outgoing) (n : ℕ) : Sending :=
  ⟨s.off + n, s.accepted ++ (b.mem.drop s.off).take n⟩

/-- The loop over `send`, or `write`.  After the errors `retried` it goes on, and after any
other it returns -1; `value` is what it returns behind the loop.  A call takes no more than
it is offered, which is `size - off` as a `size_t`. -/
def sendAll (retried : List Errno) (value : ℕ → ℤ) (b : Outgoing) : DoWhile Sending Call ℤ where
  body s
    -- `continue` goes to the condition
    | .failed e => if e ∈ retried then some (.toTest s) else some (.returns s (-1))
    | .count n =>
        if toSize (b.size - s.off) < n then none
        else some (.toTest (s.took b n))
  test s := s.off < b.size
  value s := value s.off

end SendLoops

section Copies

open SendLoops Trans

/-- `tcp_write` of `swCloud.c`. -/
def SwCloud.tcpWriteLoop : Outgoing → DoWhile Sending Call ℤ := sendAll [.eintr] fun _ => 0

/-- `sys_send_packet`. -/
def HttpRelay.Server.sysSendPacketLoop : Outgoing → DoWhile Sending Call ℤ :=
  sendAll [.eagain, .ewouldblock] fun off => off

/-- `tcp_send`. -/
def HttpRelay.Client.tcpSendLoop : Outgoing → DoWhile Sending Call ℤ :=
  sendAll [.eagain, .ewouldblock] fun _ => 0

/-- `_tcp_send`. -/
def EchoServer.tcpSendLoop : Outgoing → DoWhile Sending Call ℤ :=
  sendAll [.eagain, .ewouldblock] fun off => off

end Copies

namespace SendLoops

open CLib Trans

/-! ## The law -/

/-- A run of a copy. -/
abbrev Run (f : Outgoing → DoWhile Sending Call ℤ) (b : Outgoing)
    (h : List (Move (Activation Sending ℤ) Call)) (a : Activation Sending ℤ) : Prop :=
  Path (f b).Step (.running .start) h a

/-- A call can give this where the loop is: an error, or a number up to the one requested. -/
def Possible (b : Outgoing) (s : Sending) : Call → Prop
  | .count n => n ≤ b.size - s.off
  | .failed _ => True

/-- What a call has taken. -/
def Call.taken : Call → ℕ
  | .count n => n
  | .failed _ => 0

/-- The calls of a run have taken so many bytes. -/
def taken (h : List (Move (Activation Sending ℤ) Call)) : ℕ := (h.map fun m => m.label.taken).sum

theorem taken_cons (m : Move (Activation Sending ℤ) Call)
    (h : List (Move (Activation Sending ℤ) Call)) :
    taken (m :: h) = m.label.taken + taken h := List.sum_cons

/-- An error after which the loop does not go on. -/
def Fatal (retried : List Errno) (c : Call) : Prop := ∃ e, c = .failed e ∧ e ∉ retried

/-- **A copy sends its buffer**, whatever the calls give. -/
structure Sends (f : Outgoing → DoWhile Sending Call ℤ) (retried : List Errno)
    (success : Outgoing → ℤ) : Prop where
  /-- The loop goes on with everything that a call can give. -/
  goesOn : ∀ {b h s c}, Run f b h (.running s) → Possible b s c → ∃ a, (f b).Step (.running s) c a
  /-- At every moment the bytes taken are as many as the calls have counted. -/
  accepted_length : ∀ {b h a}, Run f b h a → a.state.accepted.length = taken h
  /-- At every moment they are a prefix of the buffer. -/
  accepted_prefix : ∀ {b h a}, Run f b h a → a.state.accepted <+: b.data
  /-- If it reports success they are the buffer. -/
  sent : ∀ {b h s}, Run f b h (.returned s (success b)) → s.accepted = b.data
  /-- It returns -1 only after a fatal error, at once. -/
  failed : ∀ {b h s}, Run f b h (.returned s (-1)) →
    ∃ m earlier, h = m :: earlier ∧ Fatal retried m.label
  /-- It returns nothing else. -/
  result : ∀ {b h s r}, Run f b h (.returned s r) → r = success b ∨ r = -1

/-! ## The invariant -/

/-- **The offset is what has been taken of the buffer.** -/
structure Tied (b : Outgoing) (s : Sending) : Prop where
  off_le : s.off ≤ b.size
  accepted_eq : s.accepted = b.mem.take s.off

section Steps

variable {b : Outgoing} {s s' : Sending} {c : Call} {retried : List Errno} {value : ℕ → ℤ}

theorem body_failed (e : Errno) : (sendAll retried value b).body s (.failed e) =
    if e ∈ retried then some (.toTest s) else some (.returns s (-1)) := rfl

theorem body_count (n : ℕ) : (sendAll retried value b).body s (.count n) =
    if toSize (b.size - s.off) < n then none
    else some (.toTest (s.took b n)) := rfl

/-- **What an execution of the body does.** -/
theorem body_cases {e : BodyEnd Sending ℤ} (hb : (sendAll retried value b).body s c = some e) :
    (∃ n, c = .count n ∧ n ≤ toSize (b.size - s.off) ∧ e = .toTest (s.took b n)) ∨
    (∃ err, c = .failed err ∧ err ∈ retried ∧ e = .toTest s) ∨
    (Fatal retried c ∧ e = .returns s (-1)) := by
  cases c with
  | count n =>
    rw [body_count] at hb
    by_cases hn : toSize (b.size - s.off) < n
    · rw [if_pos hn] at hb
      cases hb
    · rw [if_neg hn] at hb
      cases hb
      exact Or.inl ⟨n, rfl, not_lt.1 hn, rfl⟩
  | failed err =>
    rw [body_failed] at hb
    by_cases herr : err ∈ retried
    · rw [if_pos herr] at hb
      cases hb
      exact Or.inr (Or.inl ⟨err, rfl, herr, rfl⟩)
    · rw [if_neg herr] at hb
      cases hb
      exact Or.inr (Or.inr ⟨⟨err, rfl, herr⟩, rfl⟩)

theorem tied_start (b : Outgoing) : Tied b .start := ⟨Nat.zero_le _, rfl⟩

/-- What is requested is the rest of the buffer. -/
theorem Tied.requested (h : Tied b s) : toSize (b.size - s.off) = b.size - s.off := by
  have hle := h.off_le
  have hlt := b.size_lt
  rw [← Nat.cast_sub hle, toSize_natCast (by omega)]

theorem Tied.length_accepted (h : Tied b s) : s.accepted.length = s.off := by
  rw [h.accepted_eq, List.length_take, min_eq_left (h.off_le.trans b.le_length)]

/-- What has been taken is a prefix of the buffer. -/
theorem Tied.prefix (h : Tied b s) : s.accepted <+: b.data := by
  rw [h.accepted_eq, Outgoing.data]
  exact List.take_prefix_take_left h.off_le

/-- Behind the loop it is the buffer. -/
theorem Tied.whole (h : Tied b s) (htest : (sendAll retried value b).test s = false) :
    s.off = b.size ∧ s.accepted = b.data := by
  have hoff : s.off = b.size := le_antisymm h.off_le (not_lt.1 (of_decide_eq_false htest))
  exact ⟨hoff, by rw [h.accepted_eq, hoff, Outgoing.data]⟩

/-- A call takes some bytes of the rest. -/
theorem Tied.took (h : Tied b s) {n : ℕ} (hn : n ≤ b.size - s.off) : Tied b (s.took b n) := by
  have hle := h.off_le
  constructor
  · show s.off + n ≤ b.size
    omega
  · show s.accepted ++ (b.mem.drop s.off).take n = b.mem.take (s.off + n)
    rw [h.accepted_eq, List.take_add]

/-- **One execution of the body** that comes to the condition. -/
theorem Tied.body (h : Tied b s) (hb : (sendAll retried value b).body s c = some (.toTest s')) :
    Tied b s' := by
  rcases body_cases hb with ⟨n, -, hn, heq⟩ | ⟨err, -, -, heq⟩ | ⟨-, heq⟩
  · cases heq
    rw [h.requested] at hn
    exact h.took hn
  · cases heq
    exact h
  · cases heq

end Steps

/-! ## Runs -/

section Runs

variable {b : Outgoing} {s : Sending} {c : Call} {retried : List Errno} {value : ℕ → ℤ}
  {a : Activation Sending ℤ} {r : ℤ} {h : List (Move (Activation Sending ℤ) Call)}

/-- The rule of the loop, for the invariant. -/
theorem Run.reached (hr : Run (sendAll retried value) b h a) :
    (sendAll retried value b).Reached (Tied b) h a :=
  DoWhile.reached_of_path (Tied b) (tied_start b) (fun _ _ _ hs hb => hs.body hb) hr

/-- The invariant holds at every moment. -/
theorem Run.tied (hr : Run (sendAll retried value) b h a) : Tied b a.state := by
  cases hr.reached with
  | running hs => exact hs
  | byTest hs _ => exact hs
  | byReturn hs hb =>
    rcases body_cases hb with ⟨_, _, _, heq⟩ | ⟨_, _, _, heq⟩ | ⟨_, heq⟩
    · cases heq
    · cases heq
    · cases heq
      exact hs

/-- The offset is the sum of the counts. -/
theorem Run.off_eq (hr : Run (sendAll retried value) b h a) : a.state.off = taken h := by
  induction hr with
  | start => rfl
  | @snoc h a a' c hr hs ih =>
    obtain ⟨s, rfl⟩ := hs.running
    obtain ⟨e, hb, rfl⟩ := DoWhile.step_iff.1 hs
    rcases body_cases hb with ⟨n, rfl, -, rfl⟩ | ⟨err, rfl, -, rfl⟩ | ⟨⟨err, rfl, -⟩, rfl⟩
    · rw [taken_cons, DoWhile.state_toTest, Call.taken, ← ih, Nat.add_comm]
      rfl
    · rw [taken_cons, DoWhile.state_toTest, Call.taken, ← ih, Nat.zero_add]
      rfl
    · rw [taken_cons, Call.taken, ← ih, Nat.zero_add]
      rfl

/-- **What a copy returns**: the value behind the loop, with the whole buffer taken, or -1
after a fatal error. -/
theorem Run.returned (hr : Run (sendAll retried value) b h (.returned s r)) :
    (r = value b.size ∧ s.accepted = b.data) ∨
      (r = -1 ∧ ∃ m earlier, h = m :: earlier ∧ Fatal retried m.label) := by
  cases hr.reached with
  | byTest hs htest =>
    obtain ⟨hoff, hall⟩ := hs.whole htest
    exact Or.inl ⟨congrArg value hoff, hall⟩
  | byReturn _ hb =>
    rcases body_cases hb with ⟨_, _, _, heq⟩ | ⟨_, _, _, heq⟩ | ⟨hfatal, heq⟩
    · cases heq
    · cases heq
    · cases heq
      exact Or.inr ⟨rfl, _, _, rfl, hfatal⟩

/-- The loop goes on with everything that is possible. -/
theorem exists_step (hr : Run (sendAll retried value) b h (.running s)) (hc : Possible b s c) :
    ∃ a, (sendAll retried value b).Step (.running s) c a := by
  cases c with
  | count n =>
    have htied : Tied b s := hr.tied
    have hn : ¬ toSize (b.size - s.off) < n := by
      rw [htied.requested]
      exact not_lt.2 hc
    exact ⟨_, DoWhile.step_iff.2 ⟨_, by rw [body_count, if_neg hn], rfl⟩⟩
  | failed e =>
    by_cases he : e ∈ retried
    · exact ⟨_, DoWhile.step_iff.2 ⟨_, by rw [body_failed, if_pos he], rfl⟩⟩
    · exact ⟨_, DoWhile.step_iff.2 ⟨_, by rw [body_failed, if_neg he], rfl⟩⟩

/-- **Every loop of this form sends its buffer**, if -1 is not what it returns behind it. -/
theorem sendAll_sends (hvalue : ∀ n, value n ≠ -1) :
    Sends (sendAll retried value) retried fun b => value b.size where
  goesOn := exists_step
  accepted_length hr := hr.tied.length_accepted.trans hr.off_eq
  accepted_prefix hr := hr.tied.prefix
  sent hr := by
    rcases hr.returned with ⟨-, hall⟩ | ⟨hneg, -⟩
    · exact hall
    · exact absurd hneg (hvalue _)
  failed hr := by
    rcases hr.returned with ⟨hneg, -⟩ | ⟨-, hfatal⟩
    · exact absurd hneg.symm (hvalue _)
    · exact hfatal
  result hr := by
    rcases hr.returned with ⟨hval, -⟩ | ⟨hneg, -⟩
    · exact Or.inl hval
    · exact Or.inr hneg

/-- **The four copies send their buffers.** -/
theorem send_loops :
    Sends SwCloud.tcpWriteLoop [.eintr] (fun _ => 0) ∧
      Sends HttpRelay.Server.sysSendPacketLoop [.eagain, .ewouldblock] (fun b => b.size) ∧
      Sends HttpRelay.Client.tcpSendLoop [.eagain, .ewouldblock] (fun _ => 0) ∧
      Sends EchoServer.tcpSendLoop [.eagain, .ewouldblock] (fun b => b.size) :=
  ⟨sendAll_sends fun _ => by decide, sendAll_sends fun _ => by omega,
    sendAll_sends fun _ => by decide, sendAll_sends fun _ => by omega⟩

/-- A run to which the law applies: a short count, an error after which the loop goes on, a
count of 0, and the rest. -/
theorem send_loops_short : ∃ b h s, Run HttpRelay.Server.sysSendPacketLoop b h (.returned s 3) ∧
    h.map Move.label = [.count 2, .count 0, .failed .eagain, .count 1] ∧
    s.accepted = [1, 2, 3] := by
  have hcall : (HttpRelay.Server.sysSendPacketLoop ⟨[1, 2, 3, 4], 3, by decide, by decide⟩).call
      .start [.count 1, .failed .eagain, .count 0, .count 2] = some (_, 3, []) := rfl
  obtain ⟨h, hr, hscript⟩ := DoWhile.call_eq_some_iff.1 hcall
  refine ⟨_, h, _, hr, ?_, send_loops.2.1.sent hr⟩
  rw [List.append_nil] at hscript
  exact List.reverse_eq_iff.1 hscript

end Runs

/-! ## The models of the other modules -/

section Models

variable {b : Outgoing} {s s' : Sending} {retried : List Errno} {value : ℕ → ℤ} {r : ℤ}
  {cs rest : List Call}

/-- The result of a `send`, as the models of the relay have it. -/
def Call.toSendEv : Call → HttpRelay.SendEv
  | .count n => .sent n
  | .failed e => if e ∈ [.eagain, .ewouldblock] then .wouldBlock else .error

/-- The result of a `write`, as the model of `tcp_write` has it. -/
def Call.toWriteEv : Call → SwCloud.WriteEv
  | .count n => .sent n
  | .failed e => if e ∈ [.eintr] then .eintr else .err

theorem Outgoing.length_rest (b : Outgoing) (off : ℕ) :
    (b.data.drop off).length = b.size - off := by
  rw [List.length_drop, b.length_data]

/-- The bytes taken are bytes of the buffer. -/
theorem Outgoing.take_rest (b : Outgoing) {off n : ℕ} (hn : n ≤ b.size - off) :
    (b.mem.drop off).take n = (b.data.drop off).take n := by
  rw [data, List.drop_take, List.take_take, min_eq_left hn]

theorem call_count_too_many (hs : Tied b s) {n : ℕ} (hn : b.size - s.off < n) :
    (sendAll retried value b).call s (.count n :: cs) = none := by
  refine DoWhile.call_not_possible ?_ cs
  rw [body_count, hs.requested, if_pos hn]

theorem call_count (hs : Tied b s) {n : ℕ} (hn : n ≤ b.size - s.off) :
    (sendAll retried value b).call s (.count n :: cs) =
      if s.off + n < b.size then (sendAll retried value b).call (s.took b n) cs
      else some (s.took b n, value (s.off + n), cs) := by
  have hbody : (sendAll retried value b).body s (.count n) = some (.toTest (s.took b n)) := by
    rw [body_count, hs.requested, if_neg (not_lt.2 hn)]
  rw [DoWhile.call_toTest hbody]
  simp only [sendAll, decide_eq_true_eq, Sending.took]

theorem call_retried {e : Errno} (he : e ∈ retried) :
    (sendAll retried value b).call s (.failed e :: cs) =
      if s.off < b.size then (sendAll retried value b).call s cs
      else some (s, value s.off, cs) := by
  have hbody : (sendAll retried value b).body s (.failed e) = some (.toTest s) := by
    rw [body_failed, if_pos he]
  rw [DoWhile.call_toTest hbody]
  simp only [sendAll, decide_eq_true_eq]

theorem call_fatal {e : Errno} (he : e ∉ retried) :
    (sendAll retried value b).call s (.failed e :: cs) = some (s, -1, cs) := by
  refine DoWhile.call_returns ?_ cs
  rw [body_failed, if_neg he]

/-- **The loop of the relay's models** has the results of this one. -/
theorem call_eq_sendLoop (hs : Tied b s) :
    ((sendAll [.eagain, .ewouldblock] value b).call s cs).map (fun x => (x.2.1, x.1.accepted)) =
      (HttpRelay.sendLoop (b.data.drop s.off) (cs.map Call.toSendEv)).map fun x =>
        (if x.2 = true then -1 else value b.size, s.accepted ++ x.1) := by
  induction cs generalizing s with
  | nil => rfl
  | cons c cs ih =>
    have hle := hs.off_le
    have hlen := b.length_rest s.off
    cases c with
    | count n =>
      rw [List.map_cons, Call.toSendEv, HttpRelay.sendLoop, hlen]
      by_cases hlt : b.size - s.off < n
      · rw [if_pos hlt, call_count_too_many hs hlt]
        rfl
      have hn := not_lt.1 hlt
      rw [if_neg hlt, call_count hs hn]
      by_cases heq : b.size - s.off = n
      · -- the last bytes
        have hoff : s.off + n = b.size := by omega
        rw [if_pos heq, if_neg (by omega), Option.map_some, Option.map_some, Sending.took, hoff,
          b.take_rest hn, List.take_of_length_le (by omega)]
        rfl
      · have hoff : s.off + n < b.size := by omega
        rw [if_neg heq, if_pos hoff, ih (hs.took hn), Option.map_map, List.drop_drop]
        simp only [Function.comp_def, Sending.took, b.take_rest hn, List.append_assoc]
    | failed e =>
      rw [List.map_cons, Call.toSendEv]
      by_cases he : e ∈ [Errno.eagain, Errno.ewouldblock]
      · rw [if_pos he, call_retried he, HttpRelay.sendLoop]
        by_cases hoff : s.off < b.size
        · have hne : b.data.drop s.off ≠ [] := List.ne_nil_of_length_pos (by omega)
          rw [if_pos hoff, if_neg hne, ih hs]
        · have hnil : b.data.drop s.off = [] := List.length_eq_zero_iff.1 (by omega)
          have hall : s.off = b.size := by omega
          rw [if_neg hoff, if_pos hnil, Option.map_some, Option.map_some, hall, List.append_nil]
          rfl
      · rw [if_neg he, call_fatal he, HttpRelay.sendLoop, Option.map_some, Option.map_some,
          List.append_nil]
        rfl

/-- `sys_send_packet` as the model of the relay server has it. -/
theorem sysSendPacket_eq (b : Outgoing) (cs : List Call) :
    HttpRelay.Server.sysSendPacket b.data (cs.map Call.toSendEv) =
      ((HttpRelay.Server.sysSendPacketLoop b).call .start cs).map
        fun x => (x.2.1, x.1.accepted) := by
  rw [HttpRelay.Server.sysSendPacketLoop, call_eq_sendLoop (tied_start b),
    HttpRelay.Server.sysSendPacket, b.length_data]
  rfl

/-- `tcp_send` as the model of the relay client has it. -/
theorem tcpSend_eq (b : Outgoing) (cs : List Call) :
    HttpRelay.Client.tcpSend b.data (cs.map Call.toSendEv) =
      ((HttpRelay.Client.tcpSendLoop b).call .start cs).map fun x => (x.2.1, x.1.accepted) := by
  rw [HttpRelay.Client.tcpSendLoop, call_eq_sendLoop (tied_start b), HttpRelay.Client.tcpSend]
  rfl

/-- **The loop of the model of `tcp_write`** has the results of this one. -/
theorem tcpWriteFrom_of_call (hs : Tied b s)
    (hc : (SwCloud.tcpWriteLoop b).call s cs = some (s', r, rest)) :
    ∃ bs, SwCloud.tcpWriteFrom b.data s.off (cs.map Call.toWriteEv) =
      some ⟨r, bs, rest.map Call.toWriteEv⟩ ∧ s'.accepted = s.accepted ++ bs := by
  rw [SwCloud.tcpWriteLoop] at hc
  induction cs generalizing s with
  | nil => cases hc
  | cons c cs ih =>
    have hlen := b.length_rest s.off
    cases c with
    | count n =>
      rw [List.map_cons, Call.toWriteEv, SwCloud.tcpWriteFrom]
      by_cases hlt : b.size - s.off < n
      · rw [call_count_too_many hs hlt] at hc
        cases hc
      have hn := not_lt.1 hlt
      have htake : ((b.data.drop s.off).take n).length = n := by
        rw [List.length_take, hlen, min_eq_left hn]
      rw [call_count hs hn] at hc
      simp only [htake, b.length_data]
      by_cases hoff : s.off + n < b.size
      · rw [if_pos hoff] at hc ⊢
        obtain ⟨bs, hbs, hacc⟩ := ih (hs.took hn) hc
        rw [show (s.took b n).off = s.off + n from rfl] at hbs
        refine ⟨(b.data.drop s.off).take n ++ bs, by rw [hbs]; rfl, ?_⟩
        rw [hacc, Sending.took, b.take_rest hn, List.append_assoc]
      · rw [if_neg hoff] at hc ⊢
        cases hc
        exact ⟨_, rfl, by rw [Sending.took, b.take_rest hn]⟩
    | failed e =>
      rw [List.map_cons, Call.toWriteEv]
      by_cases he : e ∈ [Errno.eintr]
      · rw [if_pos he, SwCloud.tcpWriteFrom, b.length_data]
        rw [call_retried he] at hc
        by_cases hoff : s.off < b.size
        · rw [if_pos hoff] at hc ⊢
          exact ih hs hc
        · rw [if_neg hoff] at hc ⊢
          cases hc
          exact ⟨[], rfl, (List.append_nil _).symm⟩
      · rw [call_fatal he] at hc
        cases hc
        rw [if_neg he]
        exact ⟨[], rfl, (List.append_nil _).symm⟩

/-- `tcp_write` as the model of the daemon has it. -/
theorem tcpWrite_of_call
    (hc : (SwCloud.tcpWriteLoop b).call .start cs = some (s', r, rest)) :
    SwCloud.tcpWrite b.data (cs.map Call.toWriteEv) =
      some ⟨r, s'.accepted, rest.map Call.toWriteEv⟩ := by
  obtain ⟨bs, hbs, hacc⟩ := tcpWriteFrom_of_call (tied_start b) hc
  rw [hacc]
  exact hbs

end Models

end SendLoops
