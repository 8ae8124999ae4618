import Lpt.Base.Loops
import Lpt.Relay.Socket

/-!
# The echo server

`_str_echo` reads what a client sends and passes each piece to one `send`.  An interrupted
`read` is begun again.  The result of `send` is only compared with 0: what a `send` has not
taken of its piece is not sent any more.

* `strEcho` — one turn of the loop.
* `Echoed` — everything that has been read has been taken by `send`.
* `echoed_iff` — the runs in which that is so.
-/

namespace EchoServer

open HttpRelay Trans

/-- `MAXLINE`. -/
abbrev maxLine : ℕ := 4096

/-! ## The loop -/

/-- What one `read` gives. -/
inductive ReadEv where
  /-- It has stored these bytes. -/
  | data (bs : List UInt8)
  /-- 0: the end of the stream. -/
  | closed
  /-- -1 with `EINTR`. -/
  | eintr
  /-- -1 with any other error. -/
  | error
  deriving DecidableEq

/-- What one turn is given: the result of `read`, and of `send` if there is something to
send. -/
structure Turn where
  read : ReadEv
  send : SendEv

/-- What has been read so far, and what `send` has taken of it. -/
structure Echo where
  read : List UInt8
  taken : List UInt8
  deriving DecidableEq

/-- One turn of the loop of `_str_echo`: whether it goes on, and what there is then.  A `send`
that has failed is only printed.  At least one byte is read, and at most `MAXLINE`, and `send`
takes no more than it is offered. -/
def strEcho (s : Echo) (c : Turn) : Option (Bool × Echo) :=
  match c.read with
  | .data bs =>
      if bs = [] ∨ maxLine < bs.length then none
      else
        match c.send with
        | .sent n =>
            if bs.length < n then none else some (true, ⟨s.read ++ bs, s.taken ++ bs.take n⟩)
        | .wouldBlock | .error => some (true, ⟨s.read ++ bs, s.taken⟩)
  -- `goto again`
  | .eintr => some (true, s)
  | .closed | .error => some (false, s)

/-- One turn; there is nothing behind the loop. -/
abbrev EchoStep : Loop Echo → Turn → Loop Echo → Prop := LoopStep strEcho id

/-- The client has connected. -/
def echoStart : Loop Echo := .inside ⟨[], []⟩

/-! ## The law -/

/-- **Everything is echoed**: what `send` has taken is what has been read. -/
def Echoed (s : Loop Echo) : Prop := s.state.taken = s.state.read

/-- `send` takes at least one byte of every piece. -/
def Turn.Accepts (c : Turn) : Prop :=
  ∀ bs, c.read = .data bs → ∃ n, 0 < n ∧ c.send = .sent n

/-- `send` takes the whole piece. -/
def Turn.Whole (c : Turn) : Prop := ∀ bs, c.read = .data bs → c.send = .sent bs.length

/-! ## One turn -/

section Step

variable {s s' : Echo} {c : Turn} {go : Bool}

/-- What a turn adds to both sides. -/
theorem strEcho_adds (h : strEcho s c = some (go, s')) :
    ∃ bs n, s'.read = s.read ++ bs ∧ s'.taken = s.taken ++ bs.take n ∧ n ≤ bs.length ∧
      (n = bs.length ↔ c.Whole) := by
  unfold strEcho at h
  unfold Turn.Whole
  cases hread : c.read with
  | data bs =>
    rw [hread] at h
    dsimp only at h
    by_cases hsize : bs = [] ∨ maxLine < bs.length
    · rw [if_pos hsize] at h
      cases h
    · rw [if_neg hsize] at h
      have hpos : bs.length ≠ 0 := fun h0 => hsize (Or.inl (List.length_eq_zero_iff.1 h0))
      cases hsend : c.send with
      | sent n =>
        rw [hsend] at h
        dsimp only at h
        by_cases hn : bs.length < n
        · rw [if_pos hn] at h
          cases h
        · rw [if_neg hn] at h
          cases h
          exact ⟨bs, n, rfl, rfl, not_lt.1 hn, by simp⟩
      | wouldBlock =>
        rw [hsend] at h
        cases h
        exact ⟨bs, 0, rfl, by simp, Nat.zero_le _, by simp [hpos.symm]⟩
      | error =>
        rw [hsend] at h
        cases h
        exact ⟨bs, 0, rfl, by simp, Nat.zero_le _, by simp [hpos.symm]⟩
  | closed =>
    rw [hread] at h
    cases h
    exact ⟨[], 0, by simp, by simp, le_rfl, by simp⟩
  | eintr =>
    rw [hread] at h
    cases h
    exact ⟨[], 0, by simp, by simp, le_rfl, by simp⟩
  | error =>
    rw [hread] at h
    cases h
    exact ⟨[], 0, by simp, by simp, le_rfl, by simp⟩

/-- **One turn**: no more is taken than was read, and everything has been taken exactly if it
had been before and the turn takes its piece as a whole. -/
theorem strEcho_iff (h : strEcho s c = some (go, s')) (hle : s.taken.length ≤ s.read.length) :
    s'.taken.length ≤ s'.read.length ∧
      (s'.taken = s'.read ↔ s.taken = s.read ∧ c.Whole) := by
  obtain ⟨bs, n, hread, htaken, hn, hwhole⟩ := strEcho_adds h
  rw [hread, htaken, ← hwhole]
  have hlen : (bs.take n).length = n := by rw [List.length_take, min_eq_left hn]
  refine ⟨by rw [List.length_append, List.length_append, hlen]; omega, ?_⟩
  constructor
  · intro heq
    have hsum := congrArg List.length heq
    rw [List.length_append, List.length_append, hlen] at hsum
    exact ⟨(List.append_inj heq (by omega)).1, by omega⟩
  · rintro ⟨heq, rfl⟩
    rw [heq, List.take_length]

end Step

/-! ## Runs -/

section Runs

variable {s : Loop Echo} {h : List (Move (Loop Echo) Turn)}

/-- **Everything is echoed**, at any time and so also when `read` reports the end of the
stream, exactly if every `send` has taken all of its piece. -/
theorem echoed_iff (hp : Path EchoStep echoStart h s) :
    Echoed s ↔ ∀ m ∈ h, m.label.Whole := by
  have hboth : s.state.taken.length ≤ s.state.read.length ∧
      (Echoed s ↔ ∀ m ∈ h, m.label.Whole) := by
    induction hp with
    | start => exact ⟨le_rfl, by simp [Echoed, echoStart]⟩
    | @snoc h s s' c hp hs ih =>
      obtain ⟨t, go, t', rfl, hb, hpost⟩ := hs.cases
      have hstate : s'.state = t' := by
        rw [hpost]
        cases go <;> rfl
      obtain ⟨hle, hiff⟩ := strEcho_iff hb ih.1
      unfold Echoed at *
      rw [hstate, List.forall_mem_cons, ← ih.2]
      exact ⟨hle, hiff.trans and_comm⟩
  exact hboth.2

/-- A run to which the law applies: a piece, an interruption, and the end of the stream. -/
theorem echoed_whole : ∃ h s, Path EchoStep echoStart h s ∧ s.Left ∧ s.state.read = [1, 2] ∧
    Echoed s := by
  have hpiece : strEcho ⟨[], []⟩ ⟨.data [1, 2], .sent 2⟩ = some (true, ⟨[1, 2], [1, 2]⟩) := rfl
  have hintr : strEcho ⟨[1, 2], [1, 2]⟩ ⟨.eintr, .error⟩ = some (true, _) := rfl
  have hend : strEcho ⟨[1, 2], [1, 2]⟩ ⟨.closed, .error⟩ = some (false, _) := rfl
  have hp : Path EchoStep echoStart _ _ :=
    .snoc (.snoc (.snoc .start (.goesOn hpiece)) (.goesOn hintr)) (.leaves hend)
  refine ⟨_, _, hp, trivial, rfl, (echoed_iff hp).2 ?_⟩
  simp [Turn.Whole]

/-- Two bytes are read, and `send` takes one of them; the other is lost, although every `send`
has taken at least one byte. -/
theorem short_send_loses : ∃ h s, Path EchoStep echoStart h s ∧ (∀ m ∈ h, m.label.Accepts) ∧
    s.Left ∧ ¬ Echoed s := by
  have hpiece : strEcho ⟨[], []⟩ ⟨.data [1, 2], .sent 1⟩ = some (true, ⟨[1, 2], [1]⟩) := rfl
  have hend : strEcho ⟨[1, 2], [1]⟩ ⟨.closed, .error⟩ = some (false, _) := rfl
  refine ⟨_, _, .snoc (.snoc .start (.goesOn hpiece)) (.leaves hend), ?_, trivial, ?_⟩
  · simp [Turn.Accepts]
  · intro hechoed
    cases hechoed

end Runs

end EchoServer
