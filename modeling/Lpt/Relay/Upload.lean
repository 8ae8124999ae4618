import Lpt.Base.Cuts
import Lpt.Base.Transition
import Lpt.Relay.Server

/-!
# Is an upload stored as it is?

A client sends the head of a `POST` request and a body, and the body is to be appended to
`/tmp/audio`.  The first piece is only looked at: whatever of the body comes with it is
gone.  Every later piece is printed to the file as a text, which ends at the first NUL; and
an operation that would block looks like a piece of one byte, the one that the stack
happens to hold.

* `Request` — a head and a body.
* `UploadStep` — the request is looked at, or the loop of `http_process_post` goes round.
* `Stored` — what is to be in the file after some bytes have been received.
* `CleanRead` — a call that does to the file what it should.
* `stored_iff` — the law holds in a run exactly if all calls are clean.
-/

namespace HttpRelay.Server

open CLib Trans

/-! ## Runs -/

/-- What the client sends: the head of a `POST` request and a body. -/
structure Request where
  head : List UInt8
  body : List UInt8
  /-- It begins with the request line. -/
  line : postLine <+: head
  /-- It ends with an empty line. -/
  blank : text "\r\n\r\n" <:+ head
  /-- It is a text. -/
  nulFree : 0 ∉ head

/-- All bytes, in the order in which the client sends them. -/
def Request.stream (req : Request) : List UInt8 := req.head ++ req.body

/-- How far a worker has come. -/
inductive Stage where
  /-- It has not looked at the request. -/
  | fresh
  /-- It is in the loop of `http_process_post`. -/
  | posting
  /-- It does not receive any more: it is in the loop of `http_process_get`, or at the end. -/
  | finished
  deriving DecidableEq

/-- What has been received from the client and appended to the file. -/
structure Upload where
  stage : Stage
  received : List UInt8
  stored : List UInt8

/-- What a worker does next. -/
inductive UploadAct where
  /-- It looks at the request, and answers. -/
  | look (recvline : Frame (maxLine + 1)) (r : Recv) (es : List SendEv)
  /-- One iteration of the loop of `http_process_post`. -/
  | round (c : PostRound)

/-- The stage after the request has been looked at. -/
def ClientType.stage : ClientType → Stage
  | .post => .posting
  | _ => .finished

/-- What `recv` gives in this step. -/
def UploadAct.recv : UploadAct → Recv
  | .look _ r _ => r
  | .round c => if c.Reads then c.recv else .wouldBlock

/-- One step of the worker. -/
def uploadStep (req : Request) (s : Upload) (a : UploadAct) : Option Upload :=
  if a.recv.Fits req.stream s.received maxLine then
    let received := s.received ++ a.recv.bytes
    match s.stage, a with
    | .fresh, .look recvline r es =>
        (threadClientWorker recvline r es).map fun t => ⟨t.1.stage, received, s.stored⟩
    | .posting, .round c =>
        (httpProcessPost c).map fun t =>
          ⟨if t.1 = true then .posting else .finished, received, s.stored ++ t.2⟩
    | _, _ => none
  else none

/-- One step of the worker. -/
def UploadStep (req : Request) (s : Upload) (a : UploadAct) (s' : Upload) : Prop :=
  uploadStep req s a = some s'

theorem uploadStep_eq {req : Request} {s s' : Upload} {a : UploadAct}
    (h : uploadStep req s a = some s') : UploadStep req s a s' := h

/-- The connection has been accepted. -/
def uploadStart : Upload := ⟨.fresh, [], []⟩

/-! ## The law -/

/-- **The upload is stored as it is**: the bytes of the body that have been received have
been appended to the file, in their order, and nothing else. -/
def Stored (req : Request) (s : Upload) : Prop := s.stored = s.received.drop req.head.length

instance (req : Request) (s : Upload) : Decidable (Stored req s) :=
  inferInstanceAs (Decidable (_ = _))

/-- A call does to the file what it should.  The first `recv` gives no more than the head.
A later piece does not begin in the head, and is a text; an operation that would block
finds a NUL at the beginning of the buffer. -/
def CleanRead (req : Request) (m : Move Upload UploadAct) : Prop :=
  match m.label with
  | .look _ r _ => r.bytes.length ≤ req.head.length
  | .round c =>
      c.Reads →
        if c.recv = .wouldBlock then c.recvline.mem.head? = some 0
        else req.head.length ≤ m.pre.received.length ∧ 0 ∉ c.recv.bytes

instance (req : Request) (m : Move Upload UploadAct) : Decidable (CleanRead req m) :=
  match h : m.label with
  | .look .. => decidable_of_iff (_ ≤ _) (by rw [CleanRead, h])
  | .round c => decidable_of_iff (c.Reads → ite _ _ _) (by rw [CleanRead, h])

/-! ## One step -/

section Step

variable {req : Request} {s s' : Upload} {a : UploadAct} {recvline : Frame (maxLine + 1)}
  {bs out : List UInt8} {h : List (Move Upload UploadAct)}

/-- What is appended for a piece: the text in it. -/
theorem handlePostRead_data (h : handlePostRead recvline (.data bs) = some out) :
    out = (CStr.read bs).bytes := by
  unfold handlePostRead sysRecvPacket at h
  dsimp only at h
  rw [if_neg (by omega)] at h
  cases h
  rw [Int.toNat_natCast, recvline.stored_eq, read_store_zero]

/-- What is appended for an operation that would block: the first byte of the buffer, unless
it is a NUL. -/
theorem handlePostRead_wouldBlock (h : handlePostRead recvline .wouldBlock = some out) :
    out = [] ↔ recvline.mem.head? = some 0 := by
  obtain ⟨b, rest, hmem⟩ := List.exists_cons_of_length_pos
    (lt_of_lt_of_le (Nat.succ_pos _) recvline.le_length)
  unfold handlePostRead sysRecvPacket at h
  dsimp only at h
  rw [hmem, if_neg (by decide)] at h
  cases h
  rw [hmem, List.head?_cons, Option.some.injEq]
  rw [show (1 : ℤ).toNat = [b].length from rfl, ← List.singleton_append, read_store_zero]
  by_cases hb : b = 0
  · rw [hb]
    exact iff_of_true rfl rfl
  · refine iff_of_false (fun hnil => ?_) hb
    have hread : (CStr.read [b]).bytes = [b] :=
      read_eq_iff.2 fun h0 => hb (List.mem_singleton.1 h0).symm
    rw [hread] at hnil
    cases hnil

/-- A call for which the operating system has nothing more has no result. -/
theorem handlePostRead_eq_none (h : handlePostRead recvline .error = some out ∨
    handlePostRead recvline .closed = some out) : False := by
  rcases h with h | h <;> cases h

/-- What an iteration appends is what `handle_post_read` appends, if it is called. -/
theorem httpProcessPost_eq {c : PostRound} {go : Bool} (h : httpProcessPost c = some (go, out)) :
    (c.Reads ∧ handlePostRead c.recvline c.recv = some out) ∨ (¬ c.Reads ∧ out = []) := by
  unfold httpProcessPost at h
  by_cases hsel : c.select < 0
  · rw [if_pos hsel] at h
    cases h
    exact Or.inr ⟨fun hc => absurd hsel (not_lt.2 hc.1), rfl⟩
  · rw [if_neg hsel] at h
    by_cases hread : c.readable = true
    · rw [if_pos hread] at h
      obtain ⟨out', hout, heq⟩ := Option.map_eq_some_iff.1 h
      cases heq
      exact Or.inl ⟨⟨not_lt.1 hsel, hread⟩, hout⟩
    · rw [if_neg hread] at h
      cases h
      exact Or.inr ⟨fun hc => hread hc.2, rfl⟩

/-- One iteration of the loop: the law is kept exactly by a clean one. -/
theorem stored_round {c : PostRound} {go : Bool} {received stored : List UInt8}
    (h : httpProcessPost c = some (go, out)) (hlaw : stored = received.drop req.head.length)
    (hfits : (UploadAct.round c).recv.Fits req.stream received maxLine) :
    stored ++ out = (received ++ (UploadAct.round c).recv.bytes).drop req.head.length ↔
      (c.Reads → if c.recv = .wouldBlock then c.recvline.mem.head? = some 0
        else req.head.length ≤ received.length ∧ 0 ∉ c.recv.bytes) := by
  rcases httpProcessPost_eq h with ⟨hreads, hout⟩ | ⟨hno, rfl⟩
  · have hrecv : (UploadAct.round c).recv = c.recv := if_pos hreads
    rw [hrecv] at hfits ⊢
    rw [imp_iff_right hreads]
    cases hr : c.recv with
    | error =>
      rw [hr] at hout
      exact (handlePostRead_eq_none (Or.inl hout)).elim
    | closed =>
      rw [hr] at hout
      exact (handlePostRead_eq_none (Or.inr hout)).elim
    | wouldBlock =>
      rw [hr] at hout
      rw [if_pos rfl, ← handlePostRead_wouldBlock hout, Recv.bytes_wouldBlock, List.append_nil,
        hlaw, List.append_right_eq_self]
    | data bs =>
      rw [hr] at hout hfits
      obtain rfl := handlePostRead_data hout
      rw [if_neg nofun, Recv.bytes_data, hlaw]
      by_cases hle : req.head.length ≤ received.length
      · rw [List.drop_append_of_le_length hle, List.append_cancel_left_eq, read_eq_iff,
          and_iff_right hle]
      · -- the rest of the head is appended as well
        refine iff_of_false (fun heq => ?_) fun hc => hle hc.1
        have hlt := not_le.1 hle
        rw [List.drop_eq_nil_of_le hlt.le, List.nil_append, ← List.append_nil bs] at heq
        apply read_ne_body [] hfits.2.2 hlt hfits.1 req.nulFree
        simpa only [List.append_nil] using heq
  · have hrecv : (UploadAct.round c).recv = .wouldBlock := if_neg hno
    rw [hrecv, Recv.bytes_wouldBlock, List.append_nil, List.append_nil]
    exact iff_of_true hlaw fun hc => absurd hc hno

/-- What is true of a run as long as the law holds. -/
def UploadSound (req : Request) (s : Upload) : Prop :=
  s.received <+: req.stream ∧ Stored req s ∧ (s.stage = .fresh → s.received = [])

/-- **One step.** -/
theorem UploadStep.keeps_iff (hs : UploadStep req s a s') (hi : UploadSound req s) :
    (Stored req s' ↔ CleanRead req ⟨s, a, s'⟩) ∧
      (CleanRead req ⟨s, a, s'⟩ → UploadSound req s') := by
  obtain ⟨hpre, hlaw, hfresh⟩ := hi
  unfold UploadStep uploadStep at hs
  by_cases hfits : a.recv.Fits req.stream s.received maxLine
  swap
  · rw [if_neg hfits] at hs
    cases hs
  rw [if_pos hfits] at hs
  have hpre' := hfits.prefix hpre
  -- the law decides about the next state, once it is known not to be fresh
  suffices hiff : (Stored req s' ↔ CleanRead req ⟨s, a, s'⟩) ∧
      s'.received = s.received ++ a.recv.bytes ∧ s'.stage ≠ .fresh from
    ⟨hiff.1, fun hc => ⟨hiff.2.1 ▸ hpre', hiff.1.2 hc, fun hf => absurd hf hiff.2.2⟩⟩
  unfold Stored at hlaw
  cases hstage : s.stage with
  | finished =>
    rw [hstage] at hs
    cases hs
  | fresh =>
    rw [hstage] at hs
    cases a with
    | round c => cases hs
    | look recvline r es =>
      obtain ⟨⟨type, sent⟩, -, rfl⟩ := Option.map_eq_some_iff.1 hs
      refine ⟨?_, rfl, by cases type <;> exact nofun⟩
      unfold Stored CleanRead
      dsimp only
      rw [hlaw, hfresh hstage, List.nil_append, List.drop_nil, eq_comm, List.drop_eq_nil_iff]
      rfl
  | posting =>
    rw [hstage] at hs
    cases a with
    | look recvline r es => cases hs
    | round c =>
      obtain ⟨⟨go, out⟩, hround, rfl⟩ := Option.map_eq_some_iff.1 hs
      refine ⟨?_, rfl, by cases go <;> exact nofun⟩
      exact stored_round hround hlaw hfits

/-- **When an upload is stored as it is.**  The law holds at every moment of a run exactly
if all calls are clean. -/
theorem stored_iff (hp : Path (UploadStep req) uploadStart h s) :
    (∀ m ∈ h, Stored req m.post) ↔ ∀ m ∈ h, CleanRead req m := by
  refine hp.forall_iff (UploadSound req)
    ⟨List.nil_prefix, List.drop_nil.symm, fun _ => rfl⟩ fun m _ hs hi => ?_
  exact hs.keeps_iff hi

end Step

/-! ## Two runs -/

/-- A request with the given body. -/
def sampleRequest (body : List UInt8) : Request where
  head := text "POST /setaudio HTTP/1.0\r\n\r\n"
  body := body
  line := by decide +kernel
  blank := by decide +kernel
  nulFree := by decide +kernel

/-- The first piece arrives, and the answer is sent at once. -/
def lookAct (bs : List UInt8) : UploadAct :=
  .look (Frame.filled (maxLine + 1) 0 maxLine_succ_lt) (.data bs) [.sent okAnswer.length]

/-- An iteration in which `recv` gives `r`, and the stack is filled with `b`. -/
def postRound (r : Recv) (b : UInt8) : UploadAct :=
  .round ⟨1, true, Frame.filled (maxLine + 1) b maxLine_succ_lt, r⟩

/-- A body without NULs that comes in its own pieces is stored as it is. -/
theorem stored_iff_sample : ∃ h s, Path (UploadStep (sampleRequest [1, 2, 3])) uploadStart h s ∧
    (∀ m ∈ h, Stored (sampleRequest [1, 2, 3]) m.post) ∧ s.stored = [1, 2, 3] := by
  obtain ⟨h, s, hp, hclean, hall⟩ : ∃ h s,
      Path (UploadStep (sampleRequest [1, 2, 3])) uploadStart h s ∧
        (∀ m ∈ h, CleanRead (sampleRequest [1, 2, 3]) m) ∧ s.stored = [1, 2, 3] :=
    exists_replay (fun _ _ _ => uploadStep_eq)
      [lookAct (sampleRequest []).head, postRound (.data [1, 2]) 0, postRound .wouldBlock 0,
        postRound (.data [3]) 0]
      (fun r => (∀ m ∈ r.1, CleanRead (sampleRequest [1, 2, 3]) m) ∧ r.2.stored = [1, 2, 3])
      (by decide +kernel)
  exact ⟨h, s, hp, (stored_iff hp).2 hclean, hall⟩

/-- The body 9, 1, 0, 2: the 9 comes with the head, an operation that would block finds an
88 on the stack, and the NUL ends a text. -/
theorem upload_garbled : ∃ h s, Path (UploadStep (sampleRequest [9, 1, 0, 2])) uploadStart h s ∧
    s.received = (sampleRequest [9, 1, 0, 2]).stream ∧ s.stored = [88, 1] ∧
    ¬ (∀ m ∈ h, Stored (sampleRequest [9, 1, 0, 2]) m.post) :=
  exists_replay (fun _ _ _ => uploadStep_eq)
    [lookAct ((sampleRequest []).head ++ [9]), postRound .wouldBlock 88,
      postRound (.data [1, 0, 2]) 0]
    (fun r => r.2.received = (sampleRequest [9, 1, 0, 2]).stream ∧ r.2.stored = [88, 1] ∧
      ¬ ∀ m ∈ r.1, Stored (sampleRequest [9, 1, 0, 2]) m.post) (by decide +kernel)

end HttpRelay.Server
