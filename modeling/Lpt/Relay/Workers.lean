import Lpt.Base.Merge
import Lpt.Base.Simulation
import Lpt.Relay.Download
import Lpt.Relay.Upload

/-!
# All workers of the relay server

Every connection has a worker, and all of them share `/tmp/audio`: the uploads append to it,
through the buffers of their own streams, and the downloads read it.  They run in any
interleaving.

One worker for a connection is an assumption here: `main` means to have one, but its
comparison of `pid` with the result of `fork` usually leaves two of them on one socket
(`Accepting.served_by`).

* `Conn`, `Shared` — the connections, and the file with the writer of every byte.
* `ServerStep` — a client sends something, or some worker goes on.
* `relay_server` — what is in the file, and what the downloads have sent, in any run.
-/

namespace HttpRelay.Server

open CLib Merge Trans

/-! ## The server -/

/-- How far the worker of a connection has come. -/
inductive WorkerStage where
  /-- It has not looked at the request. -/
  | fresh
  /-- It has answered with `http_send_404`. -/
  | refused
  /-- It is in the loop of `http_process_post`. -/
  | posting
  /-- It has left that. -/
  | posted
  /-- It is in the loop of `http_process_get`. -/
  | getting
  /-- It has left that. -/
  | got
  deriving DecidableEq

/-- A connection and its worker. -/
structure Conn where
  /-- What the client has sent. -/
  wire : List UInt8
  stage : WorkerStage
  /-- What `get_client_type` has received. -/
  looked : List UInt8
  /-- What `handle_post_read` has received. -/
  posted : List UInt8
  /-- What it has printed to the file. -/
  stored : List UInt8
  /-- What of it is still in the buffer of the stream. -/
  buffer : List UInt8
  /-- Of a download: how far the file has been read, and the end-of-file mark. -/
  pos : ℕ
  eof : Bool
  /-- What `handle_get_write` has passed to `sys_send_packet`. -/
  sent : List UInt8
  deriving DecidableEq

/-- The connections, and `/tmp/audio` with the connection that has written each byte; what was
there at the beginning has none. -/
structure Shared where
  file : List (Option ℕ × UInt8)
  conn : ℕ → Conn

/-- What happens next. -/
inductive ServerAct where
  /-- The client of the connection sends something. -/
  | sends (i : ℕ) (bs : List UInt8)
  /-- The worker looks at the request, and answers. -/
  | look (i : ℕ) (recvline : Frame (maxLine + 1)) (r : Recv) (es : List SendEv)
  /-- An iteration of the loop of `http_process_post`. -/
  | post (i : ℕ) (c : PostRound)
  /-- The first `n` bytes of the buffer go to the file. -/
  | flush (i : ℕ) (n : ℕ)
  /-- An iteration of the loop of `http_process_get`. -/
  | get (i : ℕ) (c : GetRound)

/-- The stage after the request has been looked at. -/
def ClientType.workerStage : ClientType → WorkerStage
  | .unknown => .refused
  | .post => .posting
  | .get => .getting

/-- What an iteration of the upload receives. -/
def PostRound.received (c : PostRound) : Recv := (UploadAct.round c).recv

namespace Conn

/-- What has been received. -/
def received (c : Conn) : List UInt8 := c.looked ++ c.posted

/-- The open file of a download. -/
def audioFile (c : Conn) (content : List UInt8) : AudioFile := ⟨content, c.pos, c.eof⟩

/-- A connection that has just been accepted. -/
def accepted : Conn where
  wire := []
  stage := .fresh
  looked := []
  posted := []
  stored := []
  buffer := []
  pos := 0
  eof := false
  sent := []

end Conn

namespace Shared

/-- The connection `i` is now `c`. -/
def set (s : Shared) (i : ℕ) (c : Conn) : Shared := { s with conn := Function.update s.conn i c }

/-- `bs` is appended to the file for the connection `i`. -/
def append (s : Shared) (i : ℕ) (bs : List UInt8) : Shared :=
  { s with file := s.file ++ tag (some i) bs }

end Shared

/-- One step.  An upload that leaves its loop closes its stream, and all that is in the buffer
goes to the file. -/
def serverStep (s : Shared) : ServerAct → Option Shared
  | .sends i bs => some (s.set i { s.conn i with wire := (s.conn i).wire ++ bs })
  | .look i recvline r es =>
      let c := s.conn i
      if c.stage = .fresh ∧ r.Fits c.wire c.received maxLine then
        (threadClientWorker recvline r es).map fun t =>
          s.set i { c with stage := t.1.workerStage, looked := r.bytes }
      else none
  | .post i round =>
      let c := s.conn i
      if c.stage = .posting ∧ round.received.Fits c.wire c.received maxLine then
        (httpProcessPost round).map fun t =>
          let c := { c with
            posted := c.posted ++ round.received.bytes, stored := c.stored ++ t.2
            buffer := c.buffer ++ t.2 }
          if t.1 = true then s.set i c
          else (s.append i c.buffer).set i { c with stage := .posted, buffer := [] }
      else none
  | .flush i n =>
      let c := s.conn i
      if c.stage = .posting then
        some ((s.append i (c.buffer.take n)).set i { c with buffer := c.buffer.drop n })
      else none
  | .get i round =>
      let c := s.conn i
      if c.stage = .getting then
        (httpProcessGet round (c.audioFile (content s.file))).map fun t =>
          s.set i { c with
            stage := if t.1 = true then .getting else .got, pos := t.2.2.pos, eof := t.2.2.eof
            sent := c.sent ++ t.2.1 }
      else none

/-- One step. -/
def ServerStep (s : Shared) (a : ServerAct) (s' : Shared) : Prop := serverStep s a = some s'

theorem serverStep_eq {s s' : Shared} {a : ServerAct} (h : serverStep s a = some s') :
    ServerStep s a s' := h

/-- No connection has been accepted, and the file holds `audio`. -/
def serverStart (audio : List UInt8) : Shared := ⟨tag none audio, fun _ => .accepted⟩

/-! ## The law -/

/-- If the step is an iteration of the upload of `i` that calls `handle_post_read`, this prints
what it receives: a text, or, for an operation that would block, nothing. -/
def PlainRead (i : ℕ) (m : Move Shared ServerAct) : Prop :=
  ∀ c, m.label = .post i c → c.Reads →
    if c.recv = .wouldBlock then c.recvline.mem.head? = some 0 else 0 ∉ c.recv.bytes

/-- The download of the connection `i`. -/
def Shared.download (i : ℕ) (s : Shared) : Download :=
  ⟨(s.conn i).audioFile (content s.file), (s.conn i).sent, decide ((s.conn i).stage ≠ .got)⟩

/-- If the step is an iteration of the download of `i` that calls `handle_get_write`, this does
what it should. -/
def CleanGet (i : ℕ) (m : Move Shared ServerAct) : Prop :=
  ∀ c, m.label = .get i c → c.Writes → CleanCall (m.pre.download i) c.sendline

instance (i : ℕ) : DecidablePred (PlainRead i)
  | ⟨_, .post j c, _⟩ =>
      decidable_of_iff (j = i → c.Reads →
        if c.recv = .wouldBlock then c.recvline.mem.head? = some 0 else 0 ∉ c.recv.bytes)
        ⟨fun h _ hc => by cases hc; exact h rfl, fun h hj => h c (by rw [hj])⟩
  | ⟨_, .sends _ _, _⟩ | ⟨_, .look _ _ _ _, _⟩ | ⟨_, .flush _ _, _⟩ | ⟨_, .get _ _, _⟩ =>
      .isTrue fun _ hc => nomatch hc

instance (i : ℕ) : DecidablePred (CleanGet i)
  | ⟨pre, .get j c, _⟩ =>
      decidable_of_iff (j = i → c.Writes → CleanCall (pre.download i) c.sendline)
        ⟨fun h _ hc => by cases hc; exact h rfl, fun h hj => h c (by rw [hj])⟩
  | ⟨_, .sends _ _, _⟩ | ⟨_, .look _ _ _ _, _⟩ | ⟨_, .flush _ _, _⟩ | ⟨_, .post _ _, _⟩ =>
      .isTrue fun _ hc => nomatch hc

/-! ## One step -/

section Step

variable {s s' : Shared} {a : ServerAct} {audio : List UInt8} {i j : ℕ} {c : Conn}

namespace Shared

@[simp] theorem file_set (s : Shared) (i : ℕ) (c : Conn) : (s.set i c).file = s.file := rfl

@[simp] theorem conn_set_self (s : Shared) (i : ℕ) (c : Conn) : (s.set i c).conn i = c :=
  Function.update_self ..

theorem conn_set_of_ne (s : Shared) (h : j ≠ i) (c : Conn) : (s.set i c).conn j = s.conn j :=
  Function.update_of_ne h ..

/-- What a change of one connection leaves as it is, it leaves so in all. -/
theorem conn_set_eq {β : Type} (s : Shared) (f : Conn → β) (h : f c = f (s.conn j)) (i : ℕ) :
    f ((s.set j c).conn i) = f (s.conn i) := by
  by_cases hi : i = j
  · rw [hi, conn_set_self, h]
  · rw [conn_set_of_ne s hi]

@[simp] theorem file_append (s : Shared) (i : ℕ) (bs : List UInt8) :
    (s.append i bs).file = s.file ++ tag (some i) bs := rfl

@[simp] theorem conn_append (s : Shared) (i : ℕ) (bs : List UInt8) :
    (s.append i bs).conn = s.conn := rfl

end Shared

/-- The connection after an iteration of the upload. -/
def Conn.afterPost (c : Conn) (round : PostRound) (out : List UInt8) : Conn :=
  { c with
    posted := c.posted ++ round.received.bytes, stored := c.stored ++ out
    buffer := c.buffer ++ out }

/-- **What one step does.** -/
inductive ServerCase (s : Shared) : ServerAct → Shared → Prop
  | sends {i : ℕ} {bs : List UInt8} :
      ServerCase s (.sends i bs) (s.set i { s.conn i with wire := (s.conn i).wire ++ bs })
  | look {i : ℕ} {recvline : Frame (maxLine + 1)} {r : Recv} {es : List SendEv}
      {type : ClientType} : (s.conn i).stage = .fresh →
      r.Fits (s.conn i).wire (s.conn i).received maxLine →
      ServerCase s (.look i recvline r es)
        (s.set i { s.conn i with stage := type.workerStage, looked := r.bytes })
  | post {i : ℕ} {round : PostRound} {out : List UInt8} : (s.conn i).stage = .posting →
      round.received.Fits (s.conn i).wire (s.conn i).received maxLine →
      httpProcessPost round = some (true, out) →
      ServerCase s (.post i round) (s.set i ((s.conn i).afterPost round out))
  | close {i : ℕ} {round : PostRound} {out : List UInt8} : (s.conn i).stage = .posting →
      round.received.Fits (s.conn i).wire (s.conn i).received maxLine →
      httpProcessPost round = some (false, out) →
      ServerCase s (.post i round)
        ((s.append i ((s.conn i).afterPost round out).buffer).set i
          { (s.conn i).afterPost round out with stage := .posted, buffer := [] })
  | flush {i n : ℕ} : (s.conn i).stage = .posting →
      ServerCase s (.flush i n)
        ((s.append i ((s.conn i).buffer.take n)).set i
          { s.conn i with buffer := (s.conn i).buffer.drop n })
  | get {i : ℕ} {round : GetRound} {go : Bool} {out : List UInt8} {f : AudioFile} :
      (s.conn i).stage = .getting →
      httpProcessGet round ((s.conn i).audioFile (content s.file)) = some (go, out, f) →
      ServerCase s (.get i round)
        (s.set i { s.conn i with
          stage := if go = true then .getting else .got, pos := f.pos, eof := f.eof
          sent := (s.conn i).sent ++ out })

/-- **Every step is one of these.** -/
theorem ServerStep.cases (hs : ServerStep s a s') : ServerCase s a s' := by
  unfold ServerStep serverStep at hs
  cases a with
  | sends i bs =>
    cases hs
    exact .sends
  | look i recvline r es =>
    dsimp only at hs
    split_ifs at hs with hg
    obtain ⟨⟨type, sent⟩, -, rfl⟩ := Option.map_eq_some_iff.1 hs
    exact .look hg.1 hg.2
  | post i round =>
    dsimp only at hs
    split_ifs at hs with hg
    obtain ⟨⟨go, out⟩, hround, rfl⟩ := Option.map_eq_some_iff.1 hs
    cases go with
    | true => exact .post hg.1 hg.2 hround
    | false => exact .close hg.1 hg.2 hround
  | flush i n =>
    dsimp only at hs
    split_ifs at hs with hg
    cases hs
    exact .flush hg
  | get i round =>
    dsimp only at hs
    split_ifs at hs with hg
    obtain ⟨⟨go, out, f⟩, hround, rfl⟩ := Option.map_eq_some_iff.1 hs
    exact .get hg hround

/-! ## The file -/

/-- Where everything is that has been sent to the server and printed to the file. -/
structure Accounted (audio : List UInt8) (s : Shared) : Prop where
  own_none : own none s.file = audio
  own_conn : ∀ i, own (some i) s.file ++ (s.conn i).buffer = (s.conn i).stored
  received : ∀ i, (s.conn i).received <+: (s.conn i).wire
  fresh : ∀ i, (s.conn i).stage = .fresh → (s.conn i).received = []

/-- A step of the connection `i` that prints `out` and moves `bs` to the file. -/
theorem Accounted.step (hi : Accounted audio s) (i : ℕ) (bs out : List UInt8)
    (hfile : s'.file = s.file ++ tag (some i) bs) (hother : ∀ j, j ≠ i → s'.conn j = s.conn j)
    (hstored : (s'.conn i).stored = (s.conn i).stored ++ out)
    (hbuffer : bs ++ (s'.conn i).buffer = (s.conn i).buffer ++ out)
    (hreceived : (s'.conn i).received <+: (s'.conn i).wire)
    (hfresh : (s'.conn i).stage = .fresh → (s'.conn i).received = []) : Accounted audio s' := by
  refine ⟨?_, fun j => ?_, fun j => ?_, fun j => ?_⟩
  · rw [hfile, own_append, own_tag_of_ne (by exact nofun), List.append_nil]
    exact hi.own_none
  · by_cases hj : j = i
    · rw [hj, hfile, own_append, own_tag_self, List.append_assoc, hbuffer, ← List.append_assoc,
        hi.own_conn, hstored]
    · have hne : (some i : Option ℕ) ≠ some j := fun h => hj (Option.some.inj h).symm
      rw [hfile, own_append, own_tag_of_ne hne, List.append_nil, hother j hj]
      exact hi.own_conn j
  · by_cases hj : j = i
    · exact hj ▸ hreceived
    · rw [hother j hj]
      exact hi.received j
  · by_cases hj : j = i
    · exact hj ▸ hfresh
    · rw [hother j hj]
      exact hi.fresh j

/-- A step of the connection `i` that leaves the file and the stream as they are. -/
theorem Accounted.set (hi : Accounted audio s) (hstored : c.stored = (s.conn i).stored)
    (hbuffer : c.buffer = (s.conn i).buffer) (hreceived : c.received <+: c.wire)
    (hfresh : c.stage = .fresh → c.received = []) : Accounted audio (s.set i c) := by
  refine hi.step i [] [] ?_ (fun j hj => s.conn_set_of_ne hj c) ?_ ?_ ?_ ?_
  · exact (List.append_nil _).symm
  · rw [s.conn_set_self, hstored, List.append_nil]
  · rw [s.conn_set_self, hbuffer, List.append_nil, List.nil_append]
  · rwa [s.conn_set_self]
  · rwa [s.conn_set_self]

/-- What an iteration of the upload receives is the next part of what has been sent. -/
theorem Accounted.afterPost_received (hi : Accounted audio s) {round : PostRound}
    (out : List UInt8)
    (hfits : round.received.Fits (s.conn i).wire (s.conn i).received maxLine) :
    ((s.conn i).afterPost round out).received <+: (s.conn i).wire := by
  have h := hfits.prefix (hi.received i)
  rwa [Conn.received, List.append_assoc] at h

theorem ServerStep.accounted (hs : ServerStep s a s') (hi : Accounted audio s) :
    Accounted audio s' := by
  cases hs.cases with
  | sends => exact hi.set rfl rfl ((hi.received _).trans (List.prefix_append _ _)) (hi.fresh _)
  | @look i _ r _ type hfresh hfits =>
    have hnil := hi.fresh i hfresh
    rw [hnil] at hfits
    have hposted : (s.conn i).posted = [] := (List.append_eq_nil_iff.1 hnil).2
    refine hi.set rfl rfl ?_ ?_
    · rw [Conn.received, hposted, List.append_nil]
      exact hfits.prefix List.nil_prefix
    · cases type <;> exact nofun
  | @post i round out hstage hfits _ =>
    refine hi.step i [] out (List.append_nil _).symm
      (fun j hj => s.conn_set_of_ne hj _) ?_ ?_ ?_ ?_
    · rw [s.conn_set_self]
      rfl
    · rw [s.conn_set_self]
      rfl
    · rw [s.conn_set_self]
      exact hi.afterPost_received out hfits
    · rw [s.conn_set_self]
      exact fun h => nomatch hstage.symm.trans h
  | @close i round out hstage hfits _ =>
    refine hi.step i ((s.conn i).buffer ++ out) out rfl
      (fun j hj => Shared.conn_set_of_ne _ hj _) ?_ ?_ ?_ ?_
    · rw [Shared.conn_set_self]
      rfl
    · rw [Shared.conn_set_self]
      exact List.append_nil _
    · rw [Shared.conn_set_self]
      exact hi.afterPost_received out hfits
    · rw [Shared.conn_set_self]
      exact nofun
  | @flush i n hstage =>
    refine hi.step i ((s.conn i).buffer.take n) [] rfl
      (fun j hj => Shared.conn_set_of_ne _ hj _) ?_ ?_ ?_ ?_
    · rw [Shared.conn_set_self, List.append_nil]
    · rw [Shared.conn_set_self, List.append_nil]
      exact List.take_append_drop n _
    · rw [Shared.conn_set_self]
      exact hi.received i
    · rw [Shared.conn_set_self]
      exact hi.fresh i
  | @get i _ go _ _ hstage _ =>
    refine hi.set rfl rfl (hi.received i) ?_
    cases go <;> exact nofun

theorem accounted_run {h : List (Move Shared ServerAct)}
    (hp : Path ServerStep (serverStart audio) h s) : Accounted audio s := by
  refine hp.invariant (Accounted audio) ⟨own_tag_self _ _, fun i => ?_, fun i => List.nil_prefix,
    fun i _ => rfl⟩ fun _ _ _ hi hs => hs.accounted hi
  have hne : (none : Option ℕ) ≠ some i := nofun
  exact (List.append_nil _).trans (own_tag_of_ne hne _)

/-! ## An upload -/

/-- What an iteration prints is what it receives exactly if it is plain. -/
theorem httpProcessPost_plain {round : PostRound} {go : Bool} {out : List UInt8}
    (h : httpProcessPost round = some (go, out)) : out = round.received.bytes ↔
      (round.Reads → if round.recv = .wouldBlock then round.recvline.mem.head? = some 0
        else 0 ∉ round.recv.bytes) := by
  rcases httpProcessPost_eq h with ⟨hreads, hout⟩ | ⟨hno, rfl⟩
  · have hrecv : round.received = round.recv := if_pos hreads
    rw [hrecv, imp_iff_right hreads]
    cases hr : round.recv with
    | error =>
      rw [hr] at hout
      exact (handlePostRead_eq_none (Or.inl hout)).elim
    | closed =>
      rw [hr] at hout
      exact (handlePostRead_eq_none (Or.inr hout)).elim
    | wouldBlock =>
      rw [hr] at hout
      rw [if_pos rfl, ← handlePostRead_wouldBlock hout, Recv.bytes_wouldBlock]
    | data bs =>
      rw [hr] at hout
      obtain rfl := handlePostRead_data hout
      rw [if_neg nofun, Recv.bytes_data, read_eq_iff]
  · have hrecv : round.received = .wouldBlock := if_neg hno
    rw [hrecv]
    exact iff_of_true rfl fun hc => absurd hc hno

/-- What an iteration of an upload prints and receives. -/
theorem ServerStep.posts {round : PostRound} (hs : ServerStep s (.post i round) s') :
    ∃ go out, httpProcessPost round = some (go, out) ∧
      (s'.conn i).stored = (s.conn i).stored ++ out ∧
      (s'.conn i).posted = (s.conn i).posted ++ round.received.bytes := by
  cases hs.cases with
  | post _ _ hround =>
    refine ⟨_, _, hround, ?_⟩
    rw [s.conn_set_self]
    exact ⟨rfl, rfl⟩
  | close _ _ hround =>
    refine ⟨_, _, hround, ?_⟩
    rw [Shared.conn_set_self]
    exact ⟨rfl, rfl⟩

/-- Nothing else prints or receives anything for it. -/
theorem ServerStep.posts_nothing (hs : ServerStep s a s') (hno : ∀ round, a ≠ .post i round) :
    (s'.conn i).stored = (s.conn i).stored ∧ (s'.conn i).posted = (s.conn i).posted := by
  have hset : ∀ {t : Shared} {j : ℕ} {c : Conn}, t.conn = s.conn →
      c.stored = (s.conn j).stored → c.posted = (s.conn j).posted →
      ((t.set j c).conn i).stored = (s.conn i).stored ∧
        ((t.set j c).conn i).posted = (s.conn i).posted := by
    intro t j c hconn hstored hposted
    rw [← hconn] at hstored hposted ⊢
    exact ⟨t.conn_set_eq Conn.stored hstored i, t.conn_set_eq Conn.posted hposted i⟩
  have hother : ∀ {t : Shared} {j : ℕ} {round : PostRound} {c : Conn}, a = .post j round →
      t.conn = s.conn → (t.set j c).conn i = s.conn i := by
    rintro t j round c rfl hconn
    have hj : i ≠ j := by
      rintro rfl
      exact hno round rfl
    rw [t.conn_set_of_ne hj, hconn]
  cases hs.cases with
  | sends => exact hset rfl rfl rfl
  | look _ _ => exact hset rfl rfl rfl
  | @post j round _ _ _ _ =>
    rw [hother (t := s) (j := j) rfl rfl]
    exact ⟨rfl, rfl⟩
  | @close j round out _ _ _ =>
    rw [hother (t := s.append j _) (j := j) rfl rfl]
    exact ⟨rfl, rfl⟩
  | flush _ => exact hset rfl rfl rfl
  | get _ _ => exact hset rfl rfl rfl

/-- Nothing but its client adds to what has been sent over a connection. -/
theorem ServerStep.wire_eq (hs : ServerStep s a s') (hno : ∀ bs, a ≠ .sends i bs) :
    (s'.conn i).wire = (s.conn i).wire := by
  have hset : ∀ {t : Shared} {j : ℕ} {c : Conn}, t.conn = s.conn → c.wire = (s.conn j).wire →
      ((t.set j c).conn i).wire = (s.conn i).wire := by
    intro t j c hconn hwire
    rw [← hconn] at hwire ⊢
    exact t.conn_set_eq Conn.wire hwire i
  cases hs.cases with
  | @sends j bs =>
    have hj : i ≠ j := by
      rintro rfl
      exact hno bs rfl
    rw [s.conn_set_of_ne hj]
  | look _ _ => exact hset rfl rfl
  | post _ _ _ => exact hset rfl rfl
  | close _ _ _ => exact hset rfl rfl
  | flush _ => exact hset rfl rfl
  | get _ _ => exact hset rfl rfl

theorem ServerStep.plain_iff (hs : ServerStep s a s')
    (hi : (s.conn i).stored = (s.conn i).posted) :
    (s'.conn i).stored = (s'.conn i).posted ↔ PlainRead i ⟨s, a, s'⟩ := by
  by_cases hpost : ∃ round, a = .post i round
  · obtain ⟨round, rfl⟩ := hpost
    obtain ⟨go, out, hround, hstored, hposted⟩ := hs.posts
    rw [hstored, hposted, hi, List.append_cancel_left_eq, httpProcessPost_plain hround]
    refine ⟨fun h c hc => ?_, fun h => h round rfl⟩
    cases hc
    exact h
  · have hno : ∀ round, a ≠ .post i round := fun round h => hpost ⟨round, h⟩
    obtain ⟨hstored, hposted⟩ := hs.posts_nothing hno
    rw [hstored, hposted]
    exact iff_of_true hi fun c hc => absurd hc (hno c)

/-! ## A download -/

/-- What a step is for the download of the connection `i`. -/
inductive DownloadLabel (i : ℕ) : Move Shared ServerAct → DownloadAct → Prop
  | round {s s' : Shared} {c : GetRound} : DownloadLabel i ⟨s, .get i c, s'⟩ (.round c)
  | append {m : Move Shared ServerAct} {bs : List UInt8} : DownloadLabel i m (.append bs)

/-- A step that leaves the file and the downloads as they are is not seen. -/
theorem download_set (s : Shared) (i j : ℕ) (c : Conn) (hpos : c.pos = (s.conn j).pos)
    (heof : c.eof = (s.conn j).eof) (hsent : c.sent = (s.conn j).sent)
    (hgot : c.stage = .got ↔ (s.conn j).stage = .got) :
    (s.set j c).download i = s.download i := by
  have hgot' : (((s.set j c).conn i).stage = .got) = ((s.conn i).stage = .got) :=
    s.conn_set_eq (fun c => c.stage = .got) (propext hgot) i
  unfold Shared.download Conn.audioFile
  simp only [s.conn_set_eq Conn.pos hpos i, s.conn_set_eq Conn.eof heof i,
    s.conn_set_eq Conn.sent hsent i, Shared.file_set, ne_eq, hgot']

/-- What is appended to the file the download can read from then on. -/
theorem download_append (s : Shared) (i j : ℕ) (bs : List UInt8) (c : Conn)
    (hpos : c.pos = (s.conn j).pos) (heof : c.eof = (s.conn j).eof)
    (hsent : c.sent = (s.conn j).sent) (hgot : c.stage = .got ↔ (s.conn j).stage = .got) :
    DownloadStep (s.download i) (.append bs) (((s.append j bs).set j c).download i) := by
  rw [download_set (s.append j bs) i j c hpos heof hsent hgot]
  apply downloadStep_eq
  unfold downloadStep Shared.download Conn.audioFile
  rw [Shared.file_append, content_append, content_tag]
  rfl

/-- A round of the download itself. -/
theorem download_get {round : GetRound} {go : Bool} {out : List UInt8} {f : AudioFile}
    (hstage : (s.conn i).stage = .getting)
    (hround : httpProcessGet round ((s.conn i).audioFile (content s.file)) = some (go, out, f)) :
    DownloadStep (s.download i) (.round round) ((s.set i { s.conn i with
      stage := if go = true then .getting else .got, pos := f.pos, eof := f.eof
      sent := (s.conn i).sent ++ out }).download i) := by
  apply downloadStep_eq
  have hrun : (s.download i).running = true :=
    decide_eq_true fun h => nomatch hstage.symm.trans h
  have hcontent : f.content = content s.file := httpProcessGet_content hround
  show (if (s.download i).running = true then (httpProcessGet round (s.download i).file).map _
    else none) = _
  rw [if_pos hrun, show httpProcessGet round (s.download i).file = _ from hround]
  unfold Shared.download Conn.audioFile
  simp only [Option.map_some, Shared.conn_set_self, Shared.file_set, ← hcontent]
  cases go <;> rfl

/-- **A download by itself**: the server is seen by it as its own loop, and others that
append. -/
theorem download_simulates (i : ℕ) :
    Simulates ServerStep DownloadStep (fun _ => True) (Shared.download i) (DownloadLabel i) := by
  intro s a s' _ hs
  refine ⟨trivial, ?_⟩
  cases hs.cases with
  | sends => exact Or.inl (download_set s i _ _ rfl rfl rfl Iff.rfl)
  | @look j _ _ _ type hfresh _ =>
    refine Or.inl (download_set s i _ _ rfl rfl rfl (iff_of_false ?_ ?_))
    · cases type <;> exact nofun
    · exact fun h => nomatch hfresh.symm.trans h
  | post _ _ _ => exact Or.inl (download_set s i _ _ rfl rfl rfl Iff.rfl)
  | @close j round out hstage _ _ =>
    refine Or.inr ⟨_, .append, download_append s i _ _ _ rfl rfl rfl (iff_of_false nofun ?_)⟩
    exact fun h => nomatch hstage.symm.trans h
  | flush _ => exact Or.inr ⟨_, .append, download_append s i _ _ _ rfl rfl rfl Iff.rfl⟩
  | @get j round go out f hstage hround =>
    by_cases hj : i = j
    · subst hj
      exact Or.inr ⟨.round round, .round, download_get hstage hround⟩
    · refine Or.inl ?_
      unfold Shared.download
      rw [s.conn_set_of_ne hj]
      rfl

end Step

/-! ## Runs -/

section Runs

variable {s : Shared} {audio : List UInt8} {h : List (Move Shared ServerAct)} {i : ℕ}

/-- An upload prints what it receives, at every moment, exactly if all its reads are plain. -/
theorem upload_iff (hp : Path ServerStep (serverStart audio) h s) :
    (∀ m ∈ h, (m.post.conn i).stored = (m.post.conn i).posted) ↔ ∀ m ∈ h, PlainRead i m := by
  refine hp.forall_iff (fun s => (s.conn i).stored = (s.conn i).posted) rfl fun m _ hs hi => ?_
  have hiff := hs.plain_iff hi
  exact ⟨hiff, hiff.2⟩

/-- What a download whose calls do what they should has sent. -/
theorem download_serving (hp : Path ServerStep (serverStart audio) h s)
    (hclean : ∀ m ∈ h, CleanGet i m) : Serving (s.download i) := by
  obtain ⟨-, h', hpath, hseen⟩ := hp.simulates (download_simulates i) trivial
  have hstart : (serverStart audio).download i = downloadStart audio := by
    unfold Shared.download serverStart Conn.audioFile
    rw [content_tag]
    rfl
  rw [hstart] at hpath
  refine hpath.invariant_of Serving (C := CleanWrite) (hseen.forall fun m hm a ha => ?_)
    ⟨List.nil_prefix, Nat.zero_le _, fun _ => rfl⟩ fun _ _ _ hi hc hs => (hs.serves hi hc).1
  cases ha with
  | @round s s' c => exact hclean _ hm c rfl
  | append => trivial

/-- **All that the workers do.**  In every run, with any number of connections in any
interleaving:

* the file is a merge of what was there and what the uploads have printed, each in its own order,
  and what is not in it yet is in the buffer of its stream;
* the bytes an upload has received are those its client has sent, and what it prints is what
  `handle_post_read` receives, at every moment, exactly if all its reads are plain;
* a download whose calls do what they should has sent the beginning of that file. -/
theorem relay_server (hp : Path ServerStep (serverStart audio) h s) :
    own none s.file = audio ∧
    (∀ i, own (some i) s.file ++ (s.conn i).buffer = (s.conn i).stored) ∧
    (∀ i, (s.conn i).received <+: (s.conn i).wire) ∧
    (∀ i, (∀ m ∈ h, (m.post.conn i).stored = (m.post.conn i).posted) ↔ ∀ m ∈ h, PlainRead i m) ∧
    (∀ i, (∀ m ∈ h, CleanGet i m) → (s.conn i).sent <+: content s.file) :=
  have hi := accounted_run hp
  ⟨hi.own_none, hi.own_conn, hi.received, fun _ => upload_iff hp,
    fun _ hclean => Serving.sent_prefix (download_serving hp hclean)⟩

end Runs

/-- A buffer of zeros. -/
def zeros : Frame (maxLine + 1) := .filled _ 0 maxLine_succ_lt

/-- A run to which the law applies: one connection uploads two bytes, and another one downloads
them. -/
theorem relay_server_two : ∃ h s, Path ServerStep (serverStart []) h s ∧
    content s.file = [1, 2] ∧ (s.conn 1).sent = [1, 2] ∧
    own (some 0) s.file ++ (s.conn 0).buffer = (s.conn 0).stored := by
  obtain ⟨h, s, hp, hstate⟩ : ∃ h s, Path ServerStep (serverStart []) h s ∧
      content s.file = [1, 2] ∧ (s.conn 1).sent = [1, 2] :=
    exists_replay (fun _ _ _ => serverStep_eq)
      [.sends 0 ((sampleRequest [1, 2]).stream), .sends 1 (text "GET /getaudio"),
        .look 0 zeros (.data (sampleRequest []).head) [.sent okAnswer.length],
        .post 0 ⟨1, true, zeros, .data [1, 2]⟩, .flush 0 2,
        .look 1 zeros (.data (text "GET /getaudio")) [.sent audioHead.length],
        .get 1 ⟨1, true, zeros, [.sent 2]⟩]
      (fun r => content r.2.file = [1, 2] ∧ (r.2.conn 1).sent = [1, 2]) (by decide +kernel)
  exact ⟨h, s, hp, hstate.1, hstate.2, (relay_server hp).2.1 0⟩

end HttpRelay.Server
