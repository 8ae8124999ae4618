import Lpt.Base.Cuts
import Lpt.Base.Transition
import Lpt.Relay.Client

/-!
# Is the relay client transparent?

The camera sends a head and a body, and the relay server is to be sent the head of the
`POST` request and the same body.  The client looks at every piece it receives by itself:
it replaces whatever begins like a head, and sends the rest as a text.  So it depends on
the pieces, on the bytes in them, and on what the stack holds behind them, whether the body
arrives.

* `Response` — a head and a body.
* `Relayed` — what is to have been sent after some bytes have been received.
* `Clean` — a piece that is sent on as it should be.
* `relayed_iff` — the law holds in a run exactly if all pieces are clean.
-/

namespace HttpRelay.Client

open CLib Trans

/-! ## Runs -/

/-- What the camera sends: the head of an HTTP response and a body. -/
structure Response where
  head : List UInt8
  body : List UInt8
  /-- It begins with the version. -/
  version : text "HTTP/" <+: head
  /-- It ends with an empty line. -/
  blank : text "\r\n\r\n" <:+ head
  /-- It is a text. -/
  nulFree : 0 ∉ head

/-- All bytes, in the order in which the camera sends them. -/
def Response.stream (cam : Response) : List UInt8 := cam.head ++ cam.body

/-- What has been received from the camera and sent to the relay server. -/
structure Relay where
  received : List UInt8
  sent : List UInt8
  /-- The loop of `process_relay` goes on. -/
  running : Bool

/-- The bytes that an iteration receives from the camera. -/
def Round.received (c : Round) : List UInt8 := if c.CallsLocal then c.recvLocal.bytes else []

/-- One iteration of the loop of `process_relay`. -/
def RelayStep (cam : Response) (s : Relay) (c : Round) (s' : Relay) : Prop :=
  s.running = true ∧ (c.CallsLocal → c.recvLocal.Fits cam.stream s.received maxLine) ∧
    ∃ go out, processRelay c = some (go, out) ∧
      s' = ⟨s.received ++ c.received, s.sent ++ out, go⟩

/-- Before the first iteration. -/
def relayStart : Relay := ⟨[], [], true⟩

/-! ## The law -/

/-- **Transparency**: when the head has been received, the head of the `POST` request and
all bytes of the body received so far have been sent, and nothing else.  Before, no more
than the head of the request. -/
def Relayed (cam : Response) (s : Relay) : Prop :=
  if s.received.length < cam.head.length then s.sent <+: headline.bytes
  else s.sent = headline.bytes ++ s.received.drop cam.head.length

instance (cam : Response) (s : Relay) : Decidable (Relayed cam s) :=
  inferInstanceAs (Decidable (ite _ _ _))

/-- The bytes `bs`, received after `before`, are sent on as they should be.  The first of
them are at most the head, and begin like one; the later ones do not, they are a text, and
the stack holds a NUL behind them.  A piece that begins in the head and goes beyond it can
only be right by accident: it begins like a head, and the body begins with the head of the
`POST` request. -/
def CleanPiece (cam : Response) (before : List UInt8) (recvline : Frame (maxLine + 1))
    (bs : List UInt8) : Prop :=
  if before = [] then
    bs.length ≤ cam.head.length ∧ startsWith (recvline.stored bs) 0 httpVersion = true
  else if before.length < cam.head.length then
    cam.head.length ≤ (before ++ bs).length ∧
      startsWith (recvline.stored bs) 0 httpVersion = true ∧
      (before ++ bs).drop cam.head.length = headline.bytes
  else
    startsWith (recvline.stored bs) 0 httpVersion = false ∧ 0 ∉ bs ∧ recvline.EndsAt bs.length

instance (cam : Response) (before : List UInt8) (recvline : Frame (maxLine + 1))
    (bs : List UInt8) : Decidable (CleanPiece cam before recvline bs) :=
  inferInstanceAs (Decidable (ite _ _ (ite _ _ _)))

/-- What an iteration receives from the camera is sent on as it should be. -/
def Clean (cam : Response) (m : Move Relay Round) : Prop :=
  m.label.received ≠ [] → CleanPiece cam m.pre.received m.label.recvline m.label.received

instance (cam : Response) (m : Move Relay Round) : Decidable (Clean cam m) :=
  inferInstanceAs (Decidable (_ → _))

/-! ## One step -/

section Step

variable {cam : Response} {s s' : Relay} {c : Round} {before bs : List UInt8}
  {recvline : Frame (maxLine + 1)} {h : List (Move Relay Round)}

/-- What has been sent if all pieces have been clean. -/
def expected (cam : Response) (received : List UInt8) : List UInt8 :=
  if received = [] then []
  else if received.length < cam.head.length then headline.bytes
  else headline.bytes ++ received.drop cam.head.length

theorem Response.head_cons (cam : Response) : ∃ rest, cam.head = 72 :: rest := by
  obtain ⟨rest, hrest⟩ := cam.version
  exact ⟨text "TTP/" ++ rest, hrest.symm⟩

theorem headline_cons : ∃ rest, headline.bytes = 80 :: rest := ⟨_, rfl⟩

/-- A piece begins with a byte that is not a NUL as long as it begins in the head, and the
head begins with an `H`. -/
theorem piece_in_head (hfits : before ++ bs <+: cam.stream) (hlt : before.length < cam.head.length)
    (hbs : bs ≠ []) : ∃ b rest, bs = b :: rest ∧ b ≠ 0 ∧ (before = [] → b = 72) := by
  obtain ⟨part, hpart, hsub, hcut⟩ := piece_cut hfits hlt hbs
  obtain ⟨b, rest, rfl⟩ := List.exists_cons_of_ne_nil hpart
  refine ⟨b, _, hcut, fun h0 => cam.nulFree (h0 ▸ hsub (List.mem_cons_self ..)), ?_⟩
  rintro rfl
  obtain ⟨after, hhead⟩ := cam.head_cons
  rw [List.nil_append, hcut, Response.stream, hhead] at hfits
  exact (List.cons_prefix_cons.1 hfits).1

/-- What is sent for a piece that is not replaced begins with its first byte. -/
theorem relayed_cons {b : UInt8} {rest : List UInt8} (hb : b ≠ 0)
    (hstart : ¬ startsWith (recvline.stored (b :: rest)) 0 httpVersion = true) :
    ∃ out, relayed recvline (b :: rest) = b :: out := by
  unfold relayed
  rw [if_neg hstart, recvline.stored_eq]
  refine ⟨(rest ++ recvline.mem.drop (rest.length + 1)).takeWhile (· != 0), ?_⟩
  show (b :: (rest ++ recvline.mem.drop (rest.length + 1))).takeWhile (· != 0) = _
  rw [List.takeWhile_cons_of_pos (by simpa using hb)]

/-- What begins like a head begins with an `H`. -/
theorem eq_of_startsWith {b : UInt8} {rest : List UInt8}
    (hstart : startsWith (recvline.stored (b :: rest)) 0 httpVersion = true) : b = 72 := by
  obtain ⟨after, hafter⟩ := (startsWith_iff (by decide)).1 hstart
  rw [recvline.stored_eq] at hafter
  exact (List.cons.inj hafter).1.symm

/-- The first piece. -/
theorem relayed_first (hfits : bs <+: cam.stream) (hbs : bs ≠ []) (go : Bool) :
    (Relayed cam ⟨bs, relayed recvline bs, go⟩ ↔
      bs.length ≤ cam.head.length ∧ startsWith (recvline.stored bs) 0 httpVersion = true) ∧
    (bs.length ≤ cam.head.length ∧ startsWith (recvline.stored bs) 0 httpVersion = true →
      relayed recvline bs = expected cam bs) := by
  have hpos : 0 < cam.head.length := by
    obtain ⟨rest, hrest⟩ := cam.head_cons
    rw [hrest]
    exact Nat.succ_pos _
  obtain ⟨b, rest, rfl, hb, h72⟩ := piece_in_head (show [] ++ bs <+: cam.stream from hfits) hpos hbs
  obtain rfl : b = 72 := h72 rfl
  obtain ⟨post, hpost⟩ := headline_cons
  unfold Relayed expected
  dsimp only
  rw [if_neg hbs]
  by_cases hstart : startsWith (recvline.stored (72 :: rest)) 0 httpVersion = true
  · have hout : relayed recvline (72 :: rest) = headline.bytes := if_pos hstart
    rw [hout, and_iff_left hstart]
    by_cases hlt : (72 :: rest).length < cam.head.length
    · rw [if_pos hlt, if_pos hlt]
      exact ⟨iff_of_true (List.prefix_refl _) hlt.le, fun _ => rfl⟩
    · rw [if_neg hlt, if_neg hlt]
      have hdrop : headline.bytes = headline.bytes ++ (72 :: rest).drop cam.head.length ↔
          (72 :: rest).length ≤ cam.head.length := by
        rw [List.self_eq_append_right, List.drop_eq_nil_iff]
      exact ⟨hdrop, hdrop.2⟩
  · -- the piece itself is sent, and it does not begin like the request
    obtain ⟨out, hout⟩ := relayed_cons hb hstart
    refine ⟨iff_of_false ?_ fun hc => hstart hc.2, fun hc => absurd hc.2 hstart⟩
    rw [hout, hpost]
    split
    · intro hprefix
      exact absurd (List.cons_prefix_cons.1 hprefix).1 (by decide)
    · intro heq
      exact absurd (List.cons.inj heq).1 (by decide)

/-- A later piece that begins in the head. -/
theorem relayed_inHead (hfits : before ++ bs <+: cam.stream) (hbs : bs ≠ [])
    (hlt : before.length < cam.head.length) (go : Bool) :
    Relayed cam ⟨before ++ bs, headline.bytes ++ relayed recvline bs, go⟩ ↔
      cam.head.length ≤ (before ++ bs).length ∧
        startsWith (recvline.stored bs) 0 httpVersion = true ∧
        (before ++ bs).drop cam.head.length = headline.bytes := by
  obtain ⟨b, rest, rfl, hb, -⟩ := piece_in_head hfits hlt hbs
  obtain ⟨post, hpost⟩ := headline_cons
  unfold Relayed
  dsimp only
  by_cases hlt' : (before ++ b :: rest).length < cam.head.length
  · -- nothing of the body has arrived, and something has been sent
    rw [if_pos hlt']
    refine iff_of_false (fun hprefix => ?_) fun hc => absurd hlt' (not_lt.2 hc.1)
    have hnil : relayed recvline (b :: rest) = [] := by
      have hle := hprefix.length_le
      rw [List.length_append] at hle
      exact List.eq_nil_of_length_eq_zero (by omega)
    by_cases hstart : startsWith (recvline.stored (b :: rest)) 0 httpVersion = true
    · unfold relayed at hnil
      rw [if_pos hstart, hpost] at hnil
      cases hnil
    · obtain ⟨out, hout⟩ := relayed_cons hb hstart
      rw [hout] at hnil
      cases hnil
  · have hle := not_lt.1 hlt'
    rw [if_neg hlt', List.append_cancel_left_eq, and_iff_right hle]
    by_cases hstart : startsWith (recvline.stored (b :: rest)) 0 httpVersion = true
    · have hout : relayed recvline (b :: rest) = headline.bytes := if_pos hstart
      rw [hout, and_iff_right hstart]
      exact eq_comm
    · -- the rest of the head is sent as well, and a text has no NUL
      refine iff_of_false (fun heq => ?_) fun hc => hstart hc.1
      unfold relayed at heq
      rw [if_neg hstart, recvline.stored_eq] at heq
      exact read_ne_body _ hfits hlt hbs cam.nulFree heq

/-- A piece of the body. -/
theorem relayed_inBody (recvline : Frame (maxLine + 1)) (hbs : bs ≠ [])
    (hle : cam.head.length ≤ before.length) (go : Bool) :
    Relayed cam ⟨before ++ bs, headline.bytes ++ before.drop cam.head.length ++
        relayed recvline bs, go⟩ ↔
      startsWith (recvline.stored bs) 0 httpVersion = false ∧ 0 ∉ bs ∧
        recvline.EndsAt bs.length := by
  have hnlt : ¬ (before ++ bs).length < cam.head.length := by
    rw [List.length_append]
    omega
  unfold Relayed
  dsimp only
  rw [if_neg hnlt, List.drop_append_of_le_length hle, List.append_assoc,
    List.append_cancel_left_eq, List.append_cancel_left_eq]
  by_cases hstart : startsWith (recvline.stored bs) 0 httpVersion = true
  · -- the head of the request is sent once more
    refine iff_of_false (fun heq => ?_) fun hc => by simp [hstart] at hc
    obtain ⟨b, rest, rfl⟩ := List.exists_cons_of_ne_nil hbs
    obtain rfl : b = 72 := eq_of_startsWith hstart
    obtain ⟨post, hpost⟩ := headline_cons
    unfold relayed at heq
    rw [if_pos hstart, hpost] at heq
    exact absurd (List.cons.inj heq).1 (by decide)
  · have hout : relayed recvline bs = (CStr.read (bs ++ recvline.mem.drop bs.length)).bytes := by
      unfold relayed
      rw [if_neg hstart, recvline.stored_eq]
    rw [hout, read_append_eq_iff, Bool.not_eq_true] at *
    rw [and_iff_right hstart]
    exact Iff.rfl

/-- **One piece.**  If all pieces have been clean before, the law holds after the next one
exactly if it is clean as well, and then what has been sent is as expected again. -/
theorem relayed_piece (recvline : Frame (maxLine + 1)) (hfits : before ++ bs <+: cam.stream)
    (hbs : bs ≠ []) (go : Bool) :
    (Relayed cam ⟨before ++ bs, expected cam before ++ relayed recvline bs, go⟩ ↔
      CleanPiece cam before recvline bs) ∧
    (CleanPiece cam before recvline bs →
      expected cam before ++ relayed recvline bs = expected cam (before ++ bs)) := by
  by_cases hnil : before = []
  · subst hnil
    exact relayed_first hfits hbs go
  have hne : before ++ bs ≠ [] := fun h => hnil (List.append_eq_nil_iff.1 h).1
  unfold CleanPiece
  rw [if_neg hnil]
  by_cases hlt : before.length < cam.head.length
  · have hexp : expected cam before = headline.bytes := by
      unfold expected
      rw [if_neg hnil, if_pos hlt]
    rw [if_pos hlt, hexp]
    refine ⟨relayed_inHead hfits hbs hlt go, fun ⟨hle, hstart, hbody⟩ => ?_⟩
    unfold expected relayed
    rw [if_pos hstart, if_neg hne, if_neg (not_lt.2 hle), hbody]
  · have hle := not_lt.1 hlt
    have hexp : expected cam before = headline.bytes ++ before.drop cam.head.length := by
      unfold expected
      rw [if_neg hnil, if_neg hlt]
    rw [if_neg hlt, hexp]
    have hiff := relayed_inBody recvline hbs hle go
    refine ⟨hiff, ?_⟩
    intro hclean
    have hnlt : ¬ (before ++ bs).length < cam.head.length := by
      rw [List.length_append]
      omega
    have hlaw := hiff.2 hclean
    unfold Relayed at hlaw
    rw [if_neg hnlt] at hlaw
    unfold expected
    rw [if_neg hne, if_neg hnlt]
    exact hlaw

/-- What holds in every state of a run whose pieces are all clean. -/
def AsExpected (cam : Response) (s : Relay) : Prop :=
  s.received <+: cam.stream ∧ s.sent = expected cam s.received

theorem AsExpected.relayed (hs : AsExpected cam s) : Relayed cam s := by
  unfold Relayed
  rw [hs.2]
  unfold expected
  by_cases hnil : s.received = []
  · obtain ⟨rest, hrest⟩ := cam.head_cons
    rw [if_pos hnil, if_pos (by rw [hnil, hrest]; exact Nat.succ_pos _)]
    exact List.nil_prefix
  · rw [if_neg hnil]
    by_cases hlt : s.received.length < cam.head.length
    · rw [if_pos hlt, if_pos hlt]
    · rw [if_neg hlt, if_neg hlt]

/-- **One iteration.** -/
theorem RelayStep.keeps_iff (hs : RelayStep cam s c s') (he : .error ∉ c.sends)
    (hexp : AsExpected cam s) :
    (Relayed cam s' ↔ Clean cam ⟨s, c, s'⟩) ∧ (Clean cam ⟨s, c, s'⟩ → AsExpected cam s') := by
  obtain ⟨-, hfits, go, out, hround, rfl⟩ := hs
  obtain ⟨hpre, hsent⟩ := hexp
  unfold Clean
  dsimp only
  rcases processRelay_sent hround he with ⟨bs, hcalls, hdata, rfl⟩ | ⟨hno, rfl⟩
  · have hrec : c.received = bs := by
      unfold Round.received
      rw [if_pos hcalls, hdata]
      rfl
    obtain ⟨hbs, -, hstream⟩ : bs ≠ [] ∧ bs.length ≤ maxLine ∧ s.received ++ bs <+: cam.stream := by
      have hf := hfits hcalls
      rwa [hdata] at hf
    obtain ⟨hiff, hnext⟩ := relayed_piece c.recvline hstream hbs go
    rw [hrec, hsent, imp_iff_right hbs]
    exact ⟨hiff, fun hc => ⟨hstream, hnext hc⟩⟩
  · -- nothing is received, and nothing is sent
    have hrec : c.received = [] := by
      unfold Round.received
      rcases hno with hno | hno
      · exact if_neg hno
      · rw [hno, ite_self]
    have hsame : AsExpected cam ⟨s.received ++ c.received, s.sent ++ [], go⟩ := by
      rw [hrec, List.append_nil, List.append_nil]
      exact ⟨hpre, hsent⟩
    exact ⟨iff_of_true hsame.relayed fun hne => absurd hrec hne, fun _ => hsame⟩

/-- **When the client is transparent.**  In a run in which no `send` fails the law holds at
every moment exactly if all pieces are clean. -/
theorem relayed_iff (hp : Path (RelayStep cam) relayStart h s)
    (hsend : ∀ m ∈ h, .error ∉ m.label.sends) :
    (∀ m ∈ h, Relayed cam m.post) ↔ ∀ m ∈ h, Clean cam m := by
  apply hp.forall_iff (AsExpected cam) ⟨List.nil_prefix, rfl⟩
  intro m hm hs hexp
  exact hs.keeps_iff (hsend m hm) hexp

end Step

/-! ## Two runs -/

/-- An iteration taken from a script. -/
def relayStep (cam : Response) (s : Relay) (c : Round) : Option Relay :=
  if s.running = true ∧ (c.CallsLocal → c.recvLocal.Fits cam.stream s.received maxLine) then
    (processRelay c).map fun r => ⟨s.received ++ c.received, s.sent ++ r.2, r.1⟩
  else none

theorem relayStep_eq {cam : Response} {s s' : Relay} {c : Round}
    (h : relayStep cam s c = some s') : RelayStep cam s c s' := by
  unfold relayStep at h
  split at h
  · obtain ⟨⟨go, out⟩, hround, rfl⟩ := Option.map_eq_some_iff.1 h
    exact ⟨‹_ ∧ _›.1, ‹_ ∧ _›.2, go, out, hround, rfl⟩
  · cases h

/-- The camera's bytes arrive, and everything is sent at once. -/
def pieceRound (bs : List UInt8) (size : ℕ) : Round where
  selectRead := 1
  localReadable := true
  remoteReadable := false
  selectWrite := 1
  remoteWritable := true
  recvline := Frame.filled (maxLine + 1) 0 (by decide)
  recvLocal := .data bs
  sends := [.sent size]
  recvRemote := .wouldBlock

/-- A camera with the given audio. -/
def sampleCamera (body : List UInt8) : Response where
  head := text "HTTP/1.0 200 OK\r\n\r\n"
  body := body
  version := by decide +kernel
  blank := by decide +kernel
  nulFree := by decide +kernel

/-- A body without NULs that comes in its own piece is relayed. -/
theorem relayed_iff_sample : ∃ h s, Path (RelayStep (sampleCamera [1, 2, 3])) relayStart h s ∧
    (∀ m ∈ h, Relayed (sampleCamera [1, 2, 3]) m.post) ∧
    s.received = (sampleCamera [1, 2, 3]).stream := by
  obtain ⟨h, s, hp, hsend, hclean, hall⟩ : ∃ h s,
      Path (RelayStep (sampleCamera [1, 2, 3])) relayStart h s ∧
        (∀ m ∈ h, .error ∉ m.label.sends) ∧ (∀ m ∈ h, Clean (sampleCamera [1, 2, 3]) m) ∧
        s.received = (sampleCamera [1, 2, 3]).stream :=
    exists_replay (fun _ _ _ => relayStep_eq)
      [pieceRound (sampleCamera []).head 118, pieceRound [1, 2, 3] 3]
      (fun r => (∀ m ∈ r.1, .error ∉ m.label.sends) ∧
        (∀ m ∈ r.1, Clean (sampleCamera [1, 2, 3]) m) ∧
        r.2.received = (sampleCamera [1, 2, 3]).stream) (by decide +kernel)
  exact ⟨h, s, hp, (relayed_iff hp hsend).2 hclean, hall⟩

/-- A NUL in the body ends the text: the two bytes from it on are lost. -/
theorem relay_drops_nul : ∃ h s, Path (RelayStep (sampleCamera [1, 0, 2])) relayStart h s ∧
    (∀ m ∈ h, .error ∉ m.label.sends) ∧ s.received = (sampleCamera [1, 0, 2]).stream ∧
    s.sent = headline.bytes ++ [1] ∧ ¬ (∀ m ∈ h, Relayed (sampleCamera [1, 0, 2]) m.post) :=
  exists_replay (fun _ _ _ => relayStep_eq)
    [pieceRound (sampleCamera []).head 118, pieceRound [1, 0, 2] 1]
    (fun r => (∀ m ∈ r.1, .error ∉ m.label.sends) ∧
      r.2.received = (sampleCamera [1, 0, 2]).stream ∧ r.2.sent = headline.bytes ++ [1] ∧
      ¬ ∀ m ∈ r.1, Relayed (sampleCamera [1, 0, 2]) m.post) (by decide +kernel)

end HttpRelay.Client
