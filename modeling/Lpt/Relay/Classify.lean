import Lpt.Base.Cuts
import Lpt.Relay.Server

/-!
# How a client is classified

`get_client_type` looks at its buffer after every result of `sys_recv_packet` but -1.  The
buffer holds what has been received, and behind it what was on the stack before; nothing
ends the text.  So the beginning of a request line, or nothing at all, is taken for the
whole line if the stack happens to go on with the rest of it.

* `Classified` — a client is classified by what it sent.
* `Completes` — the stack completes what was received to a line.
* `classified_iff` — the contents of the stack with which a client is classified rightly.
-/

namespace HttpRelay

open CLib

namespace Server

/-! ## The law -/

/-- **A client is classified by what it sent.** -/
structure Classified (recvline : Frame (maxLine + 1)) (r : Recv) : Prop where
  post : getClientType recvline r = .post ↔ postLine <+: r.bytes
  get : getClientType recvline r = .get ↔ getLine <+: r.bytes
  unknown : getClientType recvline r = .unknown ↔
    ¬ postLine <+: r.bytes ∧ ¬ getLine <+: r.bytes

/-- What was received is a proper beginning of the line, and the old contents of the array
go on with the rest of it. -/
def Completes (recvline : Frame (maxLine + 1)) (bs line : List UInt8) : Prop :=
  ∃ rest, rest ≠ [] ∧ line = bs ++ rest ∧ rest <+: recvline.mem.drop bs.length

/-! ## Beginnings -/

section Beginnings

variable {α : Type} {l a b : List α}

/-- A list begins a sequence if it begins the first part, or goes on into the second. -/
theorem isPrefix_append_iff :
    l <+: a ++ b ↔ l <+: a ∨ ∃ rest, rest ≠ [] ∧ l = a ++ rest ∧ rest <+: b := by
  constructor
  · intro h
    rcases List.prefix_or_prefix_of_prefix h (List.prefix_append a b) with hl | ⟨rest, rfl⟩
    · exact Or.inl hl
    · by_cases hrest : rest = []
      · left
        rw [hrest, List.append_nil]
      · exact Or.inr ⟨rest, hrest, rfl, (List.prefix_append_right_inj a).1 h⟩
  · rintro (h | ⟨rest, -, rfl, hrest⟩)
    · exact h.trans (List.prefix_append a b)
    · exact (List.prefix_append_right_inj a).2 hrest

/-- No text begins with both lines. -/
theorem not_postLine_and_getLine {m : List UInt8} (hp : postLine <+: m) (hg : getLine <+: m) :
    False := by
  obtain ⟨w, rfl⟩ := hp
  obtain ⟨w', hw'⟩ := hg
  have hhead := congrArg List.head? hw'
  simp [getLine, postLine, text] at hhead

end Beginnings

/-! ## The classification -/

section Classification

variable (recvline : Frame (maxLine + 1)) (r : Recv)

/-- `_get_client_type`, of any memory. -/
theorem clientType_eq (m : List UInt8) : (clientType m = .post ↔ postLine <+: m) ∧
    (clientType m = .get ↔ getLine <+: m) := by
  have hpost : startsWith m 0 postLine = true ↔ postLine <+: m := startsWith_iff (by decide)
  have hget : startsWith m 0 getLine = true ↔ getLine <+: m := startsWith_iff (by decide)
  unfold clientType
  simp only [hpost, hget]
  by_cases hp : postLine <+: m
  · have hg : ¬ getLine <+: m := not_postLine_and_getLine hp
    simp [hp, hg]
  · by_cases hg : getLine <+: m
    · simp [hp, hg]
    · simp [hp, hg]

/-- After any result but an error, the buffer with its old contents is looked at. -/
theorem getClientType_eq (hr : r ≠ .error) :
    getClientType recvline r = clientType (r.bytes ++ recvline.mem.drop r.bytes.length) := by
  unfold getClientType
  cases r with
  | data bs =>
    have hret : ¬ (bs.length : ℤ) = -1 := by omega
    simp [sysRecvPacket, hret, recvline.stored_eq]
  | wouldBlock => rfl
  | error => exact absurd rfl hr
  | closed => rfl

/-- The law says that the client is classified as what it sent would be. -/
theorem classified_iff_of_eq {m : List UInt8} (h : getClientType recvline r = clientType m) :
    Classified recvline r ↔
      (postLine <+: m ↔ postLine <+: r.bytes) ∧ (getLine <+: m ↔ getLine <+: r.bytes) := by
  obtain ⟨hpost, hget⟩ := clientType_eq m
  rw [← h] at hpost hget
  constructor
  · intro hc
    exact ⟨hpost.symm.trans hc.post, hget.symm.trans hc.get⟩
  · rintro ⟨hp, hg⟩
    refine ⟨hpost.trans hp, hget.trans hg, ?_⟩
    rw [← hp, ← hg, ← hpost, ← hget]
    cases getClientType recvline r with
    | unknown => simp
    | post => simp
    | get => simp

/-- **A client is classified by what it sent** exactly if `recv` has failed, or the old
contents of the array complete what it sent to neither of the two lines. -/
theorem classified_iff : Classified recvline r ↔
    r = .error ∨ ∀ line ∈ [postLine, getLine], ¬ Completes recvline r.bytes line := by
  by_cases hr : r = .error
  · have hnil : getClientType recvline r = clientType [] := by
      rw [hr, show clientType [] = .unknown by decide]
      rfl
    have hbytes : r.bytes = [] := by
      rw [hr]
      rfl
    rw [classified_iff_of_eq recvline r hnil, hbytes]
    simp [hr]
  · rw [classified_iff_of_eq recvline r (getClientType_eq recvline r hr), isPrefix_append_iff,
      isPrefix_append_iff]
    -- a line that was completed was not sent
    have hproper : ∀ line, (Completes recvline r.bytes line → line <+: r.bytes) ↔
        ¬ Completes recvline r.bytes line := by
      intro line
      refine imp_congr_right ?_
      rintro ⟨rest, hrest, rfl, -⟩
      rw [iff_false]
      intro hpre
      have hlen := hpre.length_le
      have hpos := List.length_pos_iff.2 hrest
      rw [List.length_append] at hlen
      omega
    rw [or_iff_left_iff_imp, or_iff_left_iff_imp, List.forall_mem_cons, List.forall_mem_singleton]
    exact (and_congr (hproper postLine) (hproper getLine)).trans (or_iff_right hr).symm

/-- The stack still holds the request of an earlier client. -/
def staleFrame : Frame (maxLine + 1) where
  mem := getLine ++ List.replicate (maxLine + 1) 0
  le_length := by
    rw [List.length_append, List.length_replicate]
    omega
  length_lt := by
    rw [List.length_append, List.length_replicate]
    decide

/-- A client that closes the connection without sending anything is taken for a `GET`
request. -/
theorem silent_client_classified : getClientType staleFrame .closed = .get ∧
    ¬ Classified staleFrame .closed := by
  have hget : getClientType staleFrame .closed = .get := by
    rw [getClientType_eq _ _ (by simp)]
    exact (clientType_eq _).2.2 (List.prefix_append _ _)
  refine ⟨hget, ?_⟩
  intro hc
  exact absurd (hc.get.1 hget) (by decide)

end Classification

end Server

end HttpRelay
