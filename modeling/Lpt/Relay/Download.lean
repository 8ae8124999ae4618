import Lpt.Base.Transition
import Lpt.Relay.Server

/-!
# Does a download serve the file?

`http_process_get` sends `/tmp/audio` piece by piece while an uploader appends to it.  A
piece is sent as a text, though it has been read as bytes, and the end-of-file mark is
looked at and never cleared: a download that has once reached the end sends no more.

* `DownloadStep` — an uploader appends, or the loop of `http_process_get` goes round.
* `Served` — what is to hold of a step.
* `CleanWrite` — a call that does what it should.
* `served_of_clean` — the law holds in all steps of a run whose calls are clean.
-/

namespace HttpRelay.Server

open CLib Trans

/-! ## Runs -/

/-- The open file, and what `handle_get_write` has passed to `sys_send_packet`. -/
structure Download where
  file : AudioFile
  sent : List UInt8
  /-- The loop of `http_process_get` goes on. -/
  running : Bool

/-- What happens next. -/
inductive DownloadAct where
  /-- An uploader appends to the file. -/
  | append (bs : List UInt8)
  /-- One iteration of the loop. -/
  | round (c : GetRound)

/-- One step. -/
def downloadStep (s : Download) : DownloadAct → Option Download
  | .append bs => some ⟨{ s.file with content := s.file.content ++ bs }, s.sent, s.running⟩
  | .round c =>
      if s.running = true then
        (httpProcessGet c s.file).map fun r => ⟨r.2.2, s.sent ++ r.2.1, r.1⟩
      else none

/-- One step. -/
def DownloadStep (s : Download) (a : DownloadAct) (s' : Download) : Prop :=
  downloadStep s a = some s'

theorem downloadStep_eq {s s' : Download} {a : DownloadAct} (h : downloadStep s a = some s') :
    DownloadStep s a s' := h

/-- The file has been opened. -/
def downloadStart (content : List UInt8) : Download := ⟨⟨content, 0, false⟩, [], true⟩

/-- The step is a call of `handle_get_write`. -/
def DownloadAct.Calls : DownloadAct → Prop
  | .append _ => False
  | .round c => c.Writes

instance : (a : DownloadAct) → Decidable a.Calls
  | .append _ => .isFalse not_false
  | .round c => inferInstanceAs (Decidable c.Writes)

/-! ## The law -/

/-- **The file is served**: what has been sent is the beginning of the file, and a call that
finds bytes that have not been sent sends at least one. -/
def Served (m : Move Download DownloadAct) : Prop :=
  m.post.sent <+: m.post.file.content ∧
    (m.label.Calls → m.pre.sent.length < m.pre.file.content.length →
      m.pre.sent.length < m.post.sent.length)

instance (m : Move Download DownloadAct) : Decidable (Served m) :=
  inferInstanceAs (Decidable (_ ∧ _))

/-- A call of `handle_get_write` does what it should.  If the end of the file has been met,
nothing has been appended since.  Otherwise what has been read before holds no NUL, what is
read now does not begin with one, and if there is none in it, one follows it on the
stack. -/
def CleanCall (s : Download) (sendline : Frame (maxLine + 1)) : Prop :=
  if s.file.eof = true then s.sent.length = s.file.content.length
  else
    0 ∉ s.file.content.take s.file.pos ∧
      (s.file.fread pktSize).1.head? ≠ some 0 ∧
      (0 ∉ (s.file.fread pktSize).1 → sendline.EndsAt (s.file.fread pktSize).1.length)

instance (s : Download) (sendline : Frame (maxLine + 1)) : Decidable (CleanCall s sendline) :=
  inferInstanceAs (Decidable (ite _ _ _))

/-- The step, if it is a call, does what it should. -/
def CleanWrite (m : Move Download DownloadAct) : Prop :=
  match m.label with
  | .append _ => True
  | .round c => c.Writes → CleanCall m.pre c.sendline

instance (m : Move Download DownloadAct) : Decidable (CleanWrite m) :=
  match h : m.label with
  | .append _ => .isTrue (by rw [CleanWrite, h]; trivial)
  | .round c => decidable_of_iff (c.Writes → CleanCall m.pre c.sendline) (by rw [CleanWrite, h])

/-! ## One step -/

section Step

variable {s s' : Download} {a : DownloadAct} {c : GetRound} {f f' : AudioFile}
  {out : List UInt8} {go : Bool} {h : List (Move Download DownloadAct)}

/-- What is true of a run whose calls are clean: what has been sent is the beginning of the
file, and all that has been read, if there is no NUL in it. -/
structure Serving (s : Download) : Prop where
  sent_prefix : s.sent <+: s.file.content
  pos_le : s.file.pos ≤ s.file.content.length
  sent_eq : 0 ∉ s.file.content.take s.file.pos → s.sent = s.file.content.take s.file.pos

/-- What `handle_get_write` sends of a piece. -/
theorem sent_of_piece {sendline : Frame (maxLine + 1)} {bs : List UInt8} (hne : bs ≠ [])
    (hhead : bs.head? ≠ some 0) (hends : 0 ∉ bs → sendline.EndsAt bs.length) :
    (CStr.read (sendline.stored bs)).bytes <+: bs ∧
      (CStr.read (sendline.stored bs)).bytes ≠ [] ∧
      (0 ∉ bs → (CStr.read (sendline.stored bs)).bytes = bs) := by
  rw [sendline.stored_eq]
  by_cases h0 : 0 ∈ bs
  · refine ⟨?_, ?_, fun hn => absurd h0 hn⟩
    · rw [read_append_of_mem h0]
      exact List.takeWhile_prefix _
    · obtain ⟨b, rest, rfl⟩ := List.exists_cons_of_ne_nil hne
      have hb : b ≠ 0 := fun hb => hhead (by rw [hb]; rfl)
      show ((b :: rest) ++ _).takeWhile (· != 0) ≠ []
      rw [List.cons_append, List.takeWhile_cons_of_pos (by simpa using hb)]
      exact List.cons_ne_nil _ _
  · have hall := read_append_eq_iff.2 ⟨h0, hends h0⟩
    rw [hall]
    exact ⟨List.prefix_refl _, hne, fun _ => rfl⟩

/-- What `fread` does to the file. -/
theorem fread_spec (f : AudioFile) (n : ℕ) (hpos : f.pos ≤ f.content.length) :
    (f.fread n).2.content = f.content ∧ (f.fread n).2.pos ≤ f.content.length ∧
      f.content.take (f.fread n).2.pos = f.content.take f.pos ++ (f.fread n).1 := by
  have hlen : (f.fread n).1.length = min n (f.content.length - f.pos) := by
    unfold AudioFile.fread
    rw [List.length_take, List.length_drop]
  have hp : (f.fread n).2.pos = f.pos + (f.fread n).1.length := rfl
  refine ⟨rfl, by omega, ?_⟩
  rw [hp, List.take_add]
  exact congrArg _ (List.prefix_iff_eq_take.1 (List.take_prefix n (f.content.drop f.pos))).symm

/-- **One call** before the end of the file has been met. -/
theorem Serving.call {sendline : Frame (maxLine + 1)} (hi : Serving s)
    (heof : s.file.eof = false) (hc : CleanCall s sendline) :
    Serving ⟨(s.file.fread pktSize).2,
        s.sent ++ (CStr.read (sendline.stored (s.file.fread pktSize).1)).bytes, true⟩ ∧
      (s.sent.length < s.file.content.length →
        (CStr.read (sendline.stored (s.file.fread pktSize).1)).bytes ≠ []) := by
  unfold CleanCall at hc
  rw [heof, if_neg Bool.false_ne_true] at hc
  obtain ⟨hbefore, hhead, hends⟩ := hc
  obtain ⟨hcontent, hpos, htake⟩ := fread_spec s.file pktSize hi.pos_le
  have hsent := hi.sent_eq hbefore
  by_cases hnil : (s.file.fread pktSize).1 = []
  · -- there is nothing to read, and everything has been sent
    have hread : (CStr.read (sendline.stored (s.file.fread pktSize).1)).bytes = [] := by
      rw [sendline.stored_eq, hnil, List.nil_append]
      have hend := hends (by rw [hnil]; exact List.not_mem_nil)
      rwa [hnil] at hend
    have hend : s.file.content.length ≤ s.file.pos := by
      have hlen := congrArg List.length hnil
      unfold AudioFile.fread at hlen
      rw [List.length_take, List.length_drop, List.length_nil] at hlen
      have hsize : pktSize = 456 := rfl
      omega
    rw [hread, List.append_nil]
    refine ⟨⟨hcontent ▸ hi.sent_prefix, hcontent ▸ hpos, fun _ => ?_⟩, fun hlt => ?_⟩
    · rw [hcontent, htake, hnil, List.append_nil]
      exact hsent
    · rw [hsent, List.take_of_length_le hend] at hlt
      exact absurd hlt (lt_irrefl _)
  · obtain ⟨hbegin, hne, hall⟩ := sent_of_piece hnil hhead hends
    refine ⟨⟨?_, ?_, fun h0 => ?_⟩, fun _ => hne⟩
    · rw [hsent, hcontent]
      have htaken : s.file.content.take s.file.pos ++ (s.file.fread pktSize).1 <+:
          s.file.content := htake ▸ List.take_prefix _ _
      exact ((List.prefix_append_right_inj _).2 hbegin).trans htaken
    · rw [hcontent]
      exact hpos
    · rw [hcontent, htake] at h0 ⊢
      rw [hsent, hall fun h => h0 (List.mem_append_right _ h)]

/-- What an iteration does, if it calls `handle_get_write`. -/
theorem httpProcessGet_eq (h : httpProcessGet c f = some (go, out, f')) (hc : c.Writes) :
    if f.eof = true then out = [] ∧ f' = f
    else out = (CStr.read (c.sendline.stored (f.fread pktSize).1)).bytes ∧
      f' = (f.fread pktSize).2 := by
  unfold httpProcessGet at h
  rw [if_neg (not_lt.2 hc.1), if_pos hc.2] at h
  by_cases heof : f.eof = true
  · rw [if_pos heof]
    have hwrite : handleGetWrite c.sendline f = (none, f) := if_pos heof
    rw [hwrite] at h
    cases h
    exact ⟨rfl, rfl⟩
  · rw [if_neg heof]
    have hwrite : handleGetWrite c.sendline f =
        (some (CStr.read (c.sendline.stored (f.fread pktSize).1)).bytes, (f.fread pktSize).2) :=
      if_neg heof
    rw [hwrite] at h
    obtain ⟨_, -, heq⟩ := Option.map_eq_some_iff.1 h
    cases heq
    exact ⟨rfl, rfl⟩

/-- And if it does not. -/
theorem httpProcessGet_idle (h : httpProcessGet c f = some (go, out, f')) (hc : ¬ c.Writes) :
    out = [] ∧ f' = f := by
  unfold httpProcessGet at h
  by_cases hsel : c.select < 0
  · rw [if_pos hsel] at h
    cases h
    exact ⟨rfl, rfl⟩
  · rw [if_neg hsel, if_neg fun hw => hc ⟨not_lt.1 hsel, hw⟩] at h
    cases h
    exact ⟨rfl, rfl⟩

/-- The file is only read. -/
theorem httpProcessGet_content (h : httpProcessGet c f = some (go, out, f')) :
    f'.content = f.content := by
  by_cases hc : c.Writes
  · have heq := httpProcessGet_eq h hc
    split at heq
    · rw [heq.2]
    · rw [heq.2]
      rfl
  · rw [(httpProcessGet_idle h hc).2]

/-- The loop may stop or go on. -/
theorem Serving.of_eq (hi : Serving s) (hf : s'.file.content = s.file.content)
    (hp : s'.file.pos = s.file.pos) (hsent : s'.sent = s.sent) : Serving s' := by
  refine ⟨?_, ?_, ?_⟩
  · rw [hsent, hf]
    exact hi.sent_prefix
  · rw [hp, hf]
    exact hi.pos_le
  · rw [hp, hf, hsent]
    exact hi.sent_eq

/-- **One step.** -/
theorem DownloadStep.serves (hs : DownloadStep s a s') (hi : Serving s)
    (hc : CleanWrite ⟨s, a, s'⟩) : Serving s' ∧ Served ⟨s, a, s'⟩ := by
  cases a with
  | append bs =>
    cases hs
    have htake : (s.file.content ++ bs).take s.file.pos = s.file.content.take s.file.pos :=
      List.take_append_of_le_length hi.pos_le
    have hsent : s.sent <+: s.file.content ++ bs := hi.sent_prefix.trans (List.prefix_append _ _)
    refine ⟨⟨hsent, ?_, fun h0 => ?_⟩, hsent, False.elim⟩
    · rw [List.length_append]
      exact hi.pos_le.trans (Nat.le_add_right _ _)
    · rw [htake] at h0 ⊢
      exact hi.sent_eq h0
  | round c =>
    change (if s.running = true then (httpProcessGet c s.file).map _ else none) = some s' at hs
    by_cases hrun : s.running = true
    swap
    · rw [if_neg hrun] at hs
      cases hs
    rw [if_pos hrun] at hs
    obtain ⟨⟨go, out, f'⟩, hround, rfl⟩ := Option.map_eq_some_iff.1 hs
    by_cases hw : c.Writes
    · have hcall : CleanCall s c.sendline := hc hw
      have hround := httpProcessGet_eq hround hw
      by_cases heof : s.file.eof = true
      · rw [if_pos heof] at hround
        obtain ⟨rfl, rfl⟩ := hround
        have hnext : Serving ⟨s.file, s.sent ++ [], go⟩ := hi.of_eq rfl rfl (List.append_nil _)
        unfold CleanCall at hcall
        rw [if_pos heof] at hcall
        exact ⟨hnext, hnext.sent_prefix, fun _ hlt => absurd hlt (hcall ▸ lt_irrefl _)⟩
      · rw [if_neg heof] at hround
        obtain ⟨rfl, rfl⟩ := hround
        obtain ⟨hnext, hprogress⟩ := hi.call (by simpa using heof) hcall
        have hnext : Serving ⟨(s.file.fread pktSize).2, _, go⟩ := hnext.of_eq rfl rfl rfl
        refine ⟨hnext, hnext.sent_prefix, ?_⟩
        intro _ hlt
        have hpos := List.length_pos_iff.2 (hprogress hlt)
        show s.sent.length < (s.sent ++ (CStr.read _).bytes).length
        rw [List.length_append]
        omega
    · obtain ⟨rfl, rfl⟩ := httpProcessGet_idle hround hw
      have hnext : Serving ⟨s.file, s.sent ++ [], go⟩ := hi.of_eq rfl rfl (List.append_nil _)
      exact ⟨hnext, hnext.sent_prefix, fun hcalls => absurd hcalls hw⟩

/-- **When a download serves the file.**  If all calls of a run do what they should, the law
holds in all its steps. -/
theorem served_of_clean {content : List UInt8}
    (hp : Path DownloadStep (downloadStart content) h s) (hclean : ∀ m ∈ h, CleanWrite m) :
    ∀ m ∈ h, Served m := by
  intro m hm
  obtain ⟨hs, h', hsuf, hp'⟩ := hp.mem_step hm
  have hi : Serving m.pre := by
    refine hp'.invariant_of Serving (fun m' hm' => hclean m' ?_) ?_
      fun _ _ _ hi hc hs => (hs.serves hi hc).1
    · exact hsuf.subset (List.mem_cons_of_mem _ hm')
    · exact ⟨List.nil_prefix, Nat.zero_le _, fun _ => rfl⟩
  exact (DownloadStep.serves hs hi (hclean m hm)).2

end Step

/-! ## Two runs -/

/-- An iteration that calls `handle_get_write` with a stack of zeros. -/
def getRound (size : ℕ) : DownloadAct :=
  .round ⟨1, true, Frame.filled (maxLine + 1) 0 maxLine_succ_lt, [.sent size]⟩

/-- A file without NULs is sent once, and nothing more as long as nothing is appended. -/
theorem served_of_clean_sample : ∃ h s, Path DownloadStep (downloadStart [1, 2, 3]) h s ∧
    (∀ m ∈ h, Served m) ∧ s.sent = [1, 2, 3] := by
  obtain ⟨h, s, hp, hclean, hall⟩ : ∃ h s, Path DownloadStep (downloadStart [1, 2, 3]) h s ∧
      (∀ m ∈ h, CleanWrite m) ∧ s.sent = [1, 2, 3] :=
    exists_replay (fun _ _ _ => downloadStep_eq) [getRound 3, getRound 0]
      (fun r => (∀ m ∈ r.1, CleanWrite m) ∧ r.2.sent = [1, 2, 3]) (by decide +kernel)
  exact ⟨h, s, hp, served_of_clean hp hclean, hall⟩

/-- Of the bytes 1, 0, 2 only the first is sent, and the mark is set; what is appended then
is not sent either. -/
theorem download_stalls : ∃ h s, Path DownloadStep (downloadStart [1, 0, 2]) h s ∧
    s.file.content = [1, 0, 2, 3] ∧ s.sent = [1] ∧ ¬ (∀ m ∈ h, Served m) :=
  exists_replay (fun _ _ _ => downloadStep_eq) [getRound 1, .append [3], getRound 0]
    (fun r => r.2.file.content = [1, 0, 2, 3] ∧ r.2.sent = [1] ∧ ¬ ∀ m ∈ r.1, Served m)
    (by decide +kernel)

end HttpRelay.Server
