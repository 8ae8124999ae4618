import Lpt.Base.Loops
import Lpt.Relay.Server

/-!
# When a worker of the relay server stops

`sys_recv_packet` and `sys_send_packet` report a dead connection by a negative result.  The
functions that call them, `handle_post_read` and `handle_get_write`, return 0 for all of
them, and 0 is what the loops of `http_process_post` and `http_process_get` go on with.

The writing of `recvline[ret]` for a negative `ret` is before the array.  Here the array is
looked at where it lies on the stack: the byte written belongs to no other variable.

* `Slot` — the array on the stack, and `handlePostRead` in it.
* `PostStep`, `GetStep` — the runs of the two workers.
* `Stops` — a worker stops when its peer is gone.
* `worker_stops_iff` — the runs in which it does.
-/

namespace HttpRelay

open CLib Trans

namespace Server

/-! ## The upload, on the stack -/

/-- The array of `handle_post_read` where it lies: the bytes below it, of which the function
uses none, and the array. -/
structure Slot where
  below : List UInt8
  recvline : Frame (maxLine + 1)
  /-- `recvline[-1]` and `recvline[-2]` are among them. -/
  two_le : 2 ≤ below.length

namespace Slot

/-- The memory after `recvline[ret] = '\0'`. -/
def ended (p : Slot) (mem : List UInt8) (ret : ℤ) : List UInt8 :=
  store (p.below ++ mem) (p.below.length + ret).toNat [0]

/-- `handle_post_read`: its result, and what is appended to the file. -/
def handlePostRead (p : Slot) (r : Recv) : ℤ × List UInt8 :=
  let (ret, mem) := sysRecvPacket p.recvline r
  (0, (CStr.read ((p.ended mem ret).drop p.below.length)).bytes)

end Slot

/-- What an iteration of the loop of `http_process_post` is given. -/
structure UploadRound where
  /-- The result of `select`. -/
  select : ℤ
  readable : Bool
  /-- For `handle_post_read`. -/
  slot : Slot
  recv : Recv

/-- `handle_post_read` is called. -/
def UploadRound.Reads (c : UploadRound) : Prop := 0 ≤ c.select ∧ c.readable = true

instance (c : UploadRound) : Decidable c.Reads := inferInstanceAs (Decidable (_ ∧ _))

/-- What a worker holds. -/
structure Held (F : Type) where
  file : F
  fileClosed : Bool
  socketClosed : Bool

/-- `fclose(file)` behind the loop, and `close(*fd)` at the end of `thread_client_worker`. -/
def Held.giveBack {F : Type} (s : Held F) : Held F := ⟨s.file, true, true⟩

/-- The loop body of `http_process_post`; the file is what has been appended to it.  `ret`
is first the result of `select`. -/
def postBody (s : Held (List UInt8)) (c : UploadRound) : Option (Bool × Held (List UInt8)) :=
  if c.select < 0 then some (false, s)
  else
    let (ret, out) :=
      if c.readable = true then c.slot.handlePostRead c.recv else (c.select, [])
    some (ret ≠ -1, { s with file := s.file ++ out })

/-- `handle_get_write`: its result, and the file afterwards. -/
def GetRound.handleGetWrite (c : GetRound) (f : AudioFile) : Option (ℤ × AudioFile) :=
  match Server.handleGetWrite c.sendline f with
  | (none, f') => some (0, f')
  | (some buf, f') => (sysSendPacket buf c.sends).map fun _ => (0, f')

/-- What an iteration of the loop of `http_process_get` is given, with what other workers have
appended to the file since the one before. -/
structure DownloadRound extends GetRound where
  appended : List UInt8

/-- The file with more at its end. -/
def AudioFile.grown (f : AudioFile) (bs : List UInt8) : AudioFile :=
  ⟨f.content ++ bs, f.pos, f.eof⟩

/-- The loop body of `http_process_get`. -/
def getBody (s : Held AudioFile) (c : DownloadRound) : Option (Bool × Held AudioFile) :=
  let file := s.file.grown c.appended
  if c.select < 0 then some (false, { s with file := file })
  else
    (if c.writable = true then c.handleGetWrite file else some (c.select, file)).map fun r =>
      (r.1 ≠ -1, { s with file := r.2 })

/-- One iteration of the worker of an upload. -/
abbrev PostStep : Loop (Held (List UInt8)) → UploadRound → Loop (Held (List UInt8)) → Prop :=
  LoopStep postBody Held.giveBack

/-- One iteration of the worker of a download. -/
abbrev GetStep : Loop (Held AudioFile) → DownloadRound → Loop (Held AudioFile) → Prop :=
  LoopStep getBody Held.giveBack

/-- A worker before its loop. -/
def workerStart {F : Type} (file : F) : Loop (Held F) := .inside ⟨file, false, false⟩

/-! ## The law -/

/-- `sys_recv_packet` reports in this iteration that the peer has gone, or an error. -/
def PostReports (m : Move (Loop (Held (List UInt8))) UploadRound) : Prop :=
  m.label.Reads ∧ ((sysRecvPacket m.label.slot.recvline m.label.recv).1 = -1 ∨
    (sysRecvPacket m.label.slot.recvline m.label.recv).1 = -2)

/-- `sys_send_packet` reports an error in this iteration. -/
def GetReports (m : Move (Loop (Held AudioFile)) DownloadRound) : Prop :=
  m.label.Writes ∧ ∃ buf wire,
    (handleGetWrite m.label.sendline (m.pre.state.file.grown m.label.appended)).1 = some buf ∧
      sysSendPacket buf m.label.sends = some (-1, wire)

/-- **A worker stops when its peer is gone**: the iteration in which that is reported is the
last, and the file and the socket have been closed after it. -/
def Stops {F I : Type} (Reports : Move (Loop (Held F)) I → Prop)
    (h : List (Move (Loop (Held F)) I)) : Prop :=
  ∀ later m earlier, h = later ++ m :: earlier → Reports m →
    later = [] ∧ m.post.state.fileClosed = true ∧ m.post.state.socketClosed = true

/-- The iteration meets a connection that works: `recv` neither fails nor reports the end. -/
def UploadRound.Alive (c : UploadRound) : Prop :=
  c.Reads → c.recv ≠ .error ∧ c.recv ≠ .closed

/-- The iteration meets a connection that works: no `send` fails on the way. -/
def Alive (m : Move (Loop (Held AudioFile)) DownloadRound) : Prop :=
  m.label.Writes → ∀ buf,
    (handleGetWrite m.label.sendline (m.pre.state.file.grown m.label.appended)).1 = some buf →
      ∀ wire, sendLoop buf m.label.sends ≠ some (wire, true)

instance (c : UploadRound) : Decidable c.Alive := inferInstanceAs (Decidable (_ → _ ∧ _))

/-! ## One iteration -/

section Step

variable {s s' : Held (List UInt8)} {f f' : Held AudioFile} {c : UploadRound}
  {d : DownloadRound} {go : Bool}

/-- What is stored in the array itself is found there. -/
theorem Slot.ended_of_nonneg (p : Slot) (mem : List UInt8) (k : ℕ) :
    (p.ended mem k).drop p.below.length = store mem k [0] := by
  have hpos : ((p.below.length : ℤ) + k).toNat = p.below.length + k := by omega
  unfold Slot.ended
  rw [hpos, store_append_right, List.drop_left]

/-- On the stack `handle_post_read` does what it does by itself, wherever that is defined. -/
theorem Slot.handlePostRead_eq (p : Slot) {r : Recv} {out : List UInt8}
    (h : Server.handlePostRead p.recvline r = some out) : p.handlePostRead r = (0, out) := by
  unfold Server.handlePostRead at h
  unfold Slot.handlePostRead
  dsimp only at h ⊢
  by_cases hneg : (sysRecvPacket p.recvline r).1 < 0
  · rw [if_pos hneg] at h
    cases h
  · rw [if_neg hneg] at h
    cases h
    obtain ⟨k, hk⟩ := Int.eq_ofNat_of_zero_le (not_lt.1 hneg)
    rw [hk, p.ended_of_nonneg]
    rfl

/-- The body of the upload is the iteration of `http_process_post`, wherever that is defined. -/
theorem postBody_eq {out : List UInt8}
    (h : httpProcessPost ⟨c.select, c.readable, c.slot.recvline, c.recv⟩ = some (go, out)) :
    postBody s c = some (go, { s with file := s.file ++ out }) := by
  unfold httpProcessPost at h
  unfold postBody
  dsimp only at h
  by_cases hsel : c.select < 0
  · rw [if_pos hsel] at h ⊢
    cases h
    rw [List.append_nil]
  rw [if_neg hsel] at h ⊢
  by_cases hread : c.readable = true
  · rw [if_pos hread] at h ⊢
    obtain ⟨out', hcall, heq⟩ := Option.map_eq_some_iff.1 h
    cases heq
    rw [c.slot.handlePostRead_eq hcall]
    rfl
  · rw [if_neg hread] at h ⊢
    cases h
    have hne : c.select ≠ -1 := by omega
    simp [hne]

/-- The body of the download is the iteration of `http_process_get`. -/
theorem getBody_eq (f : Held AudioFile) (d : DownloadRound) :
    getBody f d = (httpProcessGet d.toGetRound (f.file.grown d.appended)).map fun r =>
      (r.1, { f with file := r.2.2 }) := by
  unfold getBody httpProcessGet
  dsimp only
  by_cases hsel : d.select < 0
  · rw [if_pos hsel, if_pos hsel]
    rfl
  rw [if_neg hsel, if_neg hsel]
  by_cases hw : d.writable = true
  · rw [if_pos hw, if_pos hw]
    unfold GetRound.handleGetWrite
    rcases Server.handleGetWrite d.sendline (f.file.grown d.appended) with ⟨_ | buf, f'⟩
    · rfl
    · dsimp only
      rw [Option.map_map, Option.map_map]
      rfl
  · rw [if_neg hw, if_neg hw]
    have hne : d.select ≠ -1 := by omega
    simp [hne]

/-- **An iteration that reads goes on**, whatever `recv` has given. -/
theorem postBody_reads (h : postBody s c = some (go, s')) (hc : c.Reads) : go = true := by
  unfold postBody at h
  rw [if_neg (not_lt.2 hc.1), if_pos hc.2] at h
  cases h
  rfl

/-- **An iteration that writes goes on**, whatever `send` has given. -/
theorem getBody_writes (h : getBody f d = some (go, f')) (hd : d.Writes) : go = true := by
  unfold getBody at h
  dsimp only at h
  rw [if_neg (not_lt.2 hd.1), if_pos hd.2] at h
  obtain ⟨⟨ret, file⟩, hcall, heq⟩ := Option.map_eq_some_iff.1 h
  have hret : ret = 0 := by
    unfold GetRound.handleGetWrite at hcall
    split at hcall
    · cases hcall
      rfl
    · obtain ⟨_, -, heq⟩ := Option.map_eq_some_iff.1 hcall
      cases heq
      rfl
  cases heq
  rw [hret]
  rfl

/-- No body closes anything. -/
theorem postBody_open (h : postBody s c = some (go, s')) :
    s'.fileClosed = s.fileClosed ∧ s'.socketClosed = s.socketClosed := by
  unfold postBody at h
  split at h
  · cases h
    exact ⟨rfl, rfl⟩
  · cases h
    exact ⟨rfl, rfl⟩

theorem getBody_open (h : getBody f d = some (go, f')) :
    f'.fileClosed = f.fileClosed ∧ f'.socketClosed = f.socketClosed := by
  unfold getBody at h
  dsimp only at h
  split at h
  · cases h
    exact ⟨rfl, rfl⟩
  · obtain ⟨_, -, heq⟩ := Option.map_eq_some_iff.1 h
    cases heq
    exact ⟨rfl, rfl⟩

/-- What `sys_recv_packet` reports is what `recv` has given. -/
theorem sysRecvPacket_reports (recvline : Frame (maxLine + 1)) (r : Recv) :
    ((sysRecvPacket recvline r).1 = -1 ∨ (sysRecvPacket recvline r).1 = -2) ↔
      r = .error ∨ r = .closed := by
  cases r with
  | data bs => simp [sysRecvPacket]
  | wouldBlock => simp [sysRecvPacket]
  | error => simp [sysRecvPacket]
  | closed => simp [sysRecvPacket]

/-- And what `sys_send_packet` reports is what `send` has given. -/
theorem sysSendPacket_reports (buf wire : List UInt8) (es : List SendEv) :
    sysSendPacket buf es = some (-1, wire) ↔ sendLoop buf es = some (wire, true) :=
  sendLoop_fails (by omega) buf wire es

end Step

/-! ## Runs -/

section Runs

variable {F I : Type} {body : Held F → I → Option (Bool × Held F)}
  {Reports : Move (Loop (Held F)) I → Prop} {file : F} {s : Loop (Held F)}
  {h : List (Move (Loop (Held F)) I)}

/-- A worker whose body closes nothing, and goes on after every report, stops at every report
exactly if there is none. -/
theorem stops_iff_never (hopen : ∀ {t i go t'}, body t i = some (go, t') →
      t'.fileClosed = t.fileClosed ∧ t'.socketClosed = t.socketClosed)
    (hgoes : ∀ {m go t'}, Reports m → body m.pre.state m.label = some (go, t') → go = true)
    (hp : Path (LoopStep body Held.giveBack) (workerStart file) h s) :
    Stops Reports h ↔ ∀ m ∈ h, ¬ Reports m := by
  have hstops : Stops Reports h ↔ ∀ m ∈ h, Reports m → m.post.Left := by
    refine stops_iff Reports (fun t => t.fileClosed = true ∧ t.socketClosed = true)
      (fun later => later = []) rfl ?_ ?_ ?_ hp
    · exact fun t => ⟨rfl, rfl⟩
    · intro t i go t' hb hnot
      rwa [(hopen hb).1, (hopen hb).2]
    · intro hclosed
      cases hclosed.1
  refine hstops.trans (forall₂_congr fun m hm => imp_congr_right fun hreport => ?_)
  obtain ⟨t, go, t', hpre, hb, hpost⟩ := (hp.mem_step hm).1.cases
  have hround : body m.pre.state m.label = some (go, t') := by
    rw [hpre]
    exact hb
  rw [hpost, hgoes hreport hround, if_pos rfl]
  exact iff_of_false (Loop.left_inside t') fun hno => hno

/-- **The worker of an upload** stops when its peer is gone exactly if the peer is never
found gone. -/
theorem postStops_iff {file : List UInt8} {s : Loop (Held (List UInt8))}
    {h : List (Move (Loop (Held (List UInt8))) UploadRound)}
    (hp : Path PostStep (workerStart file) h s) :
    Stops PostReports h ↔ ∀ m ∈ h, m.label.Alive := by
  rw [stops_iff_never postBody_open (fun hreport hb => postBody_reads hb hreport.1) hp]
  refine forall₂_congr fun m _ => ?_
  unfold PostReports UploadRound.Alive
  rw [sysRecvPacket_reports, not_and, not_or]

/-- **The worker of a download**, the same. -/
theorem getStops_iff {file : AudioFile} {s : Loop (Held AudioFile)}
    {h : List (Move (Loop (Held AudioFile)) DownloadRound)}
    (hp : Path GetStep (workerStart file) h s) : Stops GetReports h ↔ ∀ m ∈ h, Alive m := by
  rw [stops_iff_never getBody_open (fun hreport hb => getBody_writes hb hreport.1) hp]
  refine forall₂_congr fun m _ => ?_
  unfold GetReports Alive
  simp only [sysSendPacket_reports, not_and, not_exists, ne_eq]
  exact imp_congr_right fun _ => forall_congr' fun buf => forall_comm

/-- **A worker stops when its peer is gone** exactly in the runs in which no `recv` and no
`send` ever finds it gone, whether it is the worker of an upload or that of a download: no
report makes a worker leave its loop. -/
theorem worker_stops_iff {posted : List UInt8} {s : Loop (Held (List UInt8))}
    {h : List (Move (Loop (Held (List UInt8))) UploadRound)} {audio : AudioFile}
    {s' : Loop (Held AudioFile)} {h' : List (Move (Loop (Held AudioFile)) DownloadRound)}
    (hp : Path PostStep (workerStart posted) h s) (hg : Path GetStep (workerStart audio) h' s') :
    (Stops PostReports h ↔ ∀ m ∈ h, m.label.Alive) ∧
      (Stops GetReports h' ↔ ∀ m ∈ h', Alive m) :=
  ⟨postStops_iff hp, getStops_iff hg⟩

/-- An array that is filled with NULs, and two bytes below it. -/
def sampleSlot : Slot := ⟨[7, 7], .filled _ 0 maxLine_succ_lt, le_rfl⟩

/-- An iteration in which `recv` gives `r`. -/
def uploadRound (r : Recv) : UploadRound := ⟨1, true, sampleSlot, r⟩

/-- An iteration in which `send` gives `e`. -/
def downloadRound (e : SendEv) : DownloadRound :=
  ⟨⟨1, true, .filled _ 0 maxLine_succ_lt, [e]⟩, []⟩

/-- Two runs to which the law applies: a byte is received, and a byte is sent. -/
theorem worker_stops_iff_alive : ∃ h s h' s', Path PostStep (workerStart []) h s ∧
    Path GetStep (workerStart ⟨[65], 0, false⟩) h' s' ∧ h.length = 1 ∧ h'.length = 1 ∧
    Stops PostReports h ∧ Stops GetReports h' := by
  have hpost : postBody ⟨[], false, false⟩ (uploadRound (.data [65])) = some (true, _) := rfl
  have hsome : (getBody ⟨⟨[65], 0, false⟩, false, false⟩ (downloadRound (.sent 1))).isSome := by
    decide +kernel
  obtain ⟨⟨go, f⟩, hget⟩ := Option.isSome_iff_exists.1 hsome
  obtain rfl := getBody_writes hget (by decide)
  have hp : Path PostStep (workerStart []) _ _ := .snoc .start (.goesOn hpost)
  have hg : Path GetStep (workerStart ⟨[65], 0, false⟩) _ _ := .snoc .start (.goesOn hget)
  obtain ⟨hposted, hsent⟩ := worker_stops_iff hp hg
  refine ⟨_, _, _, _, hp, hg, rfl, rfl, hposted.2 ?_, hsent.2 ?_⟩
  · rw [List.forall_mem_singleton]
    exact fun _ => ⟨nofun, nofun⟩
  · rw [List.forall_mem_singleton]
    intro _ buf _ wire hloop
    cases (sendLoop_eq hloop (by simp [downloadRound])).2

/-- The peer closes the connection during an upload, and cannot be sent to during a download;
both workers go on. -/
theorem worker_outlives_peer :
    (∃ h s, Path PostStep (workerStart []) h s ∧ ¬ Stops PostReports h) ∧
    ∃ h s, Path GetStep (workerStart ⟨[65], 0, false⟩) h s ∧ ¬ Stops GetReports h := by
  constructor
  · have hbody : postBody ⟨[], false, false⟩ (uploadRound .closed) = some (true, _) := rfl
    refine ⟨_, _, .snoc .start (.goesOn hbody), ?_⟩
    intro hstops
    obtain ⟨-, hclosed, -⟩ := hstops [] _ [] rfl ⟨⟨by decide, rfl⟩, Or.inr rfl⟩
    cases hclosed
  · have hbody : getBody ⟨⟨[65], 0, false⟩, false, false⟩ (downloadRound .error) =
        some (true, _) := rfl
    refine ⟨_, _, .snoc .start (.goesOn hbody), ?_⟩
    intro hstops
    obtain ⟨-, hclosed, -⟩ := hstops [] _ [] rfl ⟨⟨by decide, rfl⟩, _, [], rfl, rfl⟩
    cases hclosed

end Runs

end Server

end HttpRelay
