import Lpt.Cloud.Packet

/-!
# The requests

`cloud_do_regusr`, `cloud_do_auth`, `cloud_do_ubind`, `cloud_do_bind` and
`cloud_do_update`: the five functions render a text into a buffer with `snprintf`, hand it to
`cloud_send_packet` both as the text and as the place for the reply, and classify
the reply.  They are one program, `cloudRequest`, with the command, the text and the
classification of a reply that is not `OK` as parameters; `runs_cloudRequest` is
the one lemma about it.
-/

namespace SwCloud

open CLib Effect

variable {P : CldProtocol}

/-- The texts, each ended by a newline: `"%s\n%s\n...\n"`. -/
def lines : List CStr → CStr
  | [] => CStr.lit ""
  | s :: ss => s ++ CStr.lit "\n" ++ lines ss

/-- The message `swMD5Code` hashes: a text cut to 63 characters in a zeroed buffer of
64 bytes. -/
def md5Message (id : CStr) : List UInt8 :=
  let mid := id.drop (id.length / 2 + 1)
  let n := decimal (charVal (mid.bytes.headD 0))
  store (List.replicate 64 0) 0 ((n ++ mid.bytes ++ n ++ id.bytes ++ n).take 63)

/-- `swMD5Code`: the return value and the memory from `code` on. -/
def swMD5Code (P : CldProtocol) (id : CStr) (code : List UInt8) : ℤ × List UInt8 :=
  if id.bytes = [] then (-1, code)
  else
    let sign := P.md5 (md5Message id)
    (0, store code 0 (sign.flatMap hex2 ++ [0]))

/-- A request with the text `t`: the common body of the `cloud_do_` functions. -/
def cloudRequest (cmd : ℕ) (t : CStr) (other : List UInt8 → CommonStatus) :
    CloudM P CommonStatus := do
  -- snprintf(buf, sizeof(buf), ...)
  let data := t.take (P.cldMaxPktsize - 1)
  let (ret, buf) ← cloudSendPacket cmd data 0 (textBuf P data)
  if ret = -1 then return .cloudNetwork
  else if strncaseEq buf (text "OK") 2 then return .succeed
  else return other buf

/-- The reply to `CLDCMD_REGUSR` when it is not `OK`. -/
def regusrError (buf : List UInt8) : CommonStatus :=
  if (strstr buf 0 (text "-3")).isSome then .cloudAccountExist
  else if (strstr buf 0 (text "-4")).isSome then .cloudUsernameExist
  else .error

/-- The reply to `CLDCMD_AUTH` when it is not `OK`. -/
def authError (buf : List UInt8) : CommonStatus :=
  if (strstr buf 0 (text "-6")).isSome then .cloudNouser else .cloudAuth

/-- `cloud_do_regusr`. -/
def cloudDoRegusr (account username password : CStr) : CloudM P CommonStatus := do
  let code ← stack 36
  let tmp := (account ++ username ++ password).take (P.cldMaxPktsize - 1)
  let code := CStr.read (swMD5Code P tmp code).2
  cloudRequest P.cldcmdRegusr (lines [account, username, password, code]) regusrError

/-- The text of the AUTH packet. -/
def authText (c : Cloud P) : CStr := lines [c.account.str, c.password.str, c.devinfo.id.str]

/-- `cloud_do_auth`. -/
def cloudDoAuth : CloudM P CommonStatus := do
  let c ← getCloud
  cloudRequest P.cldcmdAuth (authText c) authError

/-- `cloud_do_ubind`. -/
def cloudDoUbind : CloudM P CommonStatus :=
  cloudRequest P.cldcmdUbindev (CStr.lit "") fun _ => .error

/-- `cloud_do_bind`. -/
def cloudDoBind : CloudM P CommonStatus := do
  let md5code ← stack 36
  let c ← getCloud
  let md5code := CStr.read (swMD5Code P c.devinfo.id.str md5code).2
  cloudRequest P.cldcmdBindev (lines [c.devinfo.id.str, md5code]) fun _ => .error

/-- The text of the UPDEV packet. -/
def updateText (d : DevInfo P) : CStr :=
  lines [d.model.str, d.desc.str, d.admin.str, d.password.str, d.eip.str, d.eport.str]

/-- `cloud_do_update`. -/
def cloudDoUpdate : CloudM P CommonStatus := do
  let c ← getCloud
  let ret ← cloudRequest P.cldcmdUpdev (updateText c.devinfo) fun _ => .error
  if ret = .cloudNetwork then do
    modifyCloud fun c => { c with reachable := .no }
    return ret
  else return ret

/-! ## What they come to -/

/-- How the result of a request is read off its reply. -/
def Replied (P : CldProtocol) (r : CommonStatus) : Option (List UInt8) → Prop
  | none => r = .cloudNetwork
  | some mem => r ≠ .cloudNetwork ∧ (r = .succeed ↔ ReplyOk P mem)

/-- Everything that can become of the request `cmd` with the text `t`: the result, and
the next world. -/
def Requests (cmd : ℕ) (t : CStr) (w : World P) (r : CommonStatus) (w' : World P) : Prop :=
  ∃ rep, Exchange cmd t w rep w' ∧ Replied P r rep

/-- Everything that can become of `REGUSR`. -/
def Regusrs (account username password : CStr) (w : World P) (r : CommonStatus) (w' : World P) :
    Prop :=
  ∃ code, Requests P.cldcmdRegusr (lines [account, username, password, code]) w r w'

/-- Everything that can become of `AUTH`. -/
def Auths (w : World P) (r : CommonStatus) (w' : World P) : Prop :=
  Requests P.cldcmdAuth (authText w.cloud) w r w'

/-- Everything that can become of `UBINDEV`. -/
def Ubinds (w : World P) (r : CommonStatus) (w' : World P) : Prop :=
  Requests P.cldcmdUbindev (CStr.lit "") w r w'

/-- Everything that can become of `BINDEV`. -/
def Binds (w : World P) (r : CommonStatus) (w' : World P) : Prop :=
  ∃ code, Requests P.cldcmdBindev (lines [w.cloud.devinfo.id.str, code]) w r w'

/-- The world after an update that could not be carried out: the cloud is marked as
not reachable. -/
def World.unreachable (w : World P) : World P := w.modify fun c => { c with reachable := .no }

/-- Everything that can become of `UPDEV`. -/
def Updates (w : World P) (r : CommonStatus) (w' : World P) : Prop :=
  ∃ w₁, Requests P.cldcmdUpdev (updateText w.cloud.devinfo) w r w₁ ∧
    w' = if r = .cloudNetwork then w₁.unreachable else w₁

section Lemmas

variable {w w' : World P}

/-- The text that `snprintf` cuts is never sent, so the exchange is one of the whole
text. -/
theorem Exchange.of_take {cmd : ℕ} {t : CStr} {rep : Option (List UInt8)}
    (h : Exchange cmd (t.take (P.cldMaxPktsize - 1)) w rep w') : Exchange cmd t w rep w' := by
  have hpos := P.sizeofCldhdr_pos
  have key : ∀ {hdr payload}, Carries P cmd (t.take (P.cldMaxPktsize - 1)) hdr payload →
      Carries P cmd t hdr payload := by
    intro hdr payload hc
    have hf := hc.fits
    rw [CStr.length_take] at hf
    rwa [CStr.take_of_length_le (by omega)] at hc
  cases h with
  | tooLarge h =>
    rw [CStr.length_take] at h
    exact .tooLarge (by omega)
  | writeFailed hc hr => exact .writeFailed (key hc) hr
  | noReply hc hr => exact .noReply (key hc) hr
  | answered hc hr hfd => exact .answered (key hc) hr hfd

/-- **What a request comes to**, for any classification of the replies that are not
`OK`. -/
theorem runs_cloudRequest {cmd : ℕ} {t : CStr} {other : List UInt8 → CommonStatus}
    {r : CommonStatus} (hother : ∀ b, other b ≠ .cloudNetwork ∧ other b ≠ .succeed)
    (h : Runs (cloudRequest cmd t other) w r w') : Requests cmd t w r w' := by
  rw [cloudRequest] at h
  simp only [runs_bind] at h
  obtain ⟨⟨ret, buf⟩, w₁, hs, h⟩ := h
  obtain ⟨rep, hx, hrep⟩ := runs_cloudSendPacket_request hs
  rcases hrep with ⟨rfl, heq⟩ | ⟨mem, rfl, hret, hok⟩
  · cases heq
    obtain ⟨rfl, rfl⟩ := h
    exact ⟨none, hx.of_take, rfl⟩
  · simp only at h hret hok
    rw [if_neg (by omega)] at h
    by_cases hb : strncaseEq buf (text "OK") 2 = true
    · rw [if_pos hb, runs_pure] at h
      obtain ⟨rfl, rfl⟩ := h
      exact ⟨some mem, hx.of_take, by simp, by simp [← hok, hb]⟩
    · rw [if_neg hb, runs_pure] at h
      obtain ⟨rfl, rfl⟩ := h
      exact ⟨some mem, hx.of_take, (hother buf).1, by simp [← hok, hb, (hother buf).2]⟩

theorem runs_cloudDoRegusr {account username password : CStr} {r : CommonStatus}
    (h : Runs (cloudDoRegusr account username password) w r w') :
    Regusrs account username password w r w' := by
  simp only [cloudDoRegusr, runs_bind, runs_stack] at h
  obtain ⟨code, _, ⟨-, rfl⟩, h⟩ := h
  refine ⟨_, runs_cloudRequest (fun b => ?_) h⟩
  simp only [regusrError]
  split_ifs <;> simp

theorem runs_cloudDoAuth {r : CommonStatus} (h : Runs cloudDoAuth w r w') : Auths w r w' := by
  simp only [cloudDoAuth, runs_bind, runs_getCloud] at h
  obtain ⟨_, _, ⟨rfl, rfl⟩, h⟩ := h
  refine runs_cloudRequest (fun b => ?_) h
  simp only [authError]
  split_ifs <;> simp

theorem runs_cloudDoUbind {r : CommonStatus} (h : Runs cloudDoUbind w r w') : Ubinds w r w' :=
  runs_cloudRequest (fun _ => by simp) h

theorem runs_cloudDoBind {r : CommonStatus} (h : Runs cloudDoBind w r w') : Binds w r w' := by
  simp only [cloudDoBind, runs_bind, runs_stack, runs_getCloud] at h
  obtain ⟨code, _, ⟨-, rfl⟩, _, _, ⟨rfl, rfl⟩, h⟩ := h
  exact ⟨_, runs_cloudRequest (fun _ => by simp) h⟩

/-- `cloud_do_update` is its request, and clears the flag behind one that is lost. -/
theorem runs_cloudDoUpdate_iff {r : CommonStatus} : Runs cloudDoUpdate w r w' ↔
    ∃ w₁, Runs (cloudRequest P.cldcmdUpdev (updateText w.cloud.devinfo) fun _ => .error) w r w₁ ∧
      w' = if r = .cloudNetwork then w₁.unreachable else w₁ := by
  simp only [cloudDoUpdate, runs_bind, runs_getCloud]
  constructor
  · rintro ⟨_, _, ⟨rfl, rfl⟩, e, w₁, hreq, h⟩
    by_cases he : e = .cloudNetwork
    · rw [if_pos he] at h
      simp only [runs_bind, runs_modifyCloud, runs_pure] at h
      obtain ⟨_, _, rfl, rfl, rfl⟩ := h
      exact ⟨w₁, hreq, (if_pos he).symm⟩
    · rw [if_neg he, runs_pure] at h
      obtain ⟨rfl, rfl⟩ := h
      exact ⟨w', hreq, (if_neg he).symm⟩
  · rintro ⟨w₁, hreq, rfl⟩
    refine ⟨_, w, ⟨rfl, rfl⟩, r, w₁, hreq, ?_⟩
    by_cases he : r = .cloudNetwork
    · rw [if_pos he, if_pos he]
      simp only [runs_bind, runs_modifyCloud, runs_pure]
      exact ⟨(), _, rfl, trivial, rfl⟩
    · rw [if_neg he, if_neg he]
      exact runs_pure.2 ⟨rfl, rfl⟩

theorem runs_cloudDoUpdate {r : CommonStatus} (h : Runs cloudDoUpdate w r w') :
    Updates w r w' := by
  obtain ⟨w₁, hreq, hw⟩ := runs_cloudDoUpdate_iff.1 h
  exact ⟨w₁, runs_cloudRequest (fun _ => by simp) hreq, hw⟩

/-! ## What they leave alone -/

theorem Exchange.cloud_eq {cmd : ℕ} {t : CStr} {rep : Option (List UInt8)}
    (h : Exchange cmd t w rep w') : w'.cloud = w.cloud := by
  cases h <;> rfl

theorem Requests.cloud_eq {cmd : ℕ} {t : CStr} {r : CommonStatus} (h : Requests cmd t w r w') :
    w'.cloud = w.cloud := by
  obtain ⟨_, hx, -⟩ := h
  exact hx.cloud_eq

theorem Requests.conf_eq {cmd : ℕ} {t : CStr} {r : CommonStatus} (h : Requests cmd t w r w') :
    w'.conf = w.conf := by
  obtain ⟨_, hx, -⟩ := h
  cases hx <;> rfl

theorem Requests.sockets_eq {cmd : ℕ} {t : CStr} {r : CommonStatus} (h : Requests cmd t w r w') :
    w'.sockets = w.sockets := by
  obtain ⟨_, hx, -⟩ := h
  cases hx <;> rfl

theorem Updates.cloud_eq {r : CommonStatus} (hu : Updates w r w') :
    w'.cloud = { w.cloud with reachable := w'.cloud.reachable } := by
  obtain ⟨w₁, hq, rfl⟩ := hu
  split
  · rw [← hq.cloud_eq]
    rfl
  · rw [hq.cloud_eq]

theorem Updates.conf_eq {r : CommonStatus} (hu : Updates w r w') : w'.conf = w.conf := by
  obtain ⟨w₁, hq, rfl⟩ := hu
  split <;> exact hq.conf_eq

theorem Updates.sockets_eq {r : CommonStatus} (hu : Updates w r w') : w'.sockets = w.sockets := by
  obtain ⟨w₁, hq, rfl⟩ := hu
  split <;> exact hq.sockets_eq

theorem Updates.events_trace {r : CommonStatus} (hu : Updates w r w') :
    ∃ w₁, Requests P.cldcmdUpdev (updateText w.cloud.devinfo) w r w₁ ∧ w'.trace = w₁.trace := by
  obtain ⟨w₁, hq, rfl⟩ := hu
  refine ⟨w₁, hq, ?_⟩
  split <;> rfl

end Lemmas

end SwCloud
