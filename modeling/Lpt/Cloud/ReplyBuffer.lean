import Lpt.Base.Lines
import Lpt.Cloud.RequestBuffer

/-!
# What comes back into the buffer of a request

The reply to a request is copied over the text of the request, and then searched as a string.
It does not bring a NUL with it, so a reply without one goes on with the rest of the text.

* `read_reply` — the string that is searched.
* `sameVerdict_iff` — two requests with the same reply are judged alike unless the rest of
  one text shows a code to the search that the rest of the other does not.
-/

namespace SwCloud

open CLib Effect

variable {P : CldProtocol}

/-- The string in the buffer of a request with the text `t` after the reply `p`. -/
def replyString (p : List UInt8) (t : CStr) : List UInt8 :=
  if 0 ∈ p then (CStr.read p).bytes else p ++ t.bytes.drop p.length

/-- The code `key` is in the reply itself. -/
def Says (key p : List UInt8) : Prop := key <:+: (CStr.read p).bytes

/-- The code `key` is not in the reply, but a search that runs into the request finds it. -/
def Leaks (key p : List UInt8) (t : CStr) : Prop :=
  0 ∉ p ∧ ¬ key <:+: p ∧ key <:+: p ++ t.bytes.drop p.length

/-- The reply begins with `OK`, in any case. -/
def Ok (p : List UInt8) : Prop := strncaseEq p (text "OK") 2 = true

instance (p : List UInt8) : Decidable (Ok p) := inferInstanceAs (Decidable (_ = true))

/-- The text of the request that these events record and the payload of its reply. -/
def answer (P : CldProtocol) : List Event → Option (CStr × List UInt8)
  | [.received _ _ ret mem, .wrote _ _ payload _] =>
      if 0 ≤ ret then some (CStr.read payload, replyPayload P mem) else none
  | _ => none

/-- The request `q` may judge the reply `p` to its text `t` as `r`. -/
def Judges (P : CldProtocol) (q : Rendered) (t : CStr) (p : List UInt8) (r : CommonStatus) :
    Prop :=
  ∃ w w' : World P, q.Text w.cloud t ∧ Runs q.send w r w' ∧ answer P (w.since w') = some (t, p)

section Search

variable {p key buf : List UInt8} {t t₁ t₂ : CStr}

/-- **What the search sees**: the reply, and, if it has no NUL, the rest of the text. -/
theorem read_reply (ht : t.length < P.cldMaxPktsize) (hp : p.length < P.cldMaxPktsize) :
    (CStr.read (store (textBuf P t) 0 p)).bytes = replyString p t := by
  unfold replyString
  rw [store_zero]
  by_cases h0 : 0 ∈ p
  · rw [if_pos h0, read_append_of_mem h0]
  · have hzeros : (textBuf P t).drop p.length = (t.drop p.length).bytes ++
        0 :: List.replicate (P.cldMaxPktsize - t.length - (p.length - t.length) - 1) 0 := by
      unfold textBuf CStr.length at *
      rw [store_zero, List.drop_append, List.drop_replicate, List.drop_replicate,
        ← List.replicate_succ]
      congr 2
      omega
    rw [if_neg h0, read_append h0, hzeros, CStr.read_append_nul]
    rfl

/-- `strstr` in the buffer. -/
theorem strstr_isSome_iff : (strstr buf 0 key).isSome ↔ key <:+: (CStr.read buf).bytes := by
  unfold strstr
  rw [Option.isSome_map, List.drop_zero, find_isSome_iff]

/-- A code is found in the reply itself or with the help of the request. -/
theorem infix_replyString : key <:+: replyString p t ↔ Says key p ∨ Leaks key p t := by
  unfold replyString Says Leaks
  by_cases h0 : 0 ∈ p
  · rw [if_pos h0]
    simp [h0]
  · have hmono : key <:+: p → key <:+: p ++ t.bytes.drop p.length := fun h =>
      h.trans (List.prefix_append ..).isInfix
    rw [if_neg h0, read_of_nulFree h0]
    tauto

theorem Leaks.not_says (h : Leaks key p t) : ¬ Says key p := by
  obtain ⟨h0, hn, -⟩ := h
  unfold Says
  rwa [read_of_nulFree h0]

/-- Two searches for a code agree exactly if neither request helps alone. -/
theorem infix_replyString_congr :
    (key <:+: replyString p t₁ ↔ key <:+: replyString p t₂) ↔
      (Leaks key p t₁ ↔ Leaks key p t₂) := by
  rw [infix_replyString, infix_replyString]
  have h₁ : Leaks key p t₁ → ¬ Says key p := Leaks.not_says
  have h₂ : Leaks key p t₂ → ¬ Says key p := Leaks.not_says
  tauto

end Search

section Verdict

variable {p : List UInt8} {t t₁ t₂ : CStr} {r r₁ r₂ : CommonStatus}

/-- The verdict on an answered request. -/
theorem verdict_eq {cmd : ℕ} {t' : CStr} {other : List UInt8 → CommonStatus} {w w' : World P}
    (h : Runs (cloudRequest cmd t' other) w r w') (ha : answer P (w.since w') = some (t, p)) :
    t = t' ∧ P.sizeofCldhdr + t.length < P.cldMaxPktsize ∧
      r = if Ok p then .succeed else other (store (textBuf P t) 0 p) := by
  obtain ⟨ret, buf, ht, rfl⟩ := runs_cloudRequest_transmits h
  cases ht with
  | tooLarge _ =>
    have hs : w.since (w.log (.tooLarge cmd)) = [.tooLarge cmd] := World.since_eq rfl
    rw [hs] at ha
    cases ha
  | @writeFailed past ret _ _ =>
    rw [World.since_eq (show _ = [.wrote _ _ _ _] ++ w.trace from rfl)] at ha
    cases ha
  | @noReply past mem ret _ hret =>
    rw [World.since_eq (show _ = [.received _ _ _ _, .wrote _ _ _ _] ++ w.trace from rfl)] at ha
    rw [answer, if_neg (not_le.2 hret)] at ha
    cases ha
  | @answered past x hfits hret _ hrecv hsize =>
    rw [World.since_eq (show _ = [.received _ _ _ _, .wrote _ _ _ _] ++ w.trace from rfl)] at ha
    rw [answer, if_pos hret, packetPayload, read_payloadOf hfits] at ha
    cases ha
    have hpos := P.sizeofCldhdr_pos
    have htake : t.take (P.cldMaxPktsize - 1) = t := CStr.take_of_length_le (by omega)
    -- a reply has at least one word, so `OK` is looked for in the reply only
    have hok : strncaseEq (store (textBuf P t) 0 (replyPayload P x.mem)) (text "OK") 2 =
        strncaseEq (replyPayload P x.mem) (text "OK") 2 := by
      have hbuf := strncaseEq_store hrecv hsize (textBuf P t)
      have hself := strncaseEq_store hrecv hsize []
      rw [store_zero, List.drop_nil, List.append_nil] at hself
      exact hbuf.trans hself.symm
    refine ⟨rfl, hfits, ?_⟩
    rw [htake, if_neg (by decide), hok]
    rfl

/-- **What a request makes of a reply** that fits its buffer, and the string it searches. -/
theorem Judges.verdict {q : Rendered} (h : Judges P q t p r)
    (hfit : P.sizeofCldhdr + p.length ≤ P.cldMaxPktsize) : ∃ buf : List UInt8,
    (CStr.read buf).bytes = replyString p t ∧ r = if Ok p then .succeed else q.other buf := by
  obtain ⟨w, w', -, hrun, ha⟩ := h
  obtain ⟨t', w₁, -, hreq, htr⟩ := runs_send hrun
  rw [World.since_congr htr] at ha
  obtain ⟨-, hfits, hr⟩ := verdict_eq hreq ha
  have hpos := P.sizeofCldhdr_pos
  exact ⟨_, read_reply (by omega) (by omega), hr⟩

theorem Judges.auth (h : Judges P .auth t p r)
    (hfit : P.sizeofCldhdr + p.length ≤ P.cldMaxPktsize) :
    r = if Ok p then .succeed
      else if text "-6" <:+: replyString p t then .cloudNouser else .cloudAuth := by
  obtain ⟨buf, hread, rfl⟩ := h.verdict hfit
  unfold Rendered.other authError
  simp only [strstr_isSome_iff, hread]

theorem Judges.regusr {account username password : CStr}
    (h : Judges P (.regusr account username password) t p r)
    (hfit : P.sizeofCldhdr + p.length ≤ P.cldMaxPktsize) :
    r = if Ok p then .succeed
      else if text "-3" <:+: replyString p t then .cloudAccountExist
      else if text "-4" <:+: replyString p t then .cloudUsernameExist else .error := by
  obtain ⟨buf, hread, rfl⟩ := h.verdict hfit
  unfold Rendered.other regusrError
  simp only [strstr_isSome_iff, hread]

/-- **A reply is judged by its own bytes**, with the exact exceptions: two requests with the same
reply come to the same result if and only if it is `OK`, or the rests of the two texts make
no difference to the searches for the codes. -/
theorem sameVerdict_iff (hfit : P.sizeofCldhdr + p.length ≤ P.cldMaxPktsize) :
    (∀ t₁ t₂ r₁ r₂, Judges P .auth t₁ p r₁ → Judges P .auth t₂ p r₂ →
      (r₁ = r₂ ↔ Ok p ∨ (Leaks (text "-6") p t₁ ↔ Leaks (text "-6") p t₂))) ∧
    ∀ a₁ u₁ q₁ a₂ u₂ q₂ t₁ t₂ r₁ r₂, Judges P (.regusr a₁ u₁ q₁) t₁ p r₁ →
      Judges P (.regusr a₂ u₂ q₂) t₂ p r₂ →
      (r₁ = r₂ ↔ Ok p ∨ (Leaks (text "-3") p t₁ ↔ Leaks (text "-3") p t₂) ∧
        (Says (text "-3") p ∨ Leaks (text "-3") p t₁ ∨
          (Leaks (text "-4") p t₁ ↔ Leaks (text "-4") p t₂))) := by
  constructor
  · intro t₁ t₂ r₁ r₂ h₁ h₂
    rw [h₁.auth hfit, h₂.auth hfit, ← infix_replyString_congr]
    by_cases hok : Ok p
    · simp [hok]
    · simp only [hok, false_or]
      by_cases ht₁ : text "-6" <:+: replyString p t₁ <;>
        by_cases ht₂ : text "-6" <:+: replyString p t₂ <;> simp [ht₁, ht₂]
  · intro a₁ u₁ q₁ a₂ u₂ q₂ t₁ t₂ r₁ r₂ h₁ h₂
    rw [h₁.regusr hfit, h₂.regusr hfit, ← infix_replyString_congr, ← infix_replyString_congr,
      ← or_assoc, ← infix_replyString]
    by_cases hok : Ok p
    · simp [hok]
    · simp only [hok, false_or]
      by_cases ht₁ : text "-3" <:+: replyString p t₁ <;>
        by_cases ht₂ : text "-3" <:+: replyString p t₂ <;>
        by_cases hu₁ : text "-4" <:+: replyString p t₁ <;>
        by_cases hu₂ : text "-4" <:+: replyString p t₂ <;> simp [ht₁, ht₂, hu₁, hu₂]

end Verdict

/-! ## Two accounts -/

/-- A connected device with this account. -/
def accountWorld (account : CStr) : World sampleProtocol :=
  (onlineWorld sampleProtocol).modify fun c => { c with account := .snprintf account }

/-- The inputs of a request whose reply is these four bytes. -/
def wordInputs (p : List UInt8) : List Input :=
  [.bytes [], .writes [.sent 64], .reads (sampleEnc ⟨77, 1, 0, 2, 1⟩ ++ p) [.data 8, .data 4]]

theorem exists_judges (account : CStr) (p : List UInt8) (r : CommonStatus)
    (hq : (cloudDoAuth.replay (handle sampleProtocol) (quiet sampleProtocol) (wordInputs p)
      (accountWorld account)).any (fun x => decide (x.1 = r ∧
        answer sampleProtocol ((accountWorld account).since x.2) =
          some (authText (accountWorld account).cloud, p))) = true) :
    Judges sampleProtocol .auth (authText (accountWorld account).cloud) p r := by
  obtain ⟨a, w', hrun, rfl, ha⟩ := exists_outcome cloudDoAuth _ _ _ hq
  exact ⟨_, w', .auth, hrun, ha⟩

/-- A reply to which the law applies: it ends with a NUL, as the packets of this code do, and
the code in one of the accounts does not matter. -/
theorem sameVerdict_ended : ∃ t₁ t₂ r₁ r₂, text "-6" <:+: t₁.bytes ∧ ¬ text "-6" <:+: t₂.bytes ∧
    Judges sampleProtocol .auth t₁ [69, 82, 82, 0] r₁ ∧
    Judges sampleProtocol .auth t₂ [69, 82, 82, 0] r₂ ∧ r₁ = r₂ := by
  have h₁ := exists_judges (CStr.lit "abcd-6") [69, 82, 82, 0] .cloudAuth (by decide +kernel)
  have h₂ := exists_judges (CStr.lit "abcd") [69, 82, 82, 0] .cloudAuth (by decide +kernel)
  refine ⟨_, _, _, _, by decide +kernel, by decide +kernel, h₁, h₂, ?_⟩
  apply ((sameVerdict_iff (P := sampleProtocol) (p := [69, 82, 82, 0]) (by decide)).1
    _ _ _ _ h₁ h₂).2
  right
  unfold Leaks
  simp

/-- A reply without a NUL: the account `abcd-6` shows the search the code `-6`. -/
theorem account_answers_for_server : ¬ ∀ (p : List UInt8) (t₁ t₂ : CStr) (r₁ r₂ : CommonStatus),
    0 < p.length → 4 ∣ p.length →
    sampleProtocol.sizeofCldhdr + p.length ≤ sampleProtocol.cldMaxPktsize →
    Judges sampleProtocol .auth t₁ p r₁ →
    Judges sampleProtocol .auth t₂ p r₂ → r₁ = r₂ := by
  intro hall
  have h₁ := exists_judges (CStr.lit "abcd-6") (text "ERRR") .cloudNouser (by decide +kernel)
  have h₂ := exists_judges (CStr.lit "abcd") (text "ERRR") .cloudAuth (by decide +kernel)
  have heq := hall _ _ _ _ _ (by decide) (by decide) (by decide) h₁ h₂
  cases heq

end SwCloud
