import Lpt.Cloud.Command
import Lpt.Cloud.Run
import Lpt.Cloud.Trace

/-!
# From the `REGISTER` command to the wire

A `REGISTER` command ends in one `REGUSR` packet whose text has four lines: the account,
the user name, the password, and a check code over the three.  The check code comes from
`swMD5Code` into a buffer that nothing has written before.

* `md5Hex` — the check code of a text, as `swMD5Code` writes it.
* `RegusrExact` — what the payload of the packet should be.
* `registerExact_iff` — for which commands every packet is as it should be: all, except
  those whose three values are empty, because `swMD5Code` refuses an empty text, its
  caller does not look at the result, and what the buffer held before is sent.
-/

namespace SwCloud

open CLib Effect

variable {P : CldProtocol}

/-! ## The check code -/

/-- The digits of `"%02x"`. -/
def hexDigits : List UInt8 := text "0123456789abcdef"

theorem hex2_digits (b : UInt8) : ∀ c ∈ hex2 b, c ∈ hexDigits := by
  have hdigit : ∀ n < 16, (if UInt8.ofNat n < 10 then 48 + UInt8.ofNat n else 87 + UInt8.ofNat n) ∈
      hexDigits := by decide +kernel
  have hlt : ∀ d : UInt8, d.toNat < 16 → (if d < 10 then 48 + d else 87 + d) ∈ hexDigits :=
    fun d hd => by simpa only [UInt8.ofNat_toNat] using hdigit d.toNat hd
  intro c hc
  simp only [hex2, List.map_cons, List.map_nil, List.mem_cons, List.not_mem_nil, or_false] at hc
  rcases hc with rfl | rfl
  · apply hlt _
    rw [UInt8.toNat_div]
    have := b.toNat_lt
    show b.toNat / 16 < 16
    omega
  · apply hlt _
    rw [UInt8.toNat_mod]
    exact Nat.mod_lt _ (by decide)

theorem flatMap_hex2_digits {bs : List UInt8} : ∀ c ∈ bs.flatMap hex2, c ∈ hexDigits := by
  intro c hc
  obtain ⟨b, -, hb⟩ := List.mem_flatMap.1 hc
  exact hex2_digits b c hb

/-- The digits of the digest of the text `id`. -/
def md5Hex (P : CldProtocol) (id : CStr) : CStr where
  bytes := (P.md5 (md5Message id)).flatMap hex2
  nulFree := fun h => absurd (flatMap_hex2_digits _ h) (by decide)

/-- The check code is made of 32 digits. -/
theorem md5Hex_digits (id : CStr) :
    (md5Hex P id).length = 32 ∧ ∀ c ∈ (md5Hex P id).bytes, c ∈ hexDigits := by
  refine ⟨?_, flatMap_hex2_digits⟩
  have hlen : ∀ bs : List UInt8, (bs.flatMap hex2).length = 2 * bs.length := fun bs => by
    induction bs with
    | nil => rfl
    | cons b bs ih =>
      rw [List.flatMap_cons, List.length_append, ih, List.length_cons]
      simp only [hex2, List.length_map, List.length_cons, List.length_nil]
      omega
  unfold md5Hex CStr.length
  rw [hlen, P.md5_length]

/-- What is read from the buffer of `swMD5Code`: the check code, or, for an empty text, what
was there before. -/
theorem read_swMD5Code (id : CStr) (code : List UInt8) :
    CStr.read (swMD5Code P id code).2 = if id.bytes = [] then CStr.read code else md5Hex P id := by
  unfold swMD5Code
  by_cases hid : id.bytes = []
  · rw [if_pos hid, if_pos hid]
  · rw [if_neg hid, if_neg hid]
    simp only [store_zero, List.append_assoc, List.singleton_append]
    exact CStr.read_append_nul (md5Hex P id) _

/-! ## The text of the packet -/

theorem length_lines (ss : List CStr) : (lines ss).length = (ss.map fun s => s.length + 1).sum := by
  induction ss with
  | nil => rfl
  | cons s ss ih =>
    unfold lines
    rw [List.map_cons, List.sum_cons, ← ih]
    unfold CStr.length
    rw [CStr.bytes_append, CStr.bytes_append, List.length_append, List.length_append]
    rfl

/-- Lines without line feeds are as many as the line feeds of the text. -/
theorem count_lines {ss : List CStr} (h : ∀ s ∈ ss, 10 ∉ s.bytes) :
    (lines ss).bytes.count 10 = ss.length := by
  induction ss with
  | nil => rfl
  | cons s ss ih =>
    have hs := List.count_eq_zero.2 (h s (List.mem_cons_self ..))
    have hss := ih fun s' hs' => h s' (List.mem_cons_of_mem _ hs')
    unfold lines
    rw [CStr.bytes_append, CStr.bytes_append, List.count_append, List.count_append, hs, hss,
      List.length_cons, Nat.zero_add, Nat.add_comm]
    rfl

/-- What the payload of a `REGUSR` packet should be: read as a string, exactly four lines,
the last of them the check code of the three values. -/
structure RegusrExact (P : CldProtocol) (account username password : CStr)
    (payload : List UInt8) : Prop where
  text_eq : CStr.read payload =
    lines [account, username, password, md5Hex P (account ++ username ++ password)]
  four_lines : (CStr.read payload).bytes.count 10 = 4

section Texts

variable {account username password : CStr}

/-- The text that `cloud_do_regusr` sends, for what the buffer of the check code held. -/
def regusrText (P : CldProtocol) (account username password : CStr) (code : List UInt8) : CStr :=
  lines [account, username, password,
    CStr.read (swMD5Code P ((account ++ username ++ password).take (P.cldMaxPktsize - 1)) code).2]

/-- A text that fits a packet carries the whole check code, unless the three values are
empty. -/
theorem regusrText_eq {code : List UInt8}
    (hne : ¬ (account.bytes = [] ∧ username.bytes = [] ∧ password.bytes = []))
    (hfits : P.sizeofCldhdr + (regusrText P account username password code).length <
      P.cldMaxPktsize) : regusrText P account username password code =
        lines [account, username, password, md5Hex P (account ++ username ++ password)] := by
  have hle : (account ++ username ++ password).length ≤ P.cldMaxPktsize - 1 := by
    unfold regusrText at hfits
    rw [length_lines] at hfits
    simp only [List.map_cons, List.sum_cons] at hfits
    unfold CStr.length at hfits ⊢
    rw [CStr.bytes_append, CStr.bytes_append, List.length_append, List.length_append]
    omega
  have hid : (account ++ username ++ password).bytes ≠ [] := by
    rw [CStr.bytes_append, CStr.bytes_append]
    simpa [and_assoc] using hne
  unfold regusrText
  rw [CStr.take_of_length_le hle, read_swMD5Code, if_neg hid]

/-- Such a text has four lines, if the three values have no line feeds. -/
theorem count_regusrText (ha : 10 ∉ account.bytes) (hu : 10 ∉ username.bytes)
    (hp : 10 ∉ password.bytes) (id : CStr) :
    (lines [account, username, password, md5Hex P id]).bytes.count 10 = 4 := by
  apply count_lines
  have hcode : 10 ∉ (md5Hex P id).bytes := fun h => absurd ((md5Hex_digits id).2 _ h) (by decide)
  simp [ha, hu, hp, hcode]

end Texts

/-! ## What is sent -/

section Sending

variable {w w' : World P} {account username password : CStr}

/-- `cloud_do_regusr`, with the text it sends. -/
theorem runs_cloudDoRegusr_text {r : CommonStatus}
    (h : Runs (cloudDoRegusr account username password) w r w') :
    ∃ code, Requests P.cldcmdRegusr (regusrText P account username password code) w r w' := by
  simp only [cloudDoRegusr, runs_bind, runs_stack] at h
  obtain ⟨code, _, ⟨-, rfl⟩, h⟩ := h
  refine ⟨code, runs_cloudRequest (fun b => ?_) h⟩
  simp only [regusrError]
  split_ifs <;> simp

/-- What holds of every packet with such a text holds of every packet that `swCloudRegUsr`
writes. -/
theorem swCloudRegUsr_writes {R : List Event → ℤ → CldHdr → List UInt8 → Prop} {r : CommonStatus}
    (hR : ∀ code tr fd hdr payload, Carries P P.cldcmdRegusr
      (regusrText P account username password code) hdr payload → R tr fd hdr payload)
    (h : Runs (swCloudRegUsr (some account) (some username) (some password)) w r w') :
    Writes R w.trace w'.trace := by
  have hret : ∀ {e r : CommonStatus} {w w' : World P}, Runs (regUsrReturn e) w r w' →
      Writes R w.trace w'.trace := by
    intro e r w w' hr
    obtain ⟨-, rfl⟩ := runs_regUsrReturn hr
    split
    · exact World.disconnect_writes w
    · exact Writes.refl
  have hreq : ∀ {e : CommonStatus} {w w' : World P},
      Runs (cloudDoRegusr account username password) w e w' → Writes R w.trace w'.trace := by
    intro e w w' hq
    obtain ⟨code, hx⟩ := runs_cloudDoRegusr_text hq
    exact hx.writes (hR code _ _)
  simp only [swCloudRegUsr, runs_bind, runs_cloudGetStatus, runs_ite] at h
  obtain ⟨_, w, ⟨rfl, rfl⟩, ⟨-, e, w₁, hc, h⟩ | ⟨-, e, w₁, hq, h⟩⟩ := h
  · have hconn := (runs_cloudDoConnect hc).effect.writes R
    rcases h with ⟨-, h⟩ | ⟨-, e', w₂, hq, h⟩
    · exact hconn.trans (hret h)
    · exact (hconn.trans (hreq hq)).trans (hret h)
  · exact (hreq hq).trans (hret h)

/-- A packet that the kernel takes in one piece. -/
theorem runs_tcpWritePacket_sent {hdr : CldHdr} {payload : List UInt8} {fd : ℤ}
    (hfd : fd ∈ w.sockets) :
    Runs (tcpWritePacket fd hdr payload) w 0 (w.log (.wrote fd hdr payload 0)) := by
  refine runs_perform.2 ⟨.writes [.sent (P.enc hdr ++ payload).length], ?_⟩
  show (if fd ∈ w.sockets then _ else _) = _
  rw [if_pos hfd, tcpWrite, tcpWriteFrom]
  simp

/-- A connection that breaks before a packet arrives. -/
theorem runs_recvPacket_broken (rc : Receiver) {fd : ℤ} (res : List UInt8)
    (hfd : fd ∈ w.sockets) :
    ∃ mem, Runs (recvPacket rc fd res) w (-1, mem) (w.log (.received rc fd (-1) mem)) := by
  refine ⟨store res 0 [], runs_perform.2 ⟨.reads [] [.err], ?_⟩⟩
  show (if fd ∈ w.sockets then _ else _) = _
  rw [if_pos hfd, cloudRecvPacket_err]
  rfl

/-- A request that is written and then not answered. -/
theorem exists_unanswered (cmd : ℕ) {t : CStr} (other : List UInt8 → CommonStatus)
    (hfd : w.cloud.fd ∈ w.sockets) (hfits : P.sizeofCldhdr + t.length < P.cldMaxPktsize) :
    ∃ hdr payload mem, Carries P cmd t hdr payload ∧
      Runs (cloudRequest cmd t other) w .cloudNetwork
        ((w.log (.wrote w.cloud.fd hdr payload 0)).log
          (.received (.reply hdr payload) w.cloud.fd (-1) mem)) := by
  have hpos := P.sizeofCldhdr_pos
  have htake : t.take (P.cldMaxPktsize - 1) = t := CStr.take_of_length_le (by omega)
  let hdr : CldHdr := ⟨P.cldMagic, P.cldVer, cmd, 0, padded t.length / 4⟩
  let past := List.replicate (P.sizeofCldhdr + padded t.length - P.cldMaxPktsize) (0 : UInt8)
  let payload := payloadOf P t (padded t.length) past
  have hcarries : Carries P cmd t hdr payload := ⟨rfl, read_payloadOf hfits past, hfits⟩
  obtain ⟨mem, hrecv⟩ := runs_recvPacket_broken (w := w.log (.wrote w.cloud.fd hdr payload 0))
    (.reply hdr payload) (store (List.replicate P.cldMaxPktsize 0) 0 (P.enc hdr ++ payload)) hfd
  refine ⟨hdr, payload, mem, hcarries, ?_⟩
  unfold cloudRequest
  rw [htake, runs_bind]
  refine ⟨(-1, textBuf P t), _, ?_, runs_pure.2 ⟨rfl, rfl⟩⟩
  unfold cloudSendPacket
  rw [if_neg (not_le.2 hfits)]
  simp only [runs_bind, runs_stack, runs_getCloud]
  refine ⟨past, w, ⟨List.length_replicate, rfl⟩, _, w, ⟨rfl, rfl⟩, 0, _,
    runs_tcpWritePacket_sent hfd, ?_⟩
  rw [if_neg (by simp), if_neg (by simp)]
  simp only [runs_bind, runs_getCloud]
  exact ⟨_, _, ⟨rfl, rfl⟩, (-1, mem), _, hrecv, runs_pure.2 ⟨rfl, rfl⟩⟩

end Sending

/-! ## Which commands are sent as they should be -/

/-- Every `REGUSR` packet that `swCloudCommand` writes for this text is as it should be, in
whatever state the module is and whatever the network does. -/
def RegisterExact (P : CldProtocol) (t : CStr) (rest : List UInt8) (r : CldCmd) : Prop :=
  ∀ (w w' : World P) (output : List UInt8) (a : Option (List UInt8)),
    Runs (swCloudCommand (some (t.bytes ++ 0 :: rest)) (some output)) w a w' →
    ∀ newer older fd hdr payload, w'.trace = newer ++ .wrote fd hdr payload 0 :: older →
      w.trace <:+ older → hdr.cmd = P.cldcmdRegusr →
      RegusrExact P r.otherStr r.usrStr r.passStr payload

section Register

variable {t : CStr} {rest : List UInt8} {r : CldCmd}

/-- The program behind the text of a `REGISTER` command. -/
theorem swCloudCommand_register (hp : cldcmdParse (t.bytes ++ 0 :: rest) = some r)
    (hreg : cRegister <+: t.bytes) (output : List UInt8) :
    Accepts .register t r.usr r.pass r.other r.usrStr r.passStr r.otherStr ∧
    (swCloudCommand (some (t.bytes ++ 0 :: rest)) (some output) : CloudM P _) = do
      let retval ← swCloudRegUsr (some r.otherStr) (some r.usrStr) (some r.passStr)
      return some (store output 0 (tddpCode retval ++ [0])) := by
  obtain ⟨c, hacc, h0, hname⟩ := cldcmdParse_accepted hp
  obtain rfl : c = .register := name_unique hacc.name hreg
  exact ⟨hacc, swCloudCommand_eq hp h0 hname output⟩

/-- The text sent for three empty values, when the buffer of the check code held zeros. -/
theorem length_regusrText_short {account username password : CStr} (n : ℕ)
    (hempty : account.bytes = [] ∧ username.bytes = [] ∧ password.bytes = []) :
    (regusrText P account username password (List.replicate n 0)).length = 4 := by
  obtain ⟨ha, hu, hp⟩ := hempty
  have hid : ((account ++ username ++ password).take (P.cldMaxPktsize - 1)).bytes = [] := by
    rw [CStr.bytes_take, CStr.bytes_append, CStr.bytes_append, ha, hu, hp]
    exact List.take_nil
  have hcode : (CStr.read (List.replicate n 0)).bytes = [] := by
    cases n <;> rfl
  unfold regusrText
  rw [length_lines, read_swMD5Code, if_pos hid]
  simp only [List.map_cons, List.sum_cons, List.map_nil, List.sum_nil]
  unfold CStr.length
  rw [ha, hu, hp, hcode]
  rfl

/-- If the three values are empty and there is room for four line feeds, the packet may go
out without a check code. -/
theorem exists_short (hp : cldcmdParse (t.bytes ++ 0 :: rest) = some r)
    (hreg : cRegister <+: t.bytes)
    (hempty : r.otherStr.bytes = [] ∧ r.usrStr.bytes = [] ∧ r.passStr.bytes = [])
    (hroom : P.sizeofCldhdr + 4 < P.cldMaxPktsize) : ¬ RegisterExact P t rest r := by
  intro hexact
  have hlen := length_regusrText_short (P := P) 36 hempty
  obtain ⟨hdr, payload, mem, hc, hreq⟩ := exists_unanswered (w := onlineWorld P)
    P.cldcmdRegusr regusrError (List.mem_singleton_self 3) (hlen ▸ hroom)
  obtain ⟨-, hprog⟩ := swCloudCommand_register (P := P) hp hreg []
  have hregusr : Runs (cloudDoRegusr r.otherStr r.usrStr r.passStr) (onlineWorld P) .cloudNetwork
      (((onlineWorld P).log (.wrote 3 hdr payload 0)).log
        (.received (.reply hdr payload) 3 (-1) mem)) := by
    unfold cloudDoRegusr
    simp only [runs_bind, runs_stack]
    exact ⟨List.replicate 36 0, _, ⟨List.length_replicate, rfl⟩, hreq⟩
  have hrun : Runs (swCloudRegUsr (some r.otherStr) (some r.usrStr) (some r.passStr))
      (onlineWorld P) .cloudNetwork (((onlineWorld P).log (.wrote 3 hdr payload 0)).log
        (.received (.reply hdr payload) 3 (-1) mem)) := by
    unfold swCloudRegUsr
    simp only [runs_bind, runs_cloudGetStatus]
    refine ⟨_, _, ⟨rfl, rfl⟩, ?_⟩
    rw [if_neg (by simp [onlineWorld])]
    refine runs_bind.2 ⟨_, _, hregusr, ?_⟩
    unfold regUsrReturn
    simp only [runs_bind, runs_getCloud]
    exact ⟨_, _, ⟨rfl, rfl⟩, runs_pure.2 ⟨rfl, rfl⟩⟩
  have hcommand := (Prog.outcome_bind (f := fun s => (pure (some (store [] 0 (tddpCode s ++ [0]))) :
    CloudM P (Option (List UInt8))))).2 ⟨_, _, hrun, runs_pure.2 ⟨rfl, rfl⟩⟩
  have hcmd := hexact (onlineWorld P) _ [] _ (hprog ▸ hcommand) [_] _ 3 hdr payload rfl
    List.suffix_rfl hc.cmd_eq
  have hlen' := congrArg CStr.length (hc.text_eq.symm.trans hcmd.text_eq)
  rw [hlen, length_lines] at hlen'
  simp only [List.map_cons, List.sum_cons, (md5Hex_digits (P := P) _).1] at hlen'
  omega

end Register

/-- **Which `REGISTER` commands are sent as they should be**: all whose three values are not
all empty.  (Four line feeds always have room in a packet of any use.) -/
theorem registerExact_iff (P : CldProtocol) {t : CStr} {rest : List UInt8} {r : CldCmd}
    (hp : cldcmdParse (t.bytes ++ 0 :: rest) = some r) (hreg : cRegister <+: t.bytes) :
    RegisterExact P t rest r ↔
      ¬ (r.otherStr.bytes = [] ∧ r.usrStr.bytes = [] ∧ r.passStr.bytes = []) ∨
        P.cldMaxPktsize ≤ P.sizeofCldhdr + 4 := by
  constructor
  · intro h
    by_contra hn
    obtain ⟨hempty, hroom⟩ := not_or.1 hn
    exact exists_short hp hreg (not_not.1 hempty) (not_le.1 hroom) h
  · intro hcond w w' output a hrun newer older fd hdr payload htr hold hcmd
    obtain ⟨hacc, hprog⟩ := swCloudCommand_register (P := P) hp hreg output
    rw [hprog] at hrun
    obtain ⟨s, w₁, hs, -, rfl⟩ := runs_bind.1 hrun
    refine (swCloudRegUsr_writes (R := fun _ _ hdr payload => hdr.cmd = P.cldcmdRegusr →
      RegusrExact P r.otherStr r.usrStr r.passStr payload) ?_ hs).spec htr hold hcmd
    intro code _ _ hdr payload hc _
    have hne : ¬ (r.otherStr.bytes = [] ∧ r.usrStr.bytes = [] ∧ r.passStr.bytes = []) := by
      apply hcond.resolve_right
      intro hle
      -- the text has at least its four line feeds
      have hfits := hc.fits
      unfold regusrText at hfits
      rw [length_lines] at hfits
      simp only [List.map_cons, List.sum_cons] at hfits
      omega
    have htext := hc.text_eq.trans (regusrText_eq hne hc.fits)
    exact ⟨htext, htext ▸ count_regusrText hacc.other_line.1 hacc.usr_line.1 hacc.pass_line.1 _⟩

/-- A command to which the law applies: it has a user name and nothing else. -/
theorem registerExact_iff_user : ∃ r, cldcmdParse
    ((CStr.lit "REGISTER\nUSERNAME:u\nPASSWORD:\nACCOUNT:\n").bytes ++ [0]) = some r ∧
      RegisterExact sampleProtocol (CStr.lit "REGISTER\nUSERNAME:u\nPASSWORD:\nACCOUNT:\n") []
        r := by
  have hsome : (cldcmdParse
      ((CStr.lit "REGISTER\nUSERNAME:u\nPASSWORD:\nACCOUNT:\n").bytes ++ [0])).any
        (fun r => decide (r.usrStr.bytes ≠ [])) = true := by decide +kernel
  obtain ⟨r, hr, husr⟩ := (Option.any_eq_true _ _).1 hsome
  exact ⟨r, hr, (registerExact_iff sampleProtocol hr (by decide)).2
    (Or.inl fun hn => of_decide_eq_true husr hn.2.1)⟩

/-- A `REGISTER` command without values: the packet carries four line feeds and no check
code. -/
theorem register_without_code : ∃ r, cldcmdParse
    ((CStr.lit "REGISTER\nUSERNAME:\nPASSWORD:\nACCOUNT:\n").bytes ++ [0]) = some r ∧
      ¬ RegisterExact sampleProtocol (CStr.lit "REGISTER\nUSERNAME:\nPASSWORD:\nACCOUNT:\n") []
        r := by
  have hsome : (cldcmdParse
      ((CStr.lit "REGISTER\nUSERNAME:\nPASSWORD:\nACCOUNT:\n").bytes ++ [0])).any
        (fun r => decide (r.otherStr.bytes = [] ∧ r.usrStr.bytes = [] ∧ r.passStr.bytes = [])) =
          true := by decide +kernel
  obtain ⟨r, hr, hempty⟩ := (Option.any_eq_true _ _).1 hsome
  exact ⟨r, hr, exists_short hr (by decide) (of_decide_eq_true hempty) (by decide)⟩

end SwCloud
