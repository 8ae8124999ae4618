import Lpt.Base.CString

/-!
# The cloud protocol, as far as `swCloud.c` uses it

`cldProtocol.h` and `swCloud.h` are not part of the repository.  What the code
takes from them (sizes, command and flag values, the layout of `cldhdr_t`), and
the digest it takes from OpenSSL, is collected in one structure, so that every
result below holds for any header that keeps the few laws stated in it.
-/

namespace SwCloud

open CLib

/-- The fields of `cldhdr_t`. -/
structure CldHdr where
  /-- `CLD_MAGIC` in every packet sent. -/
  magic : ℕ
  /-- `CLD_VER` in every packet sent. -/
  ver : ℕ
  /-- The command. -/
  cmd : ℕ
  /-- The flags. -/
  flags : ℕ
  /-- The payload length in words of four bytes. -/
  size : ℤ
  deriving DecidableEq

/-- The constants and the header layout that come from outside the repository. -/
structure CldProtocol where
  cldMaxPktsize : ℕ
  cldRtsize : ℕ
  cldDevidLen : ℕ
  cloudNameLen : ℕ
  cldMagic : ℕ
  cldVer : ℕ
  cldcmdRegusr : ℕ
  cldcmdAuth : ℕ
  cldcmdUbindev : ℕ
  cldcmdBindev : ℕ
  cldcmdUpdev : ℕ
  cldcmdDevctl : ℕ
  pktflgNotify : ℕ
  pktflgResponse : ℕ
  /-- `sizeof(cldhdr_t)`. -/
  sizeofCldhdr : ℕ
  /-- The bytes of a header with these fields. -/
  enc : CldHdr → List UInt8
  /-- The fields read from the bytes of a header. -/
  dec : List UInt8 → CldHdr
  /-- The values the header's fields can hold. -/
  Holds : CldHdr → Prop
  /-- `MD5` of a message. -/
  md5 : List UInt8 → List UInt8
  enc_length : ∀ h, (enc h).length = sizeofCldhdr
  dec_enc : ∀ h, Holds h → dec (enc h) = h
  md5_length : ∀ m, (md5 m).length = 16
  /-- The commands are told apart by their codes. -/
  cmds_nodup : [cldcmdRegusr, cldcmdAuth, cldcmdUbindev, cldcmdBindev, cldcmdUpdev,
    cldcmdDevctl].Nodup
  pktflgResponse_ne_zero : pktflgResponse ≠ 0
  sizeofCldhdr_pos : 0 < sizeofCldhdr
  sizeofCldhdr_lt : sizeofCldhdr < cldMaxPktsize
  /-- The size is passed as an `int`. -/
  cldMaxPktsize_lt : cldMaxPktsize < 2147483648

/-- The commands are told apart by their codes, pair by pair. -/
theorem CldProtocol.cmds_ne (P : CldProtocol) :
    (P.cldcmdRegusr ≠ P.cldcmdAuth ∧ P.cldcmdRegusr ≠ P.cldcmdUbindev ∧
      P.cldcmdRegusr ≠ P.cldcmdBindev ∧ P.cldcmdRegusr ≠ P.cldcmdUpdev ∧
      P.cldcmdRegusr ≠ P.cldcmdDevctl) ∧
    (P.cldcmdAuth ≠ P.cldcmdUbindev ∧ P.cldcmdAuth ≠ P.cldcmdBindev ∧
      P.cldcmdAuth ≠ P.cldcmdUpdev ∧ P.cldcmdAuth ≠ P.cldcmdDevctl) ∧
    (P.cldcmdUbindev ≠ P.cldcmdBindev ∧ P.cldcmdUbindev ≠ P.cldcmdUpdev ∧
      P.cldcmdUbindev ≠ P.cldcmdDevctl) ∧
    (P.cldcmdBindev ≠ P.cldcmdUpdev ∧ P.cldcmdBindev ≠ P.cldcmdDevctl) ∧
    P.cldcmdUpdev ≠ P.cldcmdDevctl := by
  simpa only [List.nodup_cons, List.mem_cons, List.not_mem_nil, or_false, not_or, not_false_eq_true,
    List.nodup_nil, and_true, ne_eq] using P.cmds_nodup

/-! ## A protocol that keeps the laws -/

/-- Four one-byte fields and a size of four bytes, lowest first. -/
def sampleEnc (h : CldHdr) : List UInt8 :=
  [UInt8.ofNat h.magic, UInt8.ofNat h.ver, UInt8.ofNat h.cmd, UInt8.ofNat h.flags,
    UInt8.ofNat h.size.toNat, UInt8.ofNat (h.size.toNat / 256),
    UInt8.ofNat (h.size.toNat / 65536), UInt8.ofNat (h.size.toNat / 16777216)]

/-- The fields read back. -/
def sampleDec : List UInt8 → CldHdr
  | [a, b, c, d, s₀, s₁, s₂, s₃] =>
      ⟨a.toNat, b.toNat, c.toNat, d.toNat,
        (s₀.toNat + 256 * s₁.toNat + 65536 * s₂.toNat + 16777216 * s₃.toNat : ℕ)⟩
  | _ => ⟨0, 0, 0, 0, 0⟩

/-- The values the fields can hold. -/
def SampleHolds (h : CldHdr) : Prop :=
  h.magic < 256 ∧ h.ver < 256 ∧ h.cmd < 256 ∧ h.flags < 256 ∧ 0 ≤ h.size ∧ h.size < 4294967296

theorem sampleDec_enc (h : CldHdr) (hh : SampleHolds h) : sampleDec (sampleEnc h) = h := by
  obtain ⟨h₁, h₂, h₃, h₄, h₅, h₆⟩ := hh
  have hs : h.size.toNat < 4294967296 := by omega
  simp only [sampleEnc, sampleDec, UInt8.toNat_ofNat']
  rw [Nat.mod_eq_of_lt h₁, Nat.mod_eq_of_lt h₂, Nat.mod_eq_of_lt h₃, Nat.mod_eq_of_lt h₄]
  cases h with
  | mk magic ver cmd flags size =>
    simp only [CldHdr.mk.injEq, true_and] at *
    omega

/-- A protocol of this kind with small packets, to run the programs on. -/
def sampleProtocol : CldProtocol where
  cldMaxPktsize := 64
  cldRtsize := 4
  cldDevidLen := 8
  cloudNameLen := 8
  cldMagic := 77
  cldVer := 1
  cldcmdRegusr := 1
  cldcmdAuth := 2
  cldcmdUbindev := 3
  cldcmdBindev := 4
  cldcmdUpdev := 5
  cldcmdDevctl := 6
  pktflgNotify := 1
  pktflgResponse := 2
  sizeofCldhdr := 8
  enc := sampleEnc
  dec := sampleDec
  Holds := SampleHolds
  md5 := fun _ => List.replicate 16 0
  enc_length := fun _ => rfl
  dec_enc := sampleDec_enc
  md5_length := fun _ => rfl
  cmds_nodup := by decide
  pktflgResponse_ne_zero := by decide
  sizeofCldhdr_pos := by decide
  sizeofCldhdr_lt := by decide
  cldMaxPktsize_lt := by decide

/-- `COMMON_STATUS`, with the values this code names. -/
inductive CommonStatus where
  | succeed
  | error
  | cloudNetwork
  | cloudAuth
  | cloudNouser
  | cloudBinded
  | cloudAccountExist
  | cloudUsernameExist
  /-- Any other code a called module may return. -/
  | other (code : ℕ)
  deriving DecidableEq

/-- `cloud.status`: the six `CLOUD_STATUS_` values.  `cloud_set_status` lets no
other value in. -/
inductive Status where
  /-- Start status. -/
  | init
  /-- Connecting to the server. -/
  | connecting
  /-- Connected with the server. -/
  | connected
  /-- Cannot connect to the cloud. -/
  | disconnected
  /-- Bound, but authentication failed. -/
  | broken
  /-- The environment changed. -/
  | restart
  deriving DecidableEq

/-- `cloud.reachable`. -/
inductive Reachable where
  | no
  | yes
  deriving DecidableEq

/-- The keys of `CloudConf` whose value is a string and is written at run time. -/
inductive CfgString where
  | account
  | password
  deriving DecidableEq

/-- The keys of `CloudConf` whose value is a number and is read at run time. -/
inductive CfgLong where
  | retryWait
  | retryMax
  deriving DecidableEq

end SwCloud
