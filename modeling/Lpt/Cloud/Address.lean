import Lpt.Cloud.Notices

/-!
# Two parsers of one address

The address of the stream server is one text, `ip:port` or `null`.  `msg_upnp_change` copies
it into a buffer of the size of both fields and takes it apart there; `cloud_start` has it
written into such a buffer and takes it apart in the same way.

* `addrIp_append`, `addrPort_append` — the parts of an address with a colon.
* `AddressLaw` — what both of them are to leave in the device information.
* `upnp_parsers_agree` — they do, for every text that fits into the buffer.
-/

namespace SwCloud

open CLib Effect

variable {P : CldProtocol}

/-! ## The parts of an address -/

section Parts

variable {ip port s : CStr}

theorem bytes_address (ip port : CStr) :
    (ip ++ CStr.lit ":" ++ port).bytes = ip.bytes ++ 58 :: port.bytes := by
  show ip.bytes ++ [58] ++ port.bytes = _
  rw [List.append_assoc, List.singleton_append]

theorem idxOf_address (h : 58 ∉ ip.bytes) :
    (ip ++ CStr.lit ":" ++ port).bytes.idxOf 58 = ip.bytes.length := by
  rw [bytes_address, List.idxOf_append_of_notMem h, List.idxOf_cons_self, Nat.add_zero]

theorem mem_address (ip port : CStr) : 58 ∈ (ip ++ CStr.lit ":" ++ port).bytes := by
  rw [bytes_address]
  exact List.mem_append_right _ (List.mem_cons_self ..)

/-- The part before the first colon. -/
theorem addrIp_append (h : 58 ∉ ip.bytes) : addrIp (ip ++ CStr.lit ":" ++ port) = ip := by
  rw [addrIp, if_pos (mem_address ip port), idxOf_address h]
  apply CStr.ext
  rw [CStr.bytes_take, bytes_address, List.take_left]

/-- The part after the first colon. -/
theorem addrPort_append (h : 58 ∉ ip.bytes) : addrPort (ip ++ CStr.lit ":" ++ port) = port := by
  rw [addrPort, if_pos (mem_address ip port), idxOf_address h]
  apply CStr.ext
  rw [CStr.bytes_drop, bytes_address, List.drop_length_add_append]
  rfl

theorem addr_null (h : 58 ∉ s.bytes) :
    addrIp s = CStr.lit "null" ∧ addrPort s = CStr.lit "null" := by
  unfold addrIp addrPort
  rw [if_neg h, if_neg h]
  exact ⟨rfl, rfl⟩

/-- An address has a first colon, or none. -/
theorem exists_address (s : CStr) :
    58 ∉ s.bytes ∨ ∃ ip port : CStr, 58 ∉ ip.bytes ∧ s = ip ++ CStr.lit ":" ++ port := by
  by_cases h : 58 ∈ s.bytes
  · obtain ⟨a, b, hab, ha⟩ := List.eq_append_cons_of_mem h
    have hfree : 0 ∉ a ++ 58 :: b := hab ▸ s.nulFree
    rw [List.mem_append, List.mem_cons, not_or, not_or] at hfree
    refine Or.inr ⟨⟨a, hfree.1⟩, ⟨b, hfree.2.2⟩, ha, CStr.ext ?_⟩
    rw [bytes_address]
    exact hab
  · exact Or.inl h

end Parts

/-! ## What is left in the device information -/

/-- **What the address `s` is taken for**: `d` is the device information after
`msg_upnp_change`, and `d'` that after `cloud_start`. -/
structure AddressLaw (s : CStr) (d d' : DevInfo P) : Prop where
  /-- An address whose parts fit is stored as it is. -/
  address : ∀ ip port : CStr, s = ip ++ CStr.lit ":" ++ port → 58 ∉ ip.bytes → ip.length ≤ 15 →
    port.length ≤ 7 → d.eip.str = ip ∧ d.eport.str = port
  /-- A text without a colon is no address. -/
  null : 58 ∉ s.bytes → d.eip.str = CStr.lit "null" ∧ d.eport.str = CStr.lit "null"
  /-- Both parsers come to the same. -/
  agree : d.eip = d'.eip ∧ d.eport = d'.eport
  /-- Both parts are taken from the text, or none of them. -/
  together : (58 ∉ s.bytes ∧ d.eip.str = CStr.lit "null" ∧ d.eport.str = CStr.lit "null") ∨
    ∃ ip port : CStr, s = ip ++ CStr.lit ":" ++ port ∧ 58 ∉ ip.bytes ∧
      d.eip.str = ip.take 15 ∧ d.eport.str = port.take 7

section Law

variable {w w' : World P} {s : CStr} {u : Unit}

/-- What `msg_upnp_change` stores of a text that fits into its buffer. -/
theorem msgUpnpChange_stores (hlen : s.length ≤ 23) (hs : w.cloud.status = .connected)
    (h : Runs (msgUpnpChange (some s)) w u w') : w'.cloud.devinfo =
      { w.cloud.devinfo with eip := .snprintf (addrIp s), eport := .snprintf (addrPort s) } := by
  rw [runs_msgUpnpChange] at h
  have htake : s.take (16 + 8 - 1) = s := CStr.take_of_length_le hlen
  rw [h, World.delivered, if_pos hs, World.cloud_notified, upnpBuf, htake, upnpInfo_eq]

/-- What `cloud_start` stores of the answer it is given. -/
theorem cloudStart_stores (info : SysInfo P) (c : Cloud P) :
    (cloudStart info c).devinfo.eip = .snprintf (addrIp info.upnpAddr) ∧
      (cloudStart info c).devinfo.eport = .snprintf (addrPort info.upnpAddr) := by
  unfold cloudStart
  simp only [upnpInfo_eq, and_self]

/-- **Both parsers of the address agree**, on every text of at most 23 characters. -/
theorem upnp_parsers_agree (hlen : s.length ≤ 23) (hs : w.cloud.status = .connected)
    (h : Runs (msgUpnpChange (some s)) w u w') (info : SysInfo P) (hinfo : info.upnpAddr = s)
    (c : Cloud P) : AddressLaw s w'.cloud.devinfo (cloudStart info c).devinfo := by
  have hd := msgUpnpChange_stores hlen hs h
  obtain ⟨heip, heport⟩ := cloudStart_stores info c
  rw [hinfo] at heip heport
  have hnull : 58 ∉ s.bytes → w'.cloud.devinfo.eip.str = CStr.lit "null" ∧
      w'.cloud.devinfo.eport.str = CStr.lit "null" := by
    intro hcolon
    obtain ⟨hip, hport⟩ := addr_null hcolon
    rw [hd, hip, hport]
    exact ⟨rfl, rfl⟩
  have hparts : ∀ ip port : CStr, s = ip ++ CStr.lit ":" ++ port → 58 ∉ ip.bytes →
      w'.cloud.devinfo.eip.str = ip.take 15 ∧ w'.cloud.devinfo.eport.str = port.take 7 := by
    rintro ip port rfl hip
    rw [hd, addrIp_append hip, addrPort_append hip]
    exact ⟨rfl, rfl⟩
  constructor
  · intro ip port hsplit hip hiplen hportlen
    obtain ⟨h₁, h₂⟩ := hparts ip port hsplit hip
    rw [h₁, h₂, CStr.take_of_length_le hiplen, CStr.take_of_length_le hportlen]
    exact ⟨rfl, rfl⟩
  · exact hnull
  · rw [hd, heip, heport]
    exact ⟨rfl, rfl⟩
  · rcases exists_address s with hcolon | ⟨ip, port, hip, hsplit⟩
    · exact Or.inl ⟨hcolon, hnull hcolon⟩
    · exact Or.inr ⟨ip, port, hsplit, hip, hparts ip port hsplit hip⟩

/-- A text to which the law applies: the longest address. -/
theorem upnp_parsers_agree_longest : ∃ d : DevInfo sampleProtocol,
    AddressLaw (CStr.lit "255.255.255.255:65535") d (cloudStart
      { sampleInfo with upnpAddr := CStr.lit "255.255.255.255:65535" }
      (onlineWorld sampleProtocol).cloud).devinfo := by
  have h : Runs (msgUpnpChange (some (CStr.lit "255.255.255.255:65535")))
      (onlineWorld sampleProtocol) () _ := runs_msgUpnpChange.2 rfl
  exact ⟨_, upnp_parsers_agree (by decide) rfl h _ rfl _⟩

end Law

end SwCloud
