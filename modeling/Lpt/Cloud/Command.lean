import Lpt.Base.Cuts
import Lpt.Cloud.Api

/-!
# The commands of the local tool: `_cldcmd_parse` and `swCloudCommand`

A command is a text of lines: the command itself, and three fields, each a key and a
value.  The parser looks for every key in the whole text, and then cuts the text at the
end of the line of each of them.

* `cldcmdParse` — the parser.
* `TddpCmd.text` — the text of a command with its fields in any order.
* `cldcmdParse_text` — the parser never takes a part of one value for another field: it
  returns the three values, or it fails because a value contains the key of a later line.
* `cldcmdParse_accepts` — which texts the parser accepts, for every text at all, and what
  `swCloudCommand` does with them.
-/

namespace SwCloud

open CLib Effect

/-! ## The parser -/

/-- `P_USERNAME`. -/
def pUsername : List UInt8 := text "USERNAME:"
/-- `P_PASSWORD`. -/
def pPassword : List UInt8 := text "PASSWORD:"
/-- `P_ACCOUNT`. -/
def pAccount : List UInt8 := text "ACCOUNT:"
/-- `P_DEVICENAME`. -/
def pDevicename : List UInt8 := text "DEVICENAME:"
/-- `C_REGISTER`. -/
def cRegister : List UInt8 := text "REGISTER"
/-- `C_BIND`. -/
def cBind : List UInt8 := text "BIND"

/-- What `_cldcmd_parse` returns with 0: the pointers, as offsets, and the memory behind
them. -/
structure CldCmd where
  cmd : ℕ
  usr : ℕ
  pass : ℕ
  other : ℕ
  mem : List UInt8
  deriving DecidableEq

namespace CldCmd

/-- The string at `usr`. -/
def usrStr (c : CldCmd) : CStr := CStr.read (c.mem.drop c.usr)
/-- The string at `pass`. -/
def passStr (c : CldCmd) : CStr := CStr.read (c.mem.drop c.pass)
/-- The string at `other`. -/
def otherStr (c : CldCmd) : CStr := CStr.read (c.mem.drop c.other)

end CldCmd

/-- The end of the line at `off` is overwritten with a NUL. -/
def cutLine (m : List UInt8) (off : ℕ) : Option (List UInt8) :=
  (strchr m off 10).map fun p => store m p [0]

/-- The key of the third field, by the command at the beginning of the text. -/
def otherKeyOf (input : List UInt8) : Option (List UInt8) :=
  if startsWith input 0 cRegister then some pAccount
  else if startsWith input 0 cBind then some pDevicename
  else none

/-- `_cldcmd_parse`; `none` is the return value -1. -/
def cldcmdParse (input : List UInt8) : Option CldCmd := do
  let usr ← strstr input 0 pUsername
  let pass ← strstr input 0 pPassword
  let key ← otherKeyOf input
  let other ← strstr input 0 key
  let usr := usr + pUsername.length
  let pass := pass + pPassword.length
  let other := other + key.length
  let input ← cutLine input usr
  let input ← cutLine input pass
  let input ← cutLine input other
  return ⟨0, usr, pass, other, input⟩

/-! ## The command -/

variable {P : CldProtocol}

/-- The answer to the tool. -/
def tddpCode : CommonStatus → List UInt8
  | .succeed => text "OK\n"
  | .cloudNouser => text "1002"
  | .cloudAuth => text "1003"
  | .cloudBinded => text "1006"
  | .cloudUsernameExist => text "1008"
  | .cloudAccountExist => text "1009"
  | .cloudNetwork => text "2001"
  | _ => text "1000"

/-- The branch of `BIND`. -/
def bindCommand (usr pass other : CStr) : CloudM P CommonStatus := do
  let retval ← swSystemSetProductNameCheck other
  if retval = .succeed then do
    let retval ← swCloudBind (some usr) (some pass) (some other)
    if retval = .succeed then do
      let _ ← swSystemSetProductName other
      return retval
    else return retval
  else return retval

/-- The part of `swCloudCommand` that calls the command. -/
def runCommand (c : CldCmd) : CloudM P CommonStatus :=
  if startsWith c.mem c.cmd cRegister then
    swCloudRegUsr (some c.otherStr) (some c.usrStr) (some c.passStr)
  else if startsWith c.mem c.cmd cBind then bindCommand c.usrStr c.passStr c.otherStr
  else return .error

/-- `swCloudCommand`: the memory `output` is left with. -/
def swCloudCommand (input output : Option (List UInt8)) : CloudM P (Option (List UInt8)) :=
  match input, output with
  | some input, some output =>
      match cldcmdParse input with
      | none => return some (store output 0 (text "1004" ++ [0]))
      | some c => do
          let retval ← runCommand c
          return some (store output 0 (tddpCode retval ++ [0]))
  | _, output => return output

/-! ## Texts of commands -/

/-- The two commands. -/
inductive TddpCmd where
  | register
  | bind
  deriving DecidableEq

namespace TddpCmd

/-- The first line. -/
def name : TddpCmd → List UInt8
  | .register => cRegister
  | .bind => cBind

/-- The key of the third field. -/
def otherKey : TddpCmd → List UInt8
  | .register => pAccount
  | .bind => pDevicename

/-- The keys, in the order in which the parser looks for them. -/
def keys (c : TddpCmd) : List (List UInt8) := [pUsername, pPassword, c.otherKey]

end TddpCmd

/-- The line of a field. -/
def fieldLine (f : List UInt8 × CStr) : List UInt8 := f.1 ++ f.2.bytes

/-- The lines of a command: its name, and its fields in some order. -/
def TddpCmd.lines (c : TddpCmd) (order : List (List UInt8 × CStr)) : List (List UInt8) :=
  c.name :: order.map fieldLine

/-- The text of a command, each line ended by a line feed. -/
def TddpCmd.text (c : TddpCmd) (order : List (List UInt8 × CStr)) : List UInt8 :=
  (c.lines order).flatMap (· ++ [10])

/-- The key of `f` is found in the line of `g`. -/
def Meets (f g : List UInt8 × CStr) : Bool := (find f.1 (fieldLine g)).isSome

section Lemmas

variable {c c' : TddpCmd} {usr pass other : CStr} {order : List (List UInt8 × CStr)}
  {f g : List UInt8 × CStr} {rest : List UInt8}

theorem text_eq_image (c : TddpCmd) (order : List (List UInt8 × CStr)) :
    c.text order = image [] 0 (c.lines order) := by
  rw [TddpCmd.text]
  generalize c.lines order = ls
  generalize 0 = i
  induction ls generalizing i with
  | nil => rfl
  | cons l ls ih => simp [image, ih (i + 1)]

theorem cutLine_image {cuts : List ℕ} {ls : List (List UInt8)} {i k : ℕ} (hc : Clean ls)
    (hi : i < ls.length) (hk : k ≤ ls[i].length) (m : List UInt8) :
    cutLine (image cuts 0 ls ++ m) (lineOff ls i + k) =
      if i ∈ cuts then none else some (image (i :: cuts) 0 ls ++ m) := by
  rw [cutLine, strchr_image m hc hi hk]
  split
  · rfl
  · rw [Option.map_some, store_image m hi]

/-- The keys of a command have a colon at their end and nowhere else, and neither are in
the first line. -/
theorem keys_marked (c : TddpCmd) : ∀ key ∈ c.keys, key = key.dropLast ++ [58] ∧
    58 ∉ key.dropLast ∧ 0 ∉ key ∧ 10 ∉ key ∧ find key c.name = none := by
  cases c <;> decide

/-- They are told apart by what comes before the colon. -/
theorem keys_suffix (c : TddpCmd) : ∀ a ∈ c.keys, ∀ b ∈ c.keys, a ≠ b →
    ¬ a.dropLast <:+ b.dropLast := by
  cases c <;> decide

theorem keys_nodup (c : TddpCmd) : c.keys.Nodup := by
  cases c <;> decide

theorem keys_ne_nil {key : List UInt8} (hk : key ∈ c.keys) : key ≠ [] := by
  intro h0
  have := (keys_marked c key hk).1
  rw [h0] at this
  simp at this

theorem meets_self (f : List UInt8 × CStr) : Meets f f = true := by
  rw [Meets, fieldLine, find_self_append]
  rfl

/-- **A key is found in the line of another field exactly if the value contains it**: no
occurrence lies across the key and the value. -/
theorem meets_iff (hf : f.1 ∈ c.keys) (hg : g.1 ∈ c.keys) (hne : f.1 ≠ g.1) :
    Meets f g = true ↔ f.1 <:+: g.2.bytes := by
  obtain ⟨hf₁, hf₂, -⟩ := keys_marked c _ hf
  obtain ⟨hg₁, hg₂, -⟩ := keys_marked c _ hg
  rw [Meets, find_isSome_iff, fieldLine, hg₁, List.append_assoc, hf₁]
  exact infix_append_cons_iff hf₂ hg₂ (keys_suffix c _ hf _ hg hne)

theorem name_plain (c : TddpCmd) : 0 ∉ c.name ∧ 10 ∉ c.name := by
  cases c <;> decide

/-- No text begins with the names of both commands. -/
theorem name_unique {l : List UInt8} (h : c.name <+: l) (h' : c'.name <+: l) : c = c' := by
  have hneither : ¬ cRegister <+: cBind ∧ ¬ cBind <+: cRegister := by decide
  have hboth := List.prefix_or_prefix_of_prefix h h'
  cases c <;> cases c'
  · rfl
  · exact absurd hboth (not_or.2 hneither)
  · exact absurd hboth (not_or.2 hneither.symm)
  · rfl

/-- The two comparisons with the names of the commands. -/
theorem startsWith_names {m : List UInt8} (h : c.name <+: m) :
    startsWith m 0 cRegister = decide (c = .register) ∧
      startsWith m 0 cBind = decide (c = .bind) := by
  have hdec : ∀ c' : TddpCmd, startsWith m 0 c'.name = decide (c = c') := fun c' => by
    rw [Bool.eq_iff_iff, decide_eq_true_iff, startsWith_iff (name_plain c').1]
    exact ⟨fun h' => name_unique h h', fun h' => h' ▸ h⟩
  exact ⟨hdec .register, hdec .bind⟩

/-- The first line names the command, whatever has been cut. -/
theorem startsWith_name (c : TddpCmd) (cuts : List ℕ) (order : List (List UInt8 × CStr))
    (rest : List UInt8) :
    startsWith (image cuts 0 (c.lines order) ++ rest) 0 cRegister = decide (c = .register) ∧
      startsWith (image cuts 0 (c.lines order) ++ rest) 0 cBind = decide (c = .bind) := by
  apply startsWith_names
  rw [TddpCmd.lines, image, List.append_assoc]
  exact List.prefix_append ..

/-- The texts the parser is given: the fields of a command in some order, with values that
have no line feeds. -/
structure Fields (c : TddpCmd) (usr pass other : CStr) (order : List (List UInt8 × CStr)) :
    Prop where
  perm : order.Perm [(pUsername, usr), (pPassword, pass), (c.otherKey, other)]
  noLineFeed : ∀ f ∈ order, 10 ∉ f.2.bytes

namespace Fields

theorem key_mem (h : Fields c usr pass other order) (hf : f ∈ order) : f.1 ∈ c.keys := by
  have := h.perm.mem_iff.1 hf
  simp only [List.mem_cons, List.not_mem_nil, or_false] at this
  rcases this with rfl | rfl | rfl <;> simp [TddpCmd.keys]

theorem clean (h : Fields c usr pass other order) : Clean (c.lines order) := by
  intro l hl
  rcases List.mem_cons.1 hl with rfl | hl
  · cases c <;> decide
  · obtain ⟨f, hf, rfl⟩ := List.mem_map.1 hl
    obtain ⟨-, -, h0, h10, -⟩ := keys_marked c _ (h.key_mem hf)
    simp [fieldLine, h0, h10, f.2.nulFree, h.noLineFeed f hf]

/-- **Where a key is found**: in the first line that meets it, before the offset `k` of
that line; and the value is read from there if the line is that of the field itself. -/
structure Located (c : TddpCmd) (order : List (List UInt8 × CStr)) (f : List UInt8 × CStr)
    (rest : List UInt8) (k : ℕ) : Prop where
  lt : order.findIdx (Meets f) + 1 < (c.lines order).length
  le : k ≤ (c.lines order)[order.findIdx (Meets f) + 1].length
  strstr_eq : (strstr (image [] 0 (c.lines order) ++ 0 :: rest) 0 f.1).map (· + f.1.length) =
    some (lineOff (c.lines order) (order.findIdx (Meets f) + 1) + k)
  own : order[order.findIdx (Meets f)]? = some f →
    (c.lines order)[order.findIdx (Meets f) + 1].drop k = f.2.bytes

theorem located (h : Fields c usr pass other order) (hf : f ∈ order) (rest : List UInt8) :
    ∃ k, Located c order f rest k := by
  obtain ⟨-, -, -, h10, hname⟩ := keys_marked c _ (h.key_mem hf)
  have hne := keys_ne_nil (h.key_mem hf)
  have hidx : (c.lines order).findIdx (fun l => (find f.1 l).isSome) =
      order.findIdx (Meets f) + 1 := by
    rw [TddpCmd.lines, List.findIdx_cons, hname, List.findIdx_map]
    rfl
  obtain ⟨hi, n, h₁, h₂⟩ := strstr_image rest h.clean hne h10
    ⟨fieldLine f, List.mem_cons_of_mem _ (List.mem_map_of_mem hf), meets_self f⟩
  simp only [hidx] at hi h₁ h₂
  refine ⟨n + f.1.length, hi, find_add_length_le hne h₁, ?_, fun hown => ?_⟩
  · rw [h₂, Option.map_some, Nat.add_assoc]
  · obtain ⟨hlt, hget⟩ := List.getElem?_eq_some_iff.1 hown
    simp only [TddpCmd.lines, List.getElem_cons_succ, List.getElem_map, hget] at h₁ ⊢
    rw [fieldLine, find_self_append] at h₁
    cases h₁
    rw [fieldLine, Nat.zero_add, List.drop_left]

/-- **The parser, line by line**: it succeeds exactly if the three keys are found in three
different lines, and then it has cut these. -/
theorem cldcmdParse_eq (h : Fields c usr pass other order) (rest : List UInt8) :
    ∃ ku kp ko, Located c order (pUsername, usr) rest ku ∧
      Located c order (pPassword, pass) rest kp ∧ Located c order (c.otherKey, other) rest ko ∧
      cldcmdParse (c.text order ++ 0 :: rest) =
        let iu := order.findIdx (Meets (pUsername, usr)) + 1
        let ip := order.findIdx (Meets (pPassword, pass)) + 1
        let io := order.findIdx (Meets (c.otherKey, other)) + 1
        if [io, ip, iu].Nodup then some ⟨0, lineOff (c.lines order) iu + ku,
          lineOff (c.lines order) ip + kp, lineOff (c.lines order) io + ko,
          image [io, ip, iu] 0 (c.lines order) ++ 0 :: rest⟩
        else none := by
  have hmem : ∀ f ∈ [(pUsername, usr), (pPassword, pass), (c.otherKey, other)], f ∈ order :=
    fun f hf => h.perm.mem_iff.2 hf
  obtain ⟨ku, hu⟩ := h.located (hmem (pUsername, usr) (by simp)) rest
  obtain ⟨kp, hp⟩ := h.located (hmem (pPassword, pass) (by simp)) rest
  obtain ⟨ko, ho⟩ := h.located (hmem (c.otherKey, other) (by simp)) rest
  refine ⟨ku, kp, ko, hu, hp, ho, ?_⟩
  obtain ⟨nu, hnu, hu'⟩ := Option.map_eq_some_iff.1 hu.strstr_eq
  obtain ⟨np, hnp, hp'⟩ := Option.map_eq_some_iff.1 hp.strstr_eq
  obtain ⟨no, hno, ho'⟩ := Option.map_eq_some_iff.1 ho.strstr_eq
  have hkey : otherKeyOf (image [] 0 (c.lines order) ++ 0 :: rest) = some c.otherKey := by
    rw [otherKeyOf, (startsWith_name c [] order _).1, (startsWith_name c [] order _).2]
    cases c <;> rfl
  simp only at hu' hp' ho' hnu hnp hno
  simp only [text_eq_image, cldcmdParse, hnu, hnp, hkey, hno, Option.bind_eq_bind,
    Option.bind_some, hu', hp', ho', cutLine_image h.clean hu.lt hu.le, List.not_mem_nil, if_false,
    cutLine_image h.clean hp.lt hp.le, Option.pure_def]
  by_cases hip : order.findIdx (Meets (pPassword, pass)) + 1 ∈
      [order.findIdx (Meets (pUsername, usr)) + 1]
  · rw [if_pos hip, if_neg fun hn => (List.nodup_cons.1 (List.nodup_cons.1 hn).2).1 hip]
    rfl
  · rw [if_neg hip, Option.bind_some, cutLine_image h.clean ho.lt ho.le]
    by_cases hio : order.findIdx (Meets (c.otherKey, other)) + 1 ∈
        [order.findIdx (Meets (pPassword, pass)) + 1, order.findIdx (Meets (pUsername, usr)) + 1]
    · rw [if_pos hio, if_neg fun hn => (List.nodup_cons.1 hn).1 hio]
      rfl
    · rw [if_neg hio,
        if_pos (List.nodup_cons.2 ⟨hio, List.nodup_cons.2 ⟨hip, List.nodup_singleton _⟩⟩)]
      rfl

/-- The three keys are found in different lines exactly if no value contains the key of a
later line. -/
theorem nodup_iff (h : Fields c usr pass other order) :
    (order.map fun f => order.findIdx (Meets f)).Nodup ↔
      order.Pairwise fun f g => ¬ g.1 <:+: f.2.bytes := by
  have hne : order.Pairwise fun f g => f.1 ≠ g.1 := by
    rw [← List.pairwise_map]
    exact (h.perm.map Prod.fst).nodup_iff.2 (keys_nodup c)
  rw [nodup_findIdx_iff fun f _ => meets_self f]
  constructor
  · intro hm
    refine (hne.and hm).imp_of_mem fun hf hg hfg hin => ?_
    rw [(meets_iff (h.key_mem hg) (h.key_mem hf) hfg.1.symm).2 hin] at hfg
    cases hfg.2
  · intro hm
    refine (hne.and hm).imp_of_mem fun hf hg hfg => ?_
    rw [← Bool.not_eq_true, meets_iff (h.key_mem hg) (h.key_mem hf) hfg.1.symm]
    exact hfg.2

/-- Then each of them is found in the line of its own field. -/
theorem own (hn : (order.map fun f => order.findIdx (Meets f)).Nodup) (hf : f ∈ order) :
    order[order.findIdx (Meets f)]? = some f := by
  obtain ⟨i, hi, rfl⟩ := List.getElem_of_mem hf
  rw [(nodup_iff_firstOwn fun f _ => meets_self f).1 hn i hi]
  exact List.getElem?_eq_getElem hi

theorem nodup_lines_iff (h : Fields c usr pass other order) :
    [order.findIdx (Meets (c.otherKey, other)) + 1, order.findIdx (Meets (pPassword, pass)) + 1,
      order.findIdx (Meets (pUsername, usr)) + 1].Nodup ↔
        (order.map fun f => order.findIdx (Meets f)).Nodup := by
  have hsucc : ∀ l : List ℕ, (l.map Nat.succ).Nodup ↔ l.Nodup := fun _ =>
    List.nodup_map_iff Nat.succ_injective
  rw [(h.perm.map fun f => order.findIdx (Meets f)).nodup_iff, ← List.nodup_reverse]
  exact hsucc [_, _, _]

theorem cldcmdParse_isSome (h : Fields c usr pass other order) (rest : List UInt8) :
    (cldcmdParse (c.text order ++ 0 :: rest)).isSome ↔
      order.Pairwise fun f g => ¬ g.1 <:+: f.2.bytes := by
  obtain ⟨ku, kp, ko, -, -, -, heq⟩ := h.cldcmdParse_eq rest
  simp only at heq
  rw [heq, ← h.nodup_iff, ← h.nodup_lines_iff]
  split_ifs with hn
  · simp [hn]
  · simp [hn]

/-- What the parser returns: the three values, and the text with some of its lines cut. -/
theorem cldcmdParse_some (h : Fields c usr pass other order) {rest : List UInt8} {r : CldCmd}
    (hr : cldcmdParse (c.text order ++ 0 :: rest) = some r) :
    (r.usrStr = usr ∧ r.passStr = pass ∧ r.otherStr = other) ∧ r.cmd = 0 ∧
      ∃ cuts, r.mem = image cuts 0 (c.lines order) ++ 0 :: rest := by
  obtain ⟨ku, kp, ko, hu, hp, ho, heq⟩ := h.cldcmdParse_eq rest
  simp only at heq
  rw [heq] at hr
  split_ifs at hr with hn
  cases hr
  have hown : ∀ f ∈ [(pUsername, usr), (pPassword, pass), (c.otherKey, other)],
      order[order.findIdx (Meets f)]? = some f := fun f hf =>
    Fields.own (h.nodup_lines_iff.1 hn) (h.perm.mem_iff.2 hf)
  refine ⟨⟨CStr.ext ?_, CStr.ext ?_, CStr.ext ?_⟩, rfl, _, rfl⟩
  · exact (read_image _ h.clean hu.lt hu.le (by simp)).trans (hu.own (hown _ (by simp)))
  · exact (read_image _ h.clean hp.lt hp.le (by simp)).trans (hp.own (hown _ (by simp)))
  · exact (read_image _ h.clean ho.lt ho.le (by simp)).trans (ho.own (hown _ (by simp)))

end Fields

end Lemmas

/-- **No value is taken for a part of another field.**  On the text of a command with its
three fields in any order the parser returns exactly the three values, or it fails; and
it fails exactly if a value contains the key of a later line. -/
theorem cldcmdParse_text {c : TddpCmd} {usr pass other : CStr}
    {order : List (List UInt8 × CStr)} (h : Fields c usr pass other order) (rest : List UInt8) :
    (∀ r, cldcmdParse (c.text order ++ 0 :: rest) = some r →
      r.usrStr = usr ∧ r.passStr = pass ∧ r.otherStr = other) ∧
    ((cldcmdParse (c.text order ++ 0 :: rest)).isSome ↔
      order.Pairwise fun f g => ¬ g.1 <:+: f.2.bytes) :=
  ⟨fun _ hr => (h.cldcmdParse_some hr).1, h.cldcmdParse_isSome rest⟩

/-- A text to which the law applies: a password that contains the key of an earlier line is
read back as it is. -/
theorem cldcmdParse_text_bind : ∃ r, cldcmdParse (TddpCmd.bind.text
    [(pDevicename, CStr.lit "cam"), (pUsername, CStr.lit "u"),
      (pPassword, CStr.lit "USERNAME:x")] ++ [0]) = some r ∧ r.usrStr = CStr.lit "u" ∧
        r.passStr = CStr.lit "USERNAME:x" ∧ r.otherStr = CStr.lit "cam" := by
  have h : Fields .bind (CStr.lit "u") (CStr.lit "USERNAME:x") (CStr.lit "cam")
      [(pDevicename, CStr.lit "cam"), (pUsername, CStr.lit "u"),
        (pPassword, CStr.lit "USERNAME:x")] := ⟨by decide, by decide⟩
  obtain ⟨r, hr⟩ := Option.isSome_iff_exists.1 ((cldcmdParse_text h []).2.2 (by decide))
  exact ⟨r, hr, (cldcmdParse_text h []).1 r hr⟩

/-! ## Which texts are accepted -/

namespace TddpCmd

/-- The call of `swCloudCommand` for a command with these values. -/
def call (c : TddpCmd) (usr pass other : CStr) : CloudM P CommonStatus :=
  match c with
  | .register => swCloudRegUsr (some other) (some usr) (some pass)
  | .bind => bindCommand usr pass other

end TddpCmd

/-- **The texts of a command**: they begin with its name, `usr`, `pass` and `other` are the
lines from the offsets `pu`, `pp` and `po` on, each just after the first occurrence of its
key, and the three lines have different ends. -/
structure Accepts (c : TddpCmd) (t : CStr) (pu pp po : ℕ) (usr pass other : CStr) : Prop where
  name : c.name <+: t.bytes
  usr_key : JustAfter pUsername t.bytes pu
  pass_key : JustAfter pPassword t.bytes pp
  other_key : JustAfter c.otherKey t.bytes po
  usr_line : LineFrom t.bytes pu usr.bytes
  pass_line : LineFrom t.bytes pp pass.bytes
  other_line : LineFrom t.bytes po other.bytes
  ends_differ : [pu + usr.length, pp + pass.length, po + other.length].Nodup

section Accepted

variable {c : TddpCmd} {t : CStr} {rest : List UInt8} {r : CldCmd} {pu pp po : ℕ}
  {usr pass other : CStr}

theorem name_isPrefix_iff (rest : List UInt8) :
    c.name <+: t.bytes ++ 0 :: rest ↔ c.name <+: t.bytes :=
  prefix_append_cons_iff (name_plain c).1

theorem otherKeyOf_iff {key : List UInt8} : otherKeyOf (t.bytes ++ 0 :: rest) = some key ↔
    ∃ c : TddpCmd, c.name <+: t.bytes ∧ key = c.otherKey := by
  constructor
  · intro h
    unfold otherKeyOf at h
    split_ifs at h with h₁ h₂
    · cases h
      have hname := (startsWith_iff (name_plain .register).1).1 h₁
      exact ⟨.register, (name_isPrefix_iff rest).1 hname, rfl⟩
    · cases h
      have hname := (startsWith_iff (name_plain .bind).1).1 h₂
      exact ⟨.bind, (name_isPrefix_iff rest).1 hname, rfl⟩
  · rintro ⟨c, hc, rfl⟩
    obtain ⟨h₁, h₂⟩ := startsWith_names ((name_isPrefix_iff rest).2 hc)
    unfold otherKeyOf
    rw [h₁, h₂]
    cases c <;> rfl

/-- One cut, in the memory of a text that has been cut before. -/
theorem cutLine_iff {m m' : List UInt8} {pos : ℕ} (h : Cut (t.bytes ++ 0 :: rest) m)
    (hpos : pos ≤ t.bytes.length) : cutLine m pos = some m' ↔ ∃ v : CStr,
      LineFrom t.bytes pos v.bytes ∧ m[pos + v.length]? = some 10 ∧
        m' = m.set (pos + v.length) 0 := by
  unfold cutLine
  simp only [Option.map_eq_some_iff, h.strchr_iff, strchr_text_iff t rest hpos]
  constructor
  · rintro ⟨a, ⟨⟨v, hv, rfl⟩, ha⟩, rfl⟩
    exact ⟨v, hv, ha, store_singleton (List.getElem?_eq_some_iff.1 ha).1 0⟩
  · rintro ⟨v, hv, ha, rfl⟩
    exact ⟨_, ⟨⟨v, hv, rfl⟩, ha⟩, store_singleton (List.getElem?_eq_some_iff.1 ha).1 0⟩

/-- The end of a line of the text, in the memory. -/
theorem getElem?_lineEnd {pos : ℕ} {v : CStr} (h : LineFrom t.bytes pos v.bytes)
    (hpos : pos ≤ t.bytes.length) (rest : List UInt8) :
    (t.bytes ++ 0 :: rest)[pos + v.length]? = some 10 :=
  (strchr_eq_some_iff.1 ((strchr_text_iff t rest hpos).2 ⟨v, h, rfl⟩)).2.1

/-- The memory the parser leaves behind: the ends of the three lines are overwritten. -/
def cutMemory (m : List UInt8) (a b c : ℕ) : List UInt8 := ((m.set a 0).set b 0).set c 0

/-- **Three cuts in a row**: each line is that of the untouched text, and its end must not
have been overwritten before. -/
theorem cutLines_iff {m : List UInt8} (hu : pu ≤ t.bytes.length) (hp : pp ≤ t.bytes.length)
    (ho : po ≤ t.bytes.length) :
    (∃ m₁, cutLine (t.bytes ++ 0 :: rest) pu = some m₁ ∧ ∃ m₂, cutLine m₁ pp = some m₂ ∧
      cutLine m₂ po = some m) ↔
    ∃ usr pass other : CStr, LineFrom t.bytes pu usr.bytes ∧ LineFrom t.bytes pp pass.bytes ∧
      LineFrom t.bytes po other.bytes ∧
      [pu + usr.length, pp + pass.length, po + other.length].Nodup ∧
      m = cutMemory (t.bytes ++ 0 :: rest) (pu + usr.length) (pp + pass.length)
        (po + other.length) := by
  have hnodup : ∀ a b c : ℕ, [a, b, c].Nodup ↔ a ≠ b ∧ a ≠ c ∧ b ≠ c := fun a b c => by
    simp [and_assoc]
  simp only [hnodup]
  constructor
  · rintro ⟨m₁, h₁, m₂, h₂, h₃⟩
    obtain ⟨usr, hlu, -, rfl⟩ := (cutLine_iff (Cut.refl _) hu).1 h₁
    have hcut₁ := (Cut.refl _).set (getElem?_lineEnd hlu hu rest)
    obtain ⟨pass, hlp, hend₂, rfl⟩ := (cutLine_iff hcut₁ hp).1 h₂
    have hcut₂ := hcut₁.set (getElem?_lineEnd hlp hp rest)
    obtain ⟨other, hlo, hend₃, rfl⟩ := (cutLine_iff hcut₂ ho).1 h₃
    obtain ⟨hne₁, -⟩ := Cut.getElem?_set_iff.1 hend₂
    obtain ⟨hne₂, hend⟩ := Cut.getElem?_set_iff.1 hend₃
    obtain ⟨hne₃, -⟩ := Cut.getElem?_set_iff.1 hend
    exact ⟨usr, pass, other, hlu, hlp, hlo, ⟨hne₁, hne₃, hne₂⟩, rfl⟩
  · rintro ⟨usr, pass, other, hlu, hlp, hlo, ⟨hne₁, hne₃, hne₂⟩, rfl⟩
    have heu := getElem?_lineEnd hlu hu rest
    have hep := getElem?_lineEnd hlp hp rest
    have heo := getElem?_lineEnd hlo ho rest
    have hcut₁ := (Cut.refl _).set heu
    have hcut₂ := hcut₁.set hep
    have hend₂ := Cut.getElem?_set_iff.2 ⟨hne₁, hep⟩
    have hend₃ := Cut.getElem?_set_iff.2 ⟨hne₂, Cut.getElem?_set_iff.2 ⟨hne₃, heo⟩⟩
    exact ⟨_, (cutLine_iff (Cut.refl _) hu).2 ⟨usr, hlu, heu, rfl⟩,
      _, (cutLine_iff hcut₁ hp).2 ⟨pass, hlp, hend₂, rfl⟩,
      (cutLine_iff hcut₂ ho).2 ⟨other, hlo, hend₃, rfl⟩⟩

theorem pUsername_ne_nil : pUsername ≠ [] := keys_ne_nil (c := .bind) (List.mem_cons_self ..)

theorem pPassword_ne_nil : pPassword ≠ [] :=
  keys_ne_nil (c := .bind) (List.mem_cons_of_mem _ (List.mem_cons_self ..))

theorem otherKey_ne_nil (c : TddpCmd) : c.otherKey ≠ [] :=
  keys_ne_nil (c := c) (List.mem_of_mem_getLast? rfl)

/-- **The parser on any text**: it succeeds exactly with the offsets and the three lines of
a command, and the ends of these lines are what it has overwritten. -/
theorem cldcmdParse_iff : cldcmdParse (t.bytes ++ 0 :: rest) = some r ↔
    ∃ c usr pass other, Accepts c t r.usr r.pass r.other usr pass other ∧ r.cmd = 0 ∧
      r.mem = cutMemory (t.bytes ++ 0 :: rest) (r.usr + usr.length) (r.pass + pass.length)
        (r.other + other.length) := by
  unfold cldcmdParse
  simp only [Option.bind_eq_bind, Option.bind_eq_some_iff, Option.pure_def, Option.some.injEq]
  constructor
  · rintro ⟨nu, hu, np, hp, key, hkey, no, ho, m₁, h₁, m₂, h₂, m₃, h₃, rfl⟩
    obtain ⟨c, hc, rfl⟩ := otherKeyOf_iff.1 hkey
    have hju := (strstr_text_iff pUsername_ne_nil t rest).1 ⟨nu, hu, rfl⟩
    have hjp := (strstr_text_iff pPassword_ne_nil t rest).1 ⟨np, hp, rfl⟩
    have hjo := (strstr_text_iff (otherKey_ne_nil c) t rest).1 ⟨no, ho, rfl⟩
    obtain ⟨usr, pass, other, hlu, hlp, hlo, hdiff, rfl⟩ :=
      (cutLines_iff (hju.le_length pUsername_ne_nil) (hjp.le_length pPassword_ne_nil)
        (hjo.le_length (otherKey_ne_nil c))).1 ⟨m₁, h₁, m₂, h₂, h₃⟩
    exact ⟨c, usr, pass, other, ⟨hc, hju, hjp, hjo, hlu, hlp, hlo, hdiff⟩, rfl, rfl⟩
  · rintro ⟨c, usr, pass, other, h, hcmd, hmem⟩
    obtain ⟨nu, hu, hu'⟩ := (strstr_text_iff pUsername_ne_nil t rest).2 h.usr_key
    obtain ⟨np, hp, hp'⟩ := (strstr_text_iff pPassword_ne_nil t rest).2 h.pass_key
    obtain ⟨no, ho, ho'⟩ := (strstr_text_iff (otherKey_ne_nil c) t rest).2 h.other_key
    obtain ⟨m₁, h₁, m₂, h₂, h₃⟩ :=
      (cutLines_iff (h.usr_key.le_length pUsername_ne_nil) (h.pass_key.le_length pPassword_ne_nil)
        (h.other_key.le_length (otherKey_ne_nil c))).2
          ⟨usr, pass, other, h.usr_line, h.pass_line, h.other_line, h.ends_differ, hmem⟩
    refine ⟨nu, hu, np, hp, _, otherKeyOf_iff.2 ⟨c, h.name, rfl⟩, no, ho, m₁, hu' ▸ h₁,
      m₂, hp' ▸ h₂, r.mem, ho' ▸ h₃, ?_⟩
    cases r with
    | mk cmd pu pp po mem =>
      simp only at hcmd hu' hp' ho'
      rw [hcmd, hu', hp', ho']

/-- A byte that has been overwritten once stays a NUL. -/
theorem getElem?_cutMemory {m : List UInt8} {a b d i : ℕ} (hi : m[i]? = some 10)
    (h : i = a ∨ i = b ∨ i = d) : (cutMemory m a b d)[i]? = some 0 := by
  have hlt := (List.getElem?_eq_some_iff.1 hi).1
  have hself : ∀ m' : List UInt8, m'.length = m.length → (m'.set i 0)[i]? = some 0 := fun m' hm' =>
    List.getElem?_set_self (hm' ▸ hlt)
  have hkeep : ∀ (m' : List UInt8) (k : ℕ), m'[i]? = some 0 → (m'.set k 0)[i]? = some 0 :=
    fun m' k hm' => by
      by_cases hk : k = i
      · subst hk
        exact List.getElem?_set_self (List.getElem?_eq_some_iff.1 hm').1
      · rw [List.getElem?_set_ne hk]
        exact hm'
  unfold cutMemory
  rcases h with rfl | rfl | rfl
  · exact hkeep _ _ (hkeep _ _ (hself _ rfl))
  · exact hkeep _ _ (hself _ (List.length_set ..))
  · exact hself _ (by rw [List.length_set, List.length_set])

/-- What the parser returns with 0, in terms of the text. -/
theorem cldcmdParse_accepted (h : cldcmdParse (t.bytes ++ 0 :: rest) = some r) :
    ∃ c, Accepts c t r.usr r.pass r.other r.usrStr r.passStr r.otherStr ∧ r.cmd = 0 ∧
      c.name <+: r.mem := by
  obtain ⟨c, usr, pass, other, hacc, hcmd, hmem⟩ := cldcmdParse_iff.1 h
  have hu := hacc.usr_key.le_length pUsername_ne_nil
  have hp := hacc.pass_key.le_length pPassword_ne_nil
  have ho := hacc.other_key.le_length (otherKey_ne_nil c)
  have heu := getElem?_lineEnd hacc.usr_line hu rest
  have hep := getElem?_lineEnd hacc.pass_line hp rest
  have heo := getElem?_lineEnd hacc.other_line ho rest
  have hcut : Cut (t.bytes ++ 0 :: rest) r.mem :=
    hmem ▸ (((Cut.refl _).set heu).set hep).set heo
  have hread : ∀ {pos : ℕ} {v : CStr}, LineFrom t.bytes pos v.bytes → pos ≤ t.bytes.length →
      r.mem[pos + v.length]? = some 0 → CStr.read (r.mem.drop pos) = v :=
    fun hl hpos hend => CStr.ext (hcut.read_line (hl.memory hpos rest) (CStr.nulFree _) hend)
  have husr : r.usrStr = usr :=
    hread hacc.usr_line hu (hmem ▸ getElem?_cutMemory heu (Or.inl rfl))
  have hpass : r.passStr = pass :=
    hread hacc.pass_line hp (hmem ▸ getElem?_cutMemory hep (Or.inr (Or.inl rfl)))
  have hother : r.otherStr = other :=
    hread hacc.other_line ho (hmem ▸ getElem?_cutMemory heo (Or.inr (Or.inr rfl)))
  refine ⟨c, ?_, hcmd, ?_⟩
  · rw [husr, hpass, hother]
    exact hacc
  · exact (hcut.prefix_iff (name_plain c).1 (name_plain c).2).2
      ((name_isPrefix_iff rest).2 hacc.name)

/-- The tests of `swCloudCommand` choose the command that was parsed. -/
theorem runCommand_eq (h0 : r.cmd = 0) (hname : c.name <+: r.mem) :
    (runCommand r : CloudM P CommonStatus) = c.call r.usrStr r.passStr r.otherStr := by
  obtain ⟨h₁, h₂⟩ := startsWith_names hname
  unfold runCommand
  rw [h0, h₁, h₂]
  cases c <;> rfl

/-- **What `swCloudCommand` does with a command**: it makes the call with the three values, and
answers with the code of its result. -/
theorem swCloudCommand_eq (hr : cldcmdParse (t.bytes ++ 0 :: rest) = some r) (h0 : r.cmd = 0)
    (hname : c.name <+: r.mem) (output : List UInt8) :
    (swCloudCommand (some (t.bytes ++ 0 :: rest)) (some output) : CloudM P _) = do
      let retval ← c.call r.usrStr r.passStr r.otherStr
      return some (store output 0 (tddpCode retval ++ [0])) := by
  unfold swCloudCommand
  simp only [hr, runCommand_eq h0 hname]

end Accepted

/-- **What the parser accepts.**  On any text it returns 0 exactly if the text is one of a
command; the three strings it returns are then the lines of that text, and
`swCloudCommand` makes the call of that command with them and answers with its result.  If the
parser returns -1, `swCloudCommand` writes `1004` and does nothing else. -/
theorem cldcmdParse_accepts (P : CldProtocol) (t : CStr) (rest : List UInt8) :
    ((cldcmdParse (t.bytes ++ 0 :: rest)).isSome ↔
      ∃ c pu pp po usr pass other, Accepts c t pu pp po usr pass other) ∧
    (∀ r, cldcmdParse (t.bytes ++ 0 :: rest) = some r →
      ∃ c, Accepts c t r.usr r.pass r.other r.usrStr r.passStr r.otherStr ∧
        otherKeyOf (t.bytes ++ 0 :: rest) = some c.otherKey ∧
        (runCommand r : CloudM P CommonStatus) = c.call r.usrStr r.passStr r.otherStr ∧
        ∀ output, (swCloudCommand (some (t.bytes ++ 0 :: rest)) (some output) : CloudM P _) = do
          let retval ← c.call r.usrStr r.passStr r.otherStr
          return some (store output 0 (tddpCode retval ++ [0]))) ∧
    (cldcmdParse (t.bytes ++ 0 :: rest) = none →
      ∀ output, (swCloudCommand (some (t.bytes ++ 0 :: rest)) (some output) : CloudM P _) =
        pure (some (store output 0 (text "1004" ++ [0])))) := by
  refine ⟨⟨fun h => ?_, ?_⟩, fun r hr => ?_, fun h output => ?_⟩
  · obtain ⟨r, hr⟩ := Option.isSome_iff_exists.1 h
    obtain ⟨c, hacc, -⟩ := cldcmdParse_accepted hr
    exact ⟨c, _, _, _, _, _, _, hacc⟩
  · rintro ⟨c, pu, pp, po, usr, pass, other, hacc⟩
    have hr : cldcmdParse (t.bytes ++ 0 :: rest) = some ⟨0, pu, pp, po, cutMemory
        (t.bytes ++ 0 :: rest) (pu + usr.length) (pp + pass.length) (po + other.length)⟩ :=
      cldcmdParse_iff.2 ⟨c, usr, pass, other, hacc, rfl, rfl⟩
    rw [hr]
    rfl
  · obtain ⟨c, hacc, h0, hname⟩ := cldcmdParse_accepted hr
    exact ⟨c, hacc, otherKeyOf_iff.2 ⟨c, hacc.name, rfl⟩, runCommand_eq h0 hname,
      swCloudCommand_eq hr h0 hname⟩
  · simp only [swCloudCommand, h]

end SwCloud
