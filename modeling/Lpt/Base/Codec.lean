import Mathlib

/-!
# Codes that end by themselves

What has been written value by value, without anything between the values, can be read value by
value if every code tells where it ends.  A reader need not find out everything about a value.

* `Codec` — a code, the values that it is good for, and what is read of them.
* `Codec.decodeAll` — a whole stream, value by value.
* `decodeAll_flatMap` — it gives back what can be read of all values that were written.
* `fieldsOf_joinFields` — fields that are each ended by a separator: what is read is the fields
  cut at the separators in them, so it is as many as there were exactly if there are none.
-/

/-- A code for the values that are `Valid`.  Read off the front of anything that begins with the
code of a value, it gives what can be `seen` of the value, and the rest. -/
structure Codec (α γ β : Type) where
  Valid : α → Prop
  seen : α → γ
  enc : α → List β
  dec : List β → Option (γ × List β)
  enc_ne_nil : ∀ a, Valid a → enc a ≠ []
  dec_enc : ∀ a rest, Valid a → dec (enc a ++ rest) = some (seen a, rest)

namespace Codec

variable {α γ β : Type} {c : Codec α γ β} {as : List α} {n : ℕ}

/-- At most `n` values off a stream, if it ends with one of them. -/
def decodeUpTo (c : Codec α γ β) : ℕ → List β → Option (List γ)
  | 0, bs => if bs.isEmpty then some [] else none
  | n + 1, bs =>
      if bs.isEmpty then some []
      else (c.dec bs).bind fun r => (c.decodeUpTo n r.2).map (r.1 :: ·)

/-- All values of a stream, if it ends with a value. -/
def decodeAll (c : Codec α γ β) (bs : List β) : Option (List γ) := c.decodeUpTo bs.length bs

theorem decodeUpTo_nil (c : Codec α γ β) (n : ℕ) : c.decodeUpTo n [] = some [] := by
  cases n <;> rfl

theorem decodeUpTo_append {a : α} (ha : c.Valid a) (n : ℕ) (bs : List β) :
    c.decodeUpTo (n + 1) (c.enc a ++ bs) = (c.decodeUpTo n bs).map (c.seen a :: ·) := by
  have hne : (c.enc a ++ bs).isEmpty = false :=
    List.isEmpty_eq_false_iff.2 fun h => c.enc_ne_nil a ha (List.append_eq_nil_iff.1 h).1
  rw [decodeUpTo, hne, if_neg Bool.false_ne_true, c.dec_enc a bs ha, Option.bind_some]

/-- Every code takes up room, so the length of the stream is enough. -/
theorem decodeUpTo_flatMap (h : ∀ a ∈ as, c.Valid a) (hn : (as.flatMap c.enc).length ≤ n) :
    c.decodeUpTo n (as.flatMap c.enc) = some (as.map c.seen) := by
  induction as generalizing n with
  | nil => exact c.decodeUpTo_nil n
  | cons a as ih =>
    have ha := h a (List.mem_cons_self ..)
    have hpos := List.length_pos_of_ne_nil (c.enc_ne_nil a ha)
    rw [List.flatMap_cons, List.length_append] at hn
    obtain ⟨n, rfl⟩ : ∃ m, n = m + 1 := ⟨n - 1, by omega⟩
    rw [List.flatMap_cons, decodeUpTo_append ha,
      ih (fun b hb => h b (List.mem_cons_of_mem _ hb)) (by omega), Option.map_some, List.map_cons]

/-- **A stream of codes** is read value by value. -/
theorem decodeAll_flatMap (h : ∀ a ∈ as, c.Valid a) :
    c.decodeAll (as.flatMap c.enc) = some (as.map c.seen) :=
  decodeUpTo_flatMap h le_rfl

/-! ## Fields -/

section Fields

variable [DecidableEq α] {sep : α} {fs : List (List α)} {f : List α}

/-- The fields, each ended by the separator. -/
def joinFields (sep : α) (fs : List (List α)) : List α := fs.flatMap (· ++ [sep])

/-- The fields of a text, if the last of them is ended. -/
def fieldsOf (sep : α) (xs : List α) : Option (List (List α)) :=
  if (xs.splitOn sep).getLast? = some [] then some (xs.splitOn sep).dropLast else none

omit [DecidableEq α] in
theorem joinFields_cons (f : List α) (fs : List (List α)) :
    joinFields sep (f :: fs) = f ++ sep :: joinFields sep fs := by
  unfold joinFields
  rw [List.flatMap_cons, List.append_assoc, List.singleton_append]

theorem splitOn_joinFields (fs : List (List α)) :
    (joinFields sep fs).splitOn sep = fs.flatMap (List.splitOn sep) ++ [[]] := by
  induction fs with
  | nil => exact List.splitOn_nil sep
  | cons f fs ih =>
    rw [joinFields_cons, List.splitOn_append_cons_self, ih, List.flatMap_cons, List.append_assoc]

/-- **What is read of fields** is the fields, cut at the separators in them. -/
theorem fieldsOf_joinFields (fs : List (List α)) :
    fieldsOf sep (joinFields sep fs) = some (fs.flatMap (List.splitOn sep)) := by
  unfold fieldsOf
  rw [splitOn_joinFields, List.getLast?_concat, if_pos rfl, List.dropLast_concat]

/-- A separator makes two fields of one. -/
theorem one_lt_length_splitOn (h : sep ∈ f) : 1 < (f.splitOn sep).length := by
  obtain ⟨a, b, rfl⟩ := List.append_of_mem h
  have ha := List.length_pos_of_ne_nil (List.splitOn_ne_nil sep a)
  have hb := List.length_pos_of_ne_nil (List.splitOn_ne_nil sep b)
  rw [List.splitOn_append_cons_self, List.length_append]
  omega

theorem flatMap_splitOn_eq (h : ∀ f ∈ fs, sep ∉ f) : fs.flatMap (List.splitOn sep) = fs := by
  induction fs with
  | nil => rfl
  | cons f fs ih =>
    rw [List.flatMap_cons, List.splitOn_eq_singleton (h f (List.mem_cons_self ..)),
      ih fun g hg => h g (List.mem_cons_of_mem _ hg), List.singleton_append]

/-- There are never fewer fields than there were. -/
theorem le_length_flatMap_splitOn (sep : α) (fs : List (List α)) :
    fs.length ≤ (fs.flatMap (List.splitOn sep)).length := by
  induction fs with
  | nil => exact le_rfl
  | cons f fs ih =>
    have hf := List.length_pos_of_ne_nil (List.splitOn_ne_nil sep f)
    rw [List.flatMap_cons, List.length_append, List.length_cons]
    omega

/-- **As many fields as there were** are read exactly if there is no separator in them. -/
theorem length_flatMap_splitOn_iff :
    (fs.flatMap (List.splitOn sep)).length = fs.length ↔ ∀ f ∈ fs, sep ∉ f := by
  refine ⟨fun h f hf hsep => ?_, fun h => by rw [flatMap_splitOn_eq h]⟩
  obtain ⟨before, after, rfl⟩ := List.append_of_mem hf
  have hcut := one_lt_length_splitOn hsep
  have hbefore := le_length_flatMap_splitOn sep before
  have hafter := le_length_flatMap_splitOn sep after
  rw [List.flatMap_append, List.flatMap_cons, List.length_append, List.length_append,
    List.length_append, List.length_cons] at h
  omega

end Fields

end Codec
