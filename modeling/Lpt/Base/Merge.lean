import Mathlib.Data.List.Basic

/-!
# A log with several writers

A log that is only appended to, by writers that do not wait for each other.  Its entries are
kept with their writers, so that it can be said what became of what each of them wrote.

* `tag` — what one writer appends.
* `own` — what a writer has written, in its order.
* `content` — the log as it is read.
* `content_of_sole` — with one writer the log is what that has written.
-/

namespace Merge

variable {ι α : Type} {i j : ι} {l l' : List (ι × α)} {bs : List α}

/-- `bs`, written by `i`. -/
def tag (i : ι) (bs : List α) : List (ι × α) := bs.map (Prod.mk i)

/-- The log as it is read. -/
def content (l : List (ι × α)) : List α := l.map Prod.snd

@[simp] theorem content_nil : content ([] : List (ι × α)) = [] := rfl

@[simp] theorem content_append : content (l ++ l') = content l ++ content l' := List.map_append

@[simp] theorem content_tag (i : ι) (bs : List α) : content (tag i bs) = bs := by
  rw [content, tag, List.map_map]
  exact List.map_id bs

section Own

variable [DecidableEq ι]

/-- What `i` has written, in its order. -/
def own (i : ι) (l : List (ι × α)) : List α := content (l.filter fun e => decide (e.1 = i))

@[simp] theorem own_nil (i : ι) : own i ([] : List (ι × α)) = [] := rfl

@[simp] theorem own_append (i : ι) : own i (l ++ l') = own i l ++ own i l' := by
  rw [own, List.filter_append, content_append]
  rfl

@[simp] theorem own_tag_self (i : ι) (bs : List α) : own i (tag i bs) = bs := by
  rw [own, List.filter_eq_self.2, content_tag]
  intro e he
  obtain ⟨b, -, rfl⟩ := List.mem_map.1 he
  exact decide_eq_true rfl

theorem own_tag_of_ne (h : j ≠ i) (bs : List α) : own i (tag j bs) = [] := by
  rw [own, List.filter_eq_nil_iff.2, content_nil]
  intro e he
  obtain ⟨b, -, rfl⟩ := List.mem_map.1 he
  simpa using h

/-- **With one writer** the log is what that has written. -/
theorem content_of_sole (h : ∀ j, j ≠ i → own j l = []) : content l = own i l := by
  have hall : ∀ e ∈ l, e.1 = i := by
    intro e he
    by_contra hne
    have hmem : e.2 ∈ own e.1 l :=
      List.mem_map_of_mem (List.mem_filter.2 ⟨he, decide_eq_true rfl⟩)
    rw [h e.1 hne] at hmem
    cases hmem
  rw [own, List.filter_eq_self.2 fun e he => decide_eq_true (hall e he)]

end Own

end Merge
