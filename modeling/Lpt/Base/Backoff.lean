import Mathlib

/-!
# Retrying with a doubling interval: a general theory

A timer is ticked at a fixed pace.  When it has waited for its interval, an attempt is
due, the interval is doubled, and the waiting starts again; after a limited number of
attempts it does nothing any more.  The tick that makes an attempt due counts as the
first pace of the next wait, so that the first wait is longer than the others by one tick.

* `Plan` — the base interval, the pace and the limit; `Timer` — the state.
* `Phase` — the state of a timer together with everything it has done so far.
* `Plan.log_prefix` — which steps are attempts, in closed form.
-/

namespace Backoff

/-- The parameters of a timer. -/
structure Plan where
  /-- The interval before the first attempt. -/
  base : ℕ
  /-- What one tick adds to the time waited. -/
  pace : ℕ
  /-- The number of attempts allowed. -/
  limit : ℕ

/-- The state of a timer. -/
structure Timer where
  /-- The attempts counted so far. -/
  tries : ℕ
  /-- The present interval. -/
  wait : ℕ
  /-- The time waited. -/
  waited : ℕ
  /-- An attempt is due. -/
  due : Bool
  deriving DecidableEq

namespace Plan

variable (c : Plan)

/-- A timer that has not been ticked. -/
def start : Timer := ⟨0, c.base, 0, false⟩

/-- One step: the attempt that is due, which fails, or a tick. -/
def step (t : Timer) : Timer :=
  if t.due then { t with due := false }
  else if t.tries < c.limit then
    if t.wait ≤ t.waited then ⟨t.tries + 1, 2 * t.wait, c.pace, true⟩
    else { t with waited := t.waited + c.pace }
  else t

/-- The timer after `n` steps. -/
def run : ℕ → Timer
  | 0 => c.start
  | n + 1 => c.step (run n)

/-- Which of the first `n` steps are attempts, first one first. -/
def log : ℕ → List Bool
  | 0 => []
  | n + 1 => log n ++ [(c.run n).due]

/-- The number of ticks before the next attempt, after `a` attempts. -/
def gap : ℕ → ℕ
  | 0 => c.base ⌈/⌉ c.pace + 1
  | a + 1 => c.base * 2 ^ (a + 1) ⌈/⌉ c.pace

/-- The log of the first `m` attempts. -/
def rounds (m : ℕ) : List Bool :=
  (List.range m).flatMap fun a => List.replicate (c.gap a) false ++ [true]

/-- The paces that a wait has ahead when it starts. -/
def ahead : ℕ → ℕ
  | 0 => 0
  | _ + 1 => 1

/-- The timer `t` after the steps with the log `l`. -/
inductive Phase : Timer → List Bool → Prop
  /-- It has made `a` attempts and ticked `d` times since. -/
  | waiting {a d : ℕ} : a < c.limit → d < c.gap a →
      Phase ⟨a, c.base * 2 ^ a, c.pace * (d + ahead a), false⟩
        (c.rounds a ++ List.replicate d false)
  /-- The next attempt is due. -/
  | due {a : ℕ} : a < c.limit →
      Phase ⟨a + 1, c.base * 2 ^ (a + 1), c.pace, true⟩
        (c.rounds a ++ List.replicate (c.gap a) false)
  /-- All attempts have been made. -/
  | spent {d waited : ℕ} :
      Phase ⟨c.limit, c.base * 2 ^ c.limit, waited, false⟩
        (c.rounds c.limit ++ List.replicate d false)

variable {c} {t : Timer} {l : List Bool}

theorem rounds_succ (m : ℕ) :
    c.rounds (m + 1) = c.rounds m ++ (List.replicate (c.gap m) false ++ [true]) := by
  unfold rounds
  rw [List.range_succ, List.flatMap_append, List.flatMap_singleton]

/-- The attempt is due with the tick that makes the gap full. -/
theorem wait_le_iff (hp : 0 < c.pace) (a d : ℕ) :
    c.base * 2 ^ a ≤ c.pace * (d + ahead a) ↔ c.gap a ≤ d + 1 := by
  cases a with
  | zero =>
    show c.base * 2 ^ 0 ≤ c.pace * (d + 0) ↔ c.base ⌈/⌉ c.pace + 1 ≤ d + 1
    rw [pow_zero, mul_one, add_zero, Nat.add_le_add_iff_right, ceilDiv_le_iff_le_mul hp]
  | succ a =>
    show c.base * 2 ^ (a + 1) ≤ c.pace * (d + 1) ↔ c.base * 2 ^ (a + 1) ⌈/⌉ c.pace ≤ d + 1
    rw [ceilDiv_le_iff_le_mul hp]

theorem gap_pos (hb : 0 < c.base) (hp : 0 < c.pace) (a : ℕ) : 0 < c.gap a := by
  cases a with
  | zero => exact Nat.succ_pos _
  | succ a =>
    have h0 : ¬ c.base * 2 ^ (a + 1) ⌈/⌉ c.pace ≤ 0 := by
      rw [ceilDiv_le_iff_le_mul hp, mul_zero]
      have : 0 < c.base * 2 ^ (a + 1) := by positivity
      omega
    exact not_le.1 h0

/-- A step moves a timer from phase to phase. -/
theorem Phase.step (hb : 0 < c.base) (hp : 0 < c.pace) (h : c.Phase t l) :
    c.Phase (c.step t) (l ++ [t.due]) := by
  cases h with
  | @waiting a d ha hd =>
    have hlog : c.rounds a ++ List.replicate d false ++ [false] =
        c.rounds a ++ List.replicate (d + 1) false := by
      rw [List.append_assoc, List.replicate_succ']
    unfold Plan.step
    simp only [Bool.false_eq_true, if_false, if_pos ha, hlog]
    by_cases hw : c.base * 2 ^ a ≤ c.pace * (d + ahead a)
    · have hfull : d + 1 = c.gap a := le_antisymm hd ((wait_le_iff hp a d).1 hw)
      have hdouble : 2 * (c.base * 2 ^ a) = c.base * 2 ^ (a + 1) := by ring
      rw [if_pos hw, hfull, hdouble]
      exact .due ha
    · have hroom : d + 1 < c.gap a := not_le.1 (mt (wait_le_iff hp a d).2 hw)
      have hnext : c.pace * (d + ahead a) + c.pace = c.pace * (d + 1 + ahead a) := by ring
      rw [if_neg hw, hnext]
      exact .waiting ha hroom
  | @due a ha =>
    have hlog : c.rounds a ++ List.replicate (c.gap a) false ++ [true] =
        c.rounds (a + 1) ++ List.replicate 0 false := by
      rw [rounds_succ, List.replicate_zero, List.append_nil, List.append_assoc]
    unfold Plan.step
    simp only [if_true, hlog]
    by_cases hl : a + 1 < c.limit
    · have hpace : c.pace = c.pace * (0 + ahead (a + 1)) := by simp [ahead]
      have hnext := Phase.waiting (c := c) hl (gap_pos hb hp (a + 1))
      rwa [← hpace] at hnext
    · have heq : a + 1 = c.limit := by omega
      rw [heq]
      exact .spent
  | @spent d waited =>
    unfold Plan.step
    simp only [Bool.false_eq_true, if_false, lt_irrefl]
    rw [List.append_assoc, ← List.replicate_succ']
    exact .spent

/-- The interval is the base interval, doubled with every attempt. -/
theorem Phase.wait_eq (h : c.Phase t l) : t.wait = c.base * 2 ^ t.tries ∧ t.tries ≤ c.limit := by
  cases h with
  | waiting ha _ => exact ⟨rfl, ha.le⟩
  | due ha => exact ⟨rfl, ha⟩
  | spent => exact ⟨rfl, le_rfl⟩

theorem Phase.start (hb : 0 < c.base) (hp : 0 < c.pace) : c.Phase c.start [] := by
  by_cases hl : 0 < c.limit
  · have h0 := Phase.waiting (c := c) hl (gap_pos hb hp 0)
    simpa [rounds, Plan.start, ahead] using h0
  · have h0 : c.Phase ⟨c.limit, c.base * 2 ^ c.limit, 0, false⟩
        (c.rounds c.limit ++ List.replicate 0 false) := .spent
    have heq : c.limit = 0 := by omega
    simpa [rounds, Plan.start, heq] using h0

/-- **The phases of a timer.** -/
theorem phase (hb : 0 < c.base) (hp : 0 < c.pace) (n : ℕ) : c.Phase (c.run n) (c.log n) := by
  induction n with
  | zero => exact .start hb hp
  | succ n ih => exact ih.step hb hp

theorem rounds_mono {a m : ℕ} (h : a ≤ m) : c.rounds a <+: c.rounds m := by
  induction m with
  | zero =>
    rw [Nat.le_zero.1 h]
  | succ m ih =>
    rcases Nat.le_succ_iff.1 h with hle | rfl
    · rw [rounds_succ]
      exact (ih hle).trans (List.prefix_append _ _)
    · exact List.prefix_rfl

theorem Phase.prefix_rounds (h : c.Phase t l) {n : ℕ} (hn : l.length ≤ n) :
    l <+: c.rounds c.limit ++ List.replicate n false := by
  have hround : ∀ {a d : ℕ}, a < c.limit → d ≤ c.gap a →
      c.rounds a ++ List.replicate d false <+: c.rounds c.limit ++ List.replicate n false := by
    intro a d ha hd
    have hd' : List.replicate d false <+: List.replicate (c.gap a) false ++ [true] :=
      (List.prefix_replicate_iff.2 ⟨by simpa using hd, by simp⟩).trans (List.prefix_append _ _)
    refine List.IsPrefix.trans ?_ ((rounds_mono (c := c) ha).trans (List.prefix_append _ _))
    rw [rounds_succ]
    exact (List.prefix_append_right_inj _).2 hd'
  cases h with
  | waiting ha hd => exact hround ha hd.le
  | due ha => exact hround ha le_rfl
  | @spent d _ =>
    refine (List.prefix_append_right_inj _).2 (List.prefix_replicate_iff.2 ⟨?_, by simp⟩)
    simp only [List.length_append, List.length_replicate] at hn ⊢
    omega

theorem length_log (n : ℕ) : (c.log n).length = n := by
  induction n with
  | zero => rfl
  | succ n ih =>
    unfold log
    rw [List.length_append, ih]
    rfl

/-- **The schedule.**  The attempts are made after the ticks that `gap` counts, as many as are
allowed, and then there is no attempt any more. -/
theorem log_prefix (hb : 0 < c.base) (hp : 0 < c.pace) (n : ℕ) :
    c.log n <+: c.rounds c.limit ++ List.replicate n false :=
  (phase hb hp n).prefix_rounds (length_log n).le

end Plan

end Backoff
