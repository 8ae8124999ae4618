import Lpt.Base.Transition

/-!
# Progress

What a run comes to in the end.  A rank says of a state how many steps are left, or that
no number of steps will do; it is a rank of the system if every step takes one away.

* `Path.append` — a run goes on with a run.
* `Path.countdown` — a rank that every step lowers by one is exactly used up after as many
  steps as it says.
-/

namespace Trans

variable {S L : Type} {Step : S → L → S → Prop} {s₀ s s' : S} {h h' : List (Move S L)}

/-- A run goes on with a run. -/
theorem Path.append (hp : Path Step s₀ h s) (hp' : Path Step s h' s') :
    Path Step s₀ (h' ++ h) s' := by
  induction hp' with
  | start => exact hp
  | snoc _ hs ih => exact ih.snoc hs

/-- **The countdown.**  If every step that meets the condition `C` takes one away from a rank
that is not zero, the rank after `k` steps is `k` less, as long as there was that much. -/
theorem Path.countdown {C : Move S L → Prop} (hp : Path Step s₀ h s) (rank : S → Option ℕ)
    (Inv : S → Prop) (hC : ∀ m ∈ h, C m) (h0 : Inv s₀)
    (hstep : ∀ s l s' n, Inv s → rank s = some (n + 1) → C ⟨s, l, s'⟩ → Step s l s' →
      Inv s' ∧ rank s' = some n)
    {n : ℕ} (hn : rank s₀ = some n) (hle : h.length ≤ n) :
    Inv s ∧ rank s = some (n - h.length) := by
  induction hp with
  | start => exact ⟨h0, hn⟩
  | @snoc h s s' l _ hs ih =>
    rw [List.length_cons] at hle
    obtain ⟨hinv, hrank⟩ := ih (fun m hm => hC m (List.mem_cons_of_mem _ hm)) (by omega)
    -- one more step is left
    have hleft : n - h.length = (n - (h.length + 1)) + 1 := by omega
    rw [hleft] at hrank
    exact hstep s l s' _ hinv hrank (hC _ (List.mem_cons_self ..)) hs

end Trans
