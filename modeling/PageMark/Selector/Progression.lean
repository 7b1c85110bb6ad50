/-!
# Progressions

Which places in a row are chosen by a number or by a progression of numbers
such as `2n+1`.  Places are counted from one.
-/

namespace PageMark

/-- One place, or the places `step * n + offset` for `n = 0, 1, 2, …`. -/
inductive Progression where
  | single (place : Int)
  | series (step offset : Int)
deriving DecidableEq, Repr

namespace Progression

def selects (progression : Progression) (place : Nat) : Bool :=
  match progression with
  | single chosen => chosen == (place : Int)
  | series step offset =>
      if step = 0 then offset == (place : Int)
      else (place - offset) % step == 0 && decide (0 ≤ (place - offset) / step)

theorem selects_single {chosen : Int} {place : Nat} :
    (single chosen).selects place = true ↔ chosen = place := by
  simp [selects]

/-- A progression chooses its members and nothing else. -/
theorem selects_series {step offset : Int} {place : Nat} :
    (series step offset).selects place = true ↔ ∃ n : Nat, step * n + offset = place := by
  by_cases still : step = 0
  · subst still
    constructor
    · intro same
      exact ⟨0, by simpa [selects] using same⟩
    · rintro ⟨n, same⟩
      simpa [selects] using same
  · simp only [selects, still, if_false, Bool.and_eq_true, beq_iff_eq, decide_eq_true_eq]
    constructor
    · rintro ⟨divides, forward⟩
      refine ⟨((place - offset) / step).toNat, ?_⟩
      have whole := Int.mul_ediv_add_emod (place - offset) step
      rw [Int.toNat_of_nonneg forward]
      omega
    · rintro ⟨n, same⟩
      have distance : (place : Int) - offset = step * n := by omega
      rw [distance, Int.mul_emod_right, Int.mul_ediv_cancel_left _ still]
      exact ⟨rfl, Int.natCast_nonneg n⟩

end Progression

end PageMark
