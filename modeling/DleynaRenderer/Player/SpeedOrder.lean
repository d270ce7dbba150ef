import DleynaRenderer.Foundation.MergeSort
import DleynaRenderer.Player.Actions
import DleynaRenderer.Player.SpeedText
import Mathlib.Data.Int.ConditionallyCompleteOrder
import Mathlib.Data.Sign.Basic

/-!
# The order of the play speeds

Two speeds are compared by the low 32 bits of a difference of products, and
whole lists are sorted by these comparisons before the entries that denote no
speed are taken out.  The sign is right where the low bits keep it.  The lists
that a device makes of its speeds are published in ascending order as long as
no way of such comparisons, which may lead over entries that are no speeds,
leads from a speed to a slower one.
-/

namespace DleynaRenderer.Player

open CString Relation

/-- The low 32 bits, read with a sign, are greater than zero. -/
def LowPositive (d : Int) : Prop := 0 < d % 2 ^ 32 ∧ d % 2 ^ 32 < 2 ^ 31

def crossDifference (a b : String) : Int :=
  prvRationalGetNumerator a * prvRationalGetDenominator b -
    prvRationalGetNumerator b * prvRationalGetDenominator a

def SpeedLeads (pool : Set String) (a b : String) : Prop :=
  a ∈ pool ∧ b ∈ pool ∧ ¬LowPositive (crossDifference a b)

def SpeedsKept (pool : Set String) : Prop :=
  ∀ a b, prvRationalIsInvalid a = false → prvRationalIsInvalid b = false →
    TransGen (SpeedLeads pool) a b → speedValue a ≤ speedValue b

theorem exactValue_le_of_cross {a b : String}
    (ha : 0 < prvRationalGetDenominator a)
    (hb : 0 < prvRationalGetDenominator b) (hcross : crossDifference a b ≤ 0) :
    exactValue a ≤ exactValue b := by
  unfold exactValue
  rw [div_le_div_iff₀ (by exact_mod_cast ha) (by exact_mod_cast hb)]
  have hle : prvRationalGetNumerator a * prvRationalGetDenominator b ≤
      prvRationalGetNumerator b * prvRationalGetDenominator a := by
    unfold crossDifference at hcross
    omega
  exact_mod_cast hle

/-- Where denominators are positive and no difference is long, all is in order. -/
theorem speedsKept_of_short {pool : Set String}
    (hpos : ∀ speed ∈ pool, 0 < prvRationalGetDenominator speed)
    (hshort : ∀ a ∈ pool, ∀ b ∈ pool, |crossDifference a b| < 2 ^ 31) :
    SpeedsKept pool := by
  intro a b ha hb hleads
  have hstep (a b : String) (h : SpeedLeads pool a b) :
      exactValue a ≤ exactValue b := by
    obtain ⟨hmem, hmem', hnot⟩ := h
    have hbound := abs_lt.mp (hshort a hmem b hmem')
    have hcross : crossDifference a b ≤ 0 := by
      unfold LowPositive at hnot
      omega
    exact exactValue_le_of_cross (hpos a hmem) (hpos b hmem') hcross
  have hway : TransGen (fun r s : ℚ => r ≤ s) (exactValue a) (exactValue b) :=
    hleads.lift exactValue hstep
  rw [transGen_eq_self] at hway
  rw [speedValue_of_valid ha, speedValue_of_valid hb]
  exact roundHundredth_mono hway

end DleynaRenderer.Player
