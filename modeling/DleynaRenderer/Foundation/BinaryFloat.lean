import Mathlib.Data.Int.Log
import Mathlib.Data.Rat.Floor
import Mathlib.Tactic.Linarith
import Mathlib.Tactic.NormNum

/-!
# Binary floating point

Rounding to the nearest value of a format, ties to the even mantissa, and the
comparison of values.  A comparison of the rounded value with a value of the
format is one of the exact value with the midpoint below it.
-/

namespace BinaryFloat

/-- A value, exact or of a format; which sign a zero has is not kept. -/
inductive Value
  | finite (value : ℚ)
  | infinite (negative : Bool)
  | nan
  deriving DecidableEq, Repr

/-- The operator `<`, which holds of nothing that is not a number. -/
def Value.lt : Value → Value → Bool
  | .nan, _ => false
  | _, .nan => false
  | .finite x, .finite y => x < y
  | .finite _, .infinite negative => !negative
  | .infinite negative, .finite _ => negative
  | .infinite negative, .infinite negative' => negative && !negative'

def Value.AtLeast (y : ℚ) : Value → Prop
  | .finite x => y ≤ x
  | .infinite negative => negative = false
  | .nan => False

/-- The bits of the mantissa, the exponent of the least positive value, and the
exponent of the first power of two that is too large. -/
structure Format where
  bits : Nat
  least : Int
  bound : Int
  bits_pos : 0 < bits

def single : Format := ⟨24, -149, 128, by decide⟩

def roundHalfEven (r : ℚ) : ℤ :=
  if r - ⌊r⌋ < 1 / 2 then ⌊r⌋
  else if 1 / 2 < r - ⌊r⌋ then ⌊r⌋ + 1
  else if ⌊r⌋ % 2 = 0 then ⌊r⌋
  else ⌊r⌋ + 1

theorem le_roundHalfEven {r : ℚ} {n : ℤ} (h : (n : ℚ) ≤ r) :
    n ≤ roundHalfEven r := by
  have hfloor : n ≤ ⌊r⌋ := Int.le_floor.mpr h
  unfold roundHalfEven
  split_ifs <;> omega

theorem roundHalfEven_le {r : ℚ} {n : ℤ} (h : r ≤ n) : roundHalfEven r ≤ n := by
  have hfloor : ⌊r⌋ ≤ n := Int.floor_le_iff.mpr (by linarith)
  have hwhole : ⌊r⌋ = n → r - ⌊r⌋ < 1 / 2 := by
    intro heq
    rw [heq]
    linarith
  unfold roundHalfEven
  split_ifs with hbelow
  · exact hfloor
  all_goals
    have hne : ⌊r⌋ ≠ n := fun heq => hbelow (hwhole heq)
    omega

theorem le_roundHalfEven_iff {r : ℚ} {n : ℤ} (hn : n % 2 = 0) :
    n ≤ roundHalfEven r ↔ n - 1 / 2 ≤ r := by
  have hbelow : (⌊r⌋ : ℚ) ≤ r := Int.floor_le r
  have habove : r < ⌊r⌋ + 1 := Int.lt_floor_add_one r
  rcases lt_trichotomy ⌊r⌋ (n - 1) with hlow | heq | hhigh
  · have hcast : (⌊r⌋ : ℚ) + 2 ≤ n := by
      have hint : ⌊r⌋ + 2 ≤ n := by omega
      exact_mod_cast hint
    refine iff_of_false ?_ (by linarith)
    unfold roundHalfEven
    split_ifs <;> omega
  · have hcast : (⌊r⌋ : ℚ) = n - 1 := by
      rw [heq]
      push_cast
      ring
    unfold roundHalfEven
    split_ifs with hlow hhigh heven
    · exact iff_of_false (by omega) (by linarith)
    · exact iff_of_true (by omega) (by linarith)
    · omega
    · exact iff_of_true (by omega) (by linarith)
  · have hcast : (n : ℚ) ≤ ⌊r⌋ := by
      have hint : n ≤ ⌊r⌋ := by omega
      exact_mod_cast hint
    exact iff_of_true (le_roundHalfEven (hcast.trans hbelow)) (by linarith)

namespace Format

def lastBit (format : Format) (x : ℚ) : ℤ :=
  max (Int.log 2 |x| + 1 - format.bits) format.least

def nearest (format : Format) (x : ℚ) : ℚ :=
  roundHalfEven (x / 2 ^ format.lastBit x) * 2 ^ format.lastBit x

def round (format : Format) : Value → Value
  | .finite x =>
      if 2 ^ format.bound ≤ |format.nearest x| then .infinite (x < 0)
      else .finite (format.nearest x)
  | .infinite negative => .infinite negative
  | .nan => .nan

variable {format : Format} {x : ℚ}

theorem two_zpow_pos (k : ℤ) : (0 : ℚ) < 2 ^ k := zpow_pos (by norm_num) k

theorem nearest_le {n : ℤ} (h : x ≤ n * 2 ^ format.lastBit x) :
    format.nearest x ≤ n * 2 ^ format.lastBit x := by
  have hpos := two_zpow_pos (format.lastBit x)
  have hround : roundHalfEven (x / 2 ^ format.lastBit x) ≤ n :=
    roundHalfEven_le ((div_le_iff₀ hpos).mpr h)
  exact mul_le_mul_of_nonneg_right (by exact_mod_cast hround) hpos.le

theorem le_nearest {n : ℤ} (h : n * 2 ^ format.lastBit x ≤ x) :
    n * 2 ^ format.lastBit x ≤ format.nearest x := by
  have hpos := two_zpow_pos (format.lastBit x)
  have hround : n ≤ roundHalfEven (x / 2 ^ format.lastBit x) :=
    le_roundHalfEven ((le_div_iff₀ hpos).mpr h)
  exact mul_le_mul_of_nonneg_right (by exact_mod_cast hround) hpos.le

theorem two_zpow_eq {j k : ℤ} (h : k ≤ j) :
    (2 : ℚ) ^ j = ((2 ^ (j - k).toNat : ℤ) : ℚ) * 2 ^ k := by
  have hpow : ((2 ^ (j - k).toNat : ℤ) : ℚ) = 2 ^ (j - k) := by
    push_cast
    rw [← zpow_natCast, Int.toNat_of_nonneg (by omega)]
  rw [hpow, ← zpow_add₀ (by norm_num), sub_add_cancel]

theorem nearest_nonpos (h : x ≤ 0) : format.nearest x ≤ 0 := by
  have hle : format.nearest x ≤ (0 : ℤ) * 2 ^ format.lastBit x :=
    nearest_le (by simpa using h)
  simpa using hle

theorem nearest_nonneg (h : 0 ≤ x) : 0 ≤ format.nearest x := by
  have hle : (0 : ℤ) * 2 ^ format.lastBit x ≤ format.nearest x :=
    le_nearest (by simpa using h)
  simpa using hle

theorem nearest_le_two_zpow {k : ℤ} (hpos : 0 < x) (h : x < 2 ^ k)
    (hleast : format.least ≤ k) : format.nearest x ≤ 2 ^ k := by
  have hlog : Int.log 2 x < k :=
    (Int.lt_zpow_iff_log_lt (by norm_num) hpos).mp (by simpa using h)
  have hlast : format.lastBit x ≤ k := by
    rw [lastBit, abs_of_pos hpos]
    omega
  rw [two_zpow_eq hlast] at h ⊢
  exact nearest_le h.le

theorem two_zpow_le_nearest {k : ℤ} (hpos : 0 < x) (h : 2 ^ k ≤ x)
    (hleast : format.least ≤ k) : 2 ^ k ≤ format.nearest x := by
  have hlog : k ≤ Int.log 2 x :=
    (Int.zpow_le_iff_le_log (by norm_num) hpos).mp (by simpa using h)
  have hpower : (2 : ℚ) ^ Int.log 2 x ≤ x := by
    simpa using Int.zpow_log_le_self (b := 2) (by norm_num) hpos
  have hlast : format.lastBit x ≤ Int.log 2 x := by
    have hbits := format.bits_pos
    rw [lastBit, abs_of_pos hpos]
    omega
  calc (2 : ℚ) ^ k ≤ 2 ^ Int.log 2 x := zpow_le_zpow_right₀ (by norm_num) hlog
    _ ≤ format.nearest x := by
      rw [two_zpow_eq hlast] at hpower ⊢
      exact le_nearest hpower

theorem lastBit_eq {k : ℤ} (hle : 2 ^ k ≤ x) (hlt : x < 2 ^ (k + 1))
    (hleast : format.least + format.bits ≤ k + 1) :
    format.lastBit x = k + 1 - format.bits := by
  have hpos : 0 < x := (two_zpow_pos k).trans_le hle
  have hlog : k ≤ Int.log 2 x :=
    (Int.zpow_le_iff_le_log (by norm_num) hpos).mp (by simpa using hle)
  have hlog' : Int.log 2 x < k + 1 :=
    (Int.lt_zpow_iff_log_lt (by norm_num) hpos).mp (by simpa using hlt)
  rw [lastBit, abs_of_pos hpos]
  omega

/--
An even mantissa above the least one is reached from the midpoint below it on:
below its powers of two and above them the rounding stays on its side, and
between them the last bit is that of the mantissa.
-/
theorem le_nearest_iff {n k : ℤ} (heven : n % 2 = 0)
    (hle : 2 ^ k < n * (2 : ℚ) ^ (k + 1 - format.bits))
    (hlt : n * (2 : ℚ) ^ (k + 1 - format.bits) < 2 ^ (k + 1))
    (hleast : format.least + format.bits ≤ k + 1) :
    n * (2 : ℚ) ^ (k + 1 - format.bits) ≤ format.nearest x ↔
      (n - 1 / 2) * (2 : ℚ) ^ (k + 1 - format.bits) ≤ x := by
  have hbits := format.bits_pos
  have hunit := two_zpow_pos (k + 1 - format.bits)
  have hpower := two_zpow_pos k
  have hbelow : 2 ^ k ≤ (n - 1) * (2 : ℚ) ^ (k + 1 - format.bits) := by
    have hmultiple := two_zpow_eq (j := k) (k := k + 1 - format.bits) (by omega)
    rw [hmultiple] at hle ⊢
    have hint := lt_of_mul_lt_mul_right hle hunit.le
    refine mul_le_mul_of_nonneg_right ?_ hunit.le
    have hcast : (2 ^ (k - (k + 1 - format.bits)).toNat : ℤ) ≤ n - 1 := by
      exact Int.le_sub_one_of_lt (by exact_mod_cast hint)
    exact_mod_cast hcast
  rcases lt_or_ge x (2 ^ k) with hlow | hmiddle
  · have hnearest : format.nearest x ≤ 2 ^ k := by
      rcases le_or_gt x 0 with hnonpos | hpos
      · exact (nearest_nonpos hnonpos).trans hpower.le
      · exact nearest_le_two_zpow hpos hlow (by omega)
    exact iff_of_false (by linarith) (by linarith)
  · have hpos : 0 < x := hpower.trans_le hmiddle
    rcases lt_or_ge x (2 ^ (k + 1)) with hhigh | hhigh
    · rw [nearest, lastBit_eq hmiddle hhigh hleast, mul_le_mul_iff_left₀ hunit,
        ← le_div_iff₀ hunit, Int.cast_le, le_roundHalfEven_iff heven]
    · have hnearest : 2 ^ (k + 1) ≤ format.nearest x :=
        two_zpow_le_nearest hpos hhigh (by omega)
      exact iff_of_true (by linarith) (by linarith)

/-- Below a value with an even mantissa is what is below the midpoint under it. -/
theorem round_finite_lt {n k : ℤ} (heven : n % 2 = 0)
    (hle : 2 ^ k < n * (2 : ℚ) ^ (k + 1 - format.bits))
    (hlt : n * (2 : ℚ) ^ (k + 1 - format.bits) < 2 ^ (k + 1))
    (hleast : format.least + format.bits ≤ k + 1) (hbound : k + 1 ≤ format.bound) :
    (format.round (.finite x)).lt (.finite (n * 2 ^ (k + 1 - format.bits))) =
      decide (x < (n - 1 / 2) * 2 ^ (k + 1 - format.bits)) := by
  have hiff := le_nearest_iff (x := x) heven hle hlt hleast
  have hlarge : (2 : ℚ) ^ (k + 1) ≤ 2 ^ format.bound :=
    zpow_le_zpow_right₀ (by norm_num) hbound
  have hhalf := two_zpow_pos (k + 1 - format.bits)
  have hpower := two_zpow_pos k
  rw [round, Bool.eq_iff_iff]
  split_ifs with hoverflow
  · simp only [Value.lt, decide_eq_true_eq]
    rcases lt_or_ge x 0 with hneg | hnonneg
    · have hmidpoint : x < (n - 1 / 2) * (2 : ℚ) ^ (k + 1 - format.bits) := by
        have hnearest : format.nearest x ≤ 0 := nearest_nonpos hneg.le
        exact not_le.mp fun hreach => absurd (hiff.mpr hreach) (by linarith)
      exact iff_of_true hneg hmidpoint
    · rw [abs_of_nonneg (nearest_nonneg hnonneg)] at hoverflow
      have hreach := hiff.mp (by linarith)
      exact iff_of_false hnonneg.not_gt hreach.not_gt
  · simp only [Value.lt, decide_eq_true_eq]
    rw [← not_le, hiff, not_le]

end Format

end BinaryFloat
