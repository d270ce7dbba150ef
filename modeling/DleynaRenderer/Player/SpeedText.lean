import DleynaRenderer.Foundation.Decimal
import DleynaRenderer.Player.SpeedTables

/-!
# Texts of speeds

A speed is an integer or a quotient of two.  An event is split at the stroke,
and its parts are stripped and read by `atoi`; an entry of a list is read by
`strtol` from the start and from behind the stroke.  Of every speed that is not
zero the two make the same number, up to the rounding of the list.
-/

namespace DleynaRenderer.Player

open CString

/-- `p` or `p/q` -/
def IsSpeed (text : List Char) (p q : Int) : Prop :=
  (IsInteger text p ∧ q = 1) ∨
    ∃ num den, text = num ++ '/' :: den ∧ IsInteger num p ∧ IsInteger den q

def IsLong (n : Int) : Prop := -2 ^ 63 ≤ n ∧ n < 2 ^ 63

def IsInt (n : Int) : Prop := -2 ^ 31 ≤ n ∧ n < 2 ^ 31

theorem IsInt.isLong {n : Int} (h : IsInt n) : IsLong n := by
  obtain ⟨hlow, hhigh⟩ := h
  exact ⟨by omega, by omega⟩

theorem stroke_not_mem_isInteger {s : List Char} {n : Int}
    (h : IsInteger s n) : '/' ∉ s :=
  not_mem_isInteger h rfl rfl (by decide) (by decide)

theorem precision_ne_zero : precision ≠ 0 := by norm_num [precision]

theorem numerator_of_isSpeed {text : String} {p q : Int}
    (h : IsSpeed text.toList p q) (hp : IsLong p) :
    prvRationalGetNumerator text = p := by
  obtain ⟨hlow, hhigh⟩ := hp
  rw [prvRationalGetNumerator]
  rcases h with ⟨hinteger, -⟩ | ⟨num, den, htext, hnum, -⟩
  · exact strtol_isInteger hinteger ⟨hlow, hhigh⟩
  · have hends : EndsNumber ('/' :: den) := rfl
    have hread := strtol_of_isInteger hnum hends
    rw [htext]
    omega

theorem denominator_of_isSpeed {text : String} {p q : Int}
    (h : IsSpeed text.toList p q) (hq : IsLong q) :
    prvRationalGetDenominator text = q := by
  rw [prvRationalGetDenominator, strstr_singleton]
  rcases h with ⟨hinteger, rfl⟩ | ⟨num, den, htext, hnum, hden⟩
  · rw [if_neg (stroke_not_mem_isInteger hinteger)]
  · have hnone := stroke_not_mem_isInteger hnum
    have hbefore : ∀ c ∈ num, decide (c ≠ '/') = true := by
      intro c hmem
      have hne : c ≠ '/' := fun hc => hnone (hc ▸ hmem)
      simpa using hne
    have hdrop : (num ++ '/' :: den).dropWhile (· ≠ '/') = '/' :: den := by
      rw [List.dropWhile_append_of_pos hbefore]
      simp
    rw [htext, if_pos (by simp), hdrop]
    exact strtol_isInteger hden hq

theorem valid_of_isSpeed {text : String} {p q : Int}
    (h : IsSpeed text.toList p q) (hp : IsLong p) (hq : IsLong q)
    (hpne : p ≠ 0) (hqne : q ≠ 0) : prvRationalIsInvalid text = false := by
  simp [prvRationalIsInvalid, numerator_of_isSpeed h hp,
    denominator_of_isSpeed h hq, hpne, hqne]

def exactValue (speed : String) : ℚ :=
  prvRationalGetNumerator speed / prvRationalGetDenominator speed

theorem exactValue_of_isSpeed {text : String} {p q : Int}
    (h : IsSpeed text.toList p q) (hp : IsLong p) (hq : IsLong q) :
    exactValue text = p / q := by
  rw [exactValue, numerator_of_isSpeed h hp, denominator_of_isSpeed h hq]

theorem speedValue_of_valid {speed : String}
    (h : prvRationalIsInvalid speed = false) :
    speedValue speed = roundHundredth (exactValue speed) := by
  simp only [prvRationalIsInvalid, Bool.or_eq_false_iff,
    decide_eq_false_iff_not] at h
  unfold speedValue prvRationalToDouble
  simp only [h.1, h.2, or_self, if_false]
  rw [if_pos precision_ne_zero]
  rfl

theorem atoi_gStrstrip_isInteger {s : List Char} {n : Int}
    (h : IsInteger s n) (hn : IsInt n) : atoi (gStrstrip s) = n := by
  obtain ⟨hlow, hhigh⟩ := hn
  rw [atoi, strtol_gStrstrip, strtol_isInteger h ⟨by omega, by omega⟩]
  exact Int.bmod_eq_of_le (by omega) (by omega)

theorem prvMapTransportSpeed_of_isSpeed {text : String} {p q : Int}
    (h : IsSpeed text.toList p q) (hp : IsInt p) (hq : IsInt q)
    (hqne : q ≠ 0) : prvMapTransportSpeed text = p / q := by
  unfold prvMapTransportSpeed
  rcases h with ⟨hinteger, rfl⟩ | ⟨num, den, htext, hnum, hden⟩
  · have hsplit : gStrsplit text.toList '/' = [text.toList] := by
      rw [gStrsplit, if_neg (isInteger_ne_nil hinteger),
        List.splitOn_eq_singleton (stroke_not_mem_isInteger hinteger)]
    simp only [hsplit, atoi_gStrstrip_isInteger hinteger hp, Int.cast_one,
      div_one]
  · have hsplit : gStrsplit text.toList '/' = [num, den] := by
      rw [htext]
      exact gStrsplit_two (stroke_not_mem_isInteger hnum)
        (stroke_not_mem_isInteger hden)
    simp only [hsplit, atoi_gStrstrip_isInteger hnum hp,
      atoi_gStrstrip_isInteger hden hq, hqne, if_false]

theorem abs_sub_round_le (r : ℚ) : |r - CString.round r| ≤ 1 / 2 := by
  have hfloor (r : ℚ) : |r - ⌊r + 1 / 2⌋| ≤ 1 / 2 := by
    have hle := Int.floor_le (r + 1 / 2)
    have hlt := Int.lt_floor_add_one (r + 1 / 2)
    rw [abs_le]
    constructor <;> linarith
  unfold CString.round
  split
  · exact hfloor r
  · have hneg := hfloor (-r)
    have hflip : r - ((-⌊-r + 1 / 2⌋ : Int) : ℚ) = -(-r - ⌊-r + 1 / 2⌋) := by
      push_cast
      ring
    rwa [hflip, abs_neg]

theorem abs_sub_roundHundredth_le (r : ℚ) :
    |r - roundHundredth r| ≤ 5 / 1000 := by
  have hround := abs_sub_round_le (r / precision)
  have hscale : r - roundHundredth r =
      (r / precision - CString.round (r / precision)) * precision := by
    unfold roundHundredth
    rw [sub_mul, div_mul_cancel₀ r precision_ne_zero]
  rw [hscale, abs_mul]
  have hprecision : |precision| = 1 / 100 := by norm_num [precision]
  rw [hprecision]
  linarith

theorem round_mono {r s : ℚ} (h : r ≤ s) :
    CString.round r ≤ CString.round s := by
  unfold CString.round
  split_ifs with hr hs
  · exact Int.floor_mono (by linarith)
  · exact absurd (hr.trans h) hs
  · have hpos : 0 ≤ ⌊-r + 1 / 2⌋ := Int.floor_nonneg.mpr (by linarith)
    have hpos' : 0 ≤ ⌊s + 1 / 2⌋ := Int.floor_nonneg.mpr (by linarith)
    omega
  · have hfloor : ⌊-s + 1 / 2⌋ ≤ ⌊-r + 1 / 2⌋ := Int.floor_mono (by linarith)
    omega

theorem roundHundredth_mono {r s : ℚ} (h : r ≤ s) :
    roundHundredth r ≤ roundHundredth s := by
  have hpos : 0 < precision := by norm_num [precision]
  have hround : CString.round (r / precision) ≤ CString.round (s / precision) :=
    round_mono (div_le_div_of_nonneg_right h hpos.le)
  unfold roundHundredth
  exact mul_le_mul_of_nonneg_right (by exact_mod_cast hround) hpos.le

/--
The rate of an event and the published entry of a list differ by half a
hundredth at most where they come from the same speed, and the list takes it.
-/
theorem speed_readings_agree {text : String} {p q : Int}
    (h : IsSpeed text.toList p q) (hp : IsInt p) (hq : IsInt q) (hpne : p ≠ 0)
    (hqne : q ≠ 0) :
    |prvMapTransportSpeed text - prvRationalToDouble text precision| ≤
        5 / 1000 ∧
      prvRationalIsInvalid text = false := by
  have hvalid := valid_of_isSpeed h hp.isLong hq.isLong hpne hqne
  have hentry := speedValue_of_valid hvalid
  rw [speedValue, exactValue_of_isSpeed h hp.isLong hq.isLong] at hentry
  refine ⟨?_, hvalid⟩
  rw [prvMapTransportSpeed_of_isSpeed h hp hq hqne, hentry]
  exact abs_sub_roundHundredth_le _

/-- A third of the speed backwards, with blanks around both numbers. -/
theorem speed_readings_third :
    |prvMapTransportSpeed " -1 / +3" - prvRationalToDouble " -1 / +3" precision| ≤
        5 / 1000 ∧
      prvRationalIsInvalid " -1 / +3" = false := by
  have hnum : IsInteger " -1 ".toList (-1) :=
    isInteger_of_all [' '] ['-'] ['1'] [' '] (by decide +kernel)
  have hden : IsInteger " +3".toList 3 :=
    isInteger_of_all [' '] ['+'] ['3'] [] (by decide +kernel)
  have hspeed : IsSpeed " -1 / +3".toList (-1) 3 :=
    .inr ⟨" -1 ".toList, " +3".toList, by decide +kernel, hnum, hden⟩
  exact speed_readings_agree hspeed ⟨by decide, by decide⟩
    ⟨by decide, by decide⟩ (by decide) (by decide)

end DleynaRenderer.Player
