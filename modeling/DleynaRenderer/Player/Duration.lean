import DleynaRenderer.Foundation.Decimal
import DleynaRenderer.Player.LastChange
import Mathlib.Data.Int.ModEq
import Mathlib.Data.List.TakeWhile

/-!
# Durations

A position goes to the renderer as hours, minutes and seconds, behind a sign
where it is negative.  The sign is read back with the hours only, and these are
multiplied in 32 unsigned bits.
-/

namespace DleynaRenderer.Player

open CString

/-- The negation is that of 64 bits, the count of seconds keeps 32 of them. -/
def durationSeconds (microSeconds : Int) : Nat :=
  let microSeconds :=
    if microSeconds < 0 then Int.bmod (-microSeconds) (2 ^ 64) else microSeconds
  (microSeconds.tdiv 1000000 % 2 ^ 32).toNat

def formatClock (seconds : Nat) : String :=
  formatTwo (seconds / 3600) ++ ":" ++ formatTwo (seconds / 60 % 60) ++ ":" ++
    formatTwo (seconds % 60)

def prvInt64ToDuration (microSeconds : Int) : String :=
  (if microSeconds < 0 then "-" else "") ++
    formatClock (durationSeconds microSeconds)

theorem durationSeconds_eq {n : Int} (h : |n| < 2 ^ 32 * 1000000) :
    durationSeconds n = n.natAbs / 1000000 := by
  have hbound := abs_lt.mp h
  have hwrap (hneg : n < 0) : Int.bmod (-n) (2 ^ 64) = -n :=
    Int.bmod_eq_of_le (by omega) (by omega)
  unfold durationSeconds
  simp only
  split
  case isTrue hneg =>
    rw [hwrap hneg, Int.tdiv_eq_ediv_of_nonneg (by omega)]
    omega
  case isFalse hnonneg =>
    rw [Int.tdiv_eq_ediv_of_nonneg (by omega)]
    omega

theorem toList_formatClock (seconds : Nat) :
    (formatClock seconds).toList =
      (formatTwo (seconds / 3600)).toList ++ ':' ::
        ((formatTwo (seconds / 60 % 60)).toList ++ ':' ::
          (formatTwo (seconds % 60)).toList) := by
  simp [formatClock, String.toList_append]

theorem gStrsplit_formatClock (seconds : Nat) :
    gStrsplit (formatClock seconds).toList ':' =
      [(formatTwo (seconds / 3600)).toList,
       (formatTwo (seconds / 60 % 60)).toList,
       (formatTwo (seconds % 60)).toList] := by
  rw [toList_formatClock]
  exact gStrsplit_three (not_mem_isNumber (isNumber_formatTwo _) rfl)
    (not_mem_isNumber (isNumber_formatTwo _) rfl)
    (not_mem_isNumber (isNumber_formatTwo _) rfl)

theorem durationField_eq {field : List Char} {n : Int}
    (h : strtol (gStrstrip field) = n) (i : Nat) :
    durationField field i = n * i % 2 ^ 32 := by
  have hmod : Int.bmod n (2 ^ 32) % (2 ^ 32 : Nat) = n % (2 ^ 32 : Nat) :=
    Int.bmod_emod
  have hlow : Int.ModEq (2 ^ 32) (Int.bmod n (2 ^ 32)) n := hmod
  rw [durationField, atoi, h]
  exact hlow.mul_right i

theorem durationField_formatTwo {n : Nat} (hn : n < 2 ^ 31) (i : Nat)
    (hi : n * i < 2 ^ 32) : durationField (formatTwo n).toList i = n * i := by
  have hnumber := isNumber_formatTwo n
  have hread := strtol_isNumber hnumber endsNumber_nil
  rw [List.append_nil, ofDigits_formatTwo, min_eq_right (by omega)] at hread
  have hstrip := congrArg strtol (gStrstrip_isNumber hnumber)
  rw [durationField_eq (hstrip.trans hread) i]
  exact Int.emod_eq_of_lt (by positivity) (by exact_mod_cast hi)

theorem prvDurationToInt64_formatClock {seconds : Nat}
    (h : seconds < 2 ^ 32) :
    prvDurationToInt64 (formatClock seconds) = seconds * 1000000 := by
  rw [prvDurationToInt64, gStrsplit_formatClock]
  simp only
  rw [durationField_formatTwo (by omega) 1 (by omega),
    durationField_formatTwo (by omega) 60 (by omega),
    durationField_formatTwo (by omega) 3600 (by omega)]
  push_cast
  omega

/-- The sign goes with the hours, whose product is unsigned. -/
theorem prvDurationToInt64_minus {seconds : Nat} (h : seconds < 2 ^ 32) :
    ∃ hours : Nat,
      prvDurationToInt64 ("-" ++ formatClock seconds) =
        ((seconds % 3600 + hours : Nat) : Int) * 1000000 ∧
      (seconds / 3600 = 0 → hours = 0) := by
  have hnumber := isNumber_formatTwo (seconds / 3600)
  have hsplit : gStrsplit ("-" ++ formatClock seconds).toList ':' =
      ['-' :: (formatTwo (seconds / 3600)).toList,
       (formatTwo (seconds / 60 % 60)).toList,
       (formatTwo (seconds % 60)).toList] := by
    rw [String.toList_append, toList_formatClock]
    have hhours : ':' ∉ '-' :: (formatTwo (seconds / 3600)).toList := by
      simpa using not_mem_isNumber hnumber rfl
    exact gStrsplit_three hhours
      (not_mem_isNumber (isNumber_formatTwo _) rfl)
      (not_mem_isNumber (isNumber_formatTwo _) rfl)
  have hstrip : gStrstrip ('-' :: (formatTwo (seconds / 3600)).toList) =
      '-' :: (formatTwo (seconds / 3600)).toList := by
    refine gStrstrip_eq_self fun c hmem => ?_
    rcases List.mem_cons.mp hmem with rfl | hdigit
    · rfl
    · exact gAsciiIsspace_of_isdigit ((isNumber_iff.mp hnumber).2 c hdigit)
  have hread := strtol_minus_isNumber hnumber endsNumber_nil
  rw [List.append_nil, ofDigits_formatTwo, max_eq_right (by omega)] at hread
  have hhours := durationField_eq ((congrArg strtol hstrip).trans hread) 3600
  refine ⟨(-((seconds / 3600 : Nat) : Int) * (3600 : Nat) % 2 ^ 32).toNat, ?_, ?_⟩
  · rw [prvDurationToInt64, hsplit]
    simp only
    have hwrap : 0 ≤ -((seconds / 3600 : Nat) : Int) * (3600 : Nat) % 2 ^ 32 :=
      Int.emod_nonneg _ (by decide)
    have hrest : seconds % 3600 = seconds % 60 * 1 + seconds / 60 % 60 * 60 := by
      omega
    rw [durationField_formatTwo (by omega) 1 (by omega),
      durationField_formatTwo (by omega) 60 (by omega), hhours, Nat.cast_add,
      Int.toNat_of_nonneg hwrap, hrest, Nat.cast_add, Nat.cast_mul, Nat.cast_mul]
  · intro hzero
    rw [hzero]
    rfl

/--
What is encoded is read back, cut to whole seconds, unless it is a second or
more below zero.
-/
theorem duration_round_trip_iff (n : Int) (hn : |n| < 2 ^ 32 * 1000000) :
    prvDurationToInt64 (prvInt64ToDuration n) = n.tdiv 1000000 * 1000000 ↔
      -1000000 < n := by
  have hseconds := durationSeconds_eq hn
  have hbound := abs_lt.mp hn
  have hlt : n.natAbs / 1000000 < 2 ^ 32 := by omega
  rw [prvInt64ToDuration, hseconds]
  rcases lt_or_ge n 0 with hneg | hnonneg
  · have htdiv : n.tdiv 1000000 = -((n.natAbs / 1000000 : Nat) : Int) := by
      rw [show n = -(n.natAbs : Int) by omega, Int.neg_tdiv, Int.natAbs_neg,
        Int.natAbs_natCast]
      rfl
    obtain ⟨hours, hread, hzero⟩ := prvDurationToInt64_minus hlt
    rw [if_pos hneg, hread, htdiv]
    omega
  · rw [if_neg (by omega), String.empty_append,
      prvDurationToInt64_formatClock hlt, Int.tdiv_eq_ediv_of_nonneg hnonneg]
    omega

theorem duration_round_trip_hour :
    prvInt64ToDuration 3723500000 = "01:02:03" ∧
      prvDurationToInt64 (prvInt64ToDuration 3723500000) = 3723000000 := by
  refine ⟨by decide +kernel, ?_⟩
  rw [(duration_round_trip_iff 3723500000 (by decide)).mpr (by decide)]
  rfl

/-- Five seconds before the start are read back as five seconds after it. -/
theorem negative_duration_loses_sign :
    prvInt64ToDuration (-5000000) = "-00:00:05" ∧
      prvDurationToInt64 (prvInt64ToDuration (-5000000)) = 5000000 ∧
      (5000000 : Int) ≠ (-5000000 : Int).tdiv 1000000 * 1000000 := by
  decide +kernel

/-! ## Reported times -/

def readNumber (s : List Char) : Option Nat :=
  if isNumber s then some (ofDigits s) else none

/-- `F+` or `F0/F1` -/
def readFraction (s : List Char) : Option ℚ :=
  match s.splitOn '/' with
  | [digits] => do
      let n ← readNumber digits
      return n / 10 ^ digits.length
  | [numerator, denominator] => do
      let p ← readNumber numerator
      let q ← readNumber denominator
      if p < q then return p / q else none
  | _ => none

def readSeconds (s : List Char) : Option (Nat × ℚ) :=
  match s.dropWhile isdigit with
  | [] => do
      let seconds ← readNumber s
      return (seconds, 0)
  | '.' :: fraction => do
      let seconds ← readNumber (s.takeWhile isdigit)
      let fraction ← readFraction fraction
      return (seconds, fraction)
  | _ => none

/-- What `H+:MM:SS` stands for, in whole seconds and a fraction of one. -/
def clockTime (text : List Char) : Option (Nat × ℚ) :=
  match gStrsplit text ':' with
  | [hours, minutes, seconds] => do
      let hours ← readNumber (gStrstrip hours)
      let minutes ← readNumber (gStrstrip minutes)
      let (seconds, fraction) ← readSeconds (gStrstrip seconds)
      return (3600 * hours + 60 * minutes + seconds, fraction)
  | _ => none

theorem strtol_of_readNumber {s rest : List Char} {n : Nat}
    (h : readNumber s = some n) (hrest : EndsNumber rest) :
    strtol (s ++ rest) = min (2 ^ 63 - 1) (n : Int) := by
  rw [readNumber, Option.ite_none_right_eq_some] at h
  obtain ⟨hnumber, hvalue⟩ := h
  rw [strtol_isNumber hnumber hrest, Option.some.inj hvalue]

theorem readFraction_bounds {s : List Char} {fraction : ℚ}
    (h : readFraction s = some fraction) : 0 ≤ fraction ∧ fraction < 1 := by
  unfold readFraction at h
  split at h
  case h_1 digits _ =>
    simp only [Option.bind_eq_bind, Option.bind_eq_some_iff, readNumber,
      Option.ite_none_right_eq_some] at h
    obtain ⟨n, ⟨hnumber, hvalue⟩, hfraction⟩ := h
    obtain rfl := Option.some.inj hvalue
    obtain rfl := Option.some.inj hfraction
    refine ⟨by positivity, (div_lt_one (by positivity)).mpr ?_⟩
    exact_mod_cast ofDigits_lt (isNumber_iff.mp hnumber).2
  case h_2 numerator denominator _ =>
    simp only [Option.bind_eq_bind, Option.bind_eq_some_iff] at h
    obtain ⟨p, -, q, -, hfraction⟩ := h
    rw [Option.ite_none_right_eq_some] at hfraction
    obtain ⟨hlt, hvalue⟩ := hfraction
    obtain rfl := Option.some.inj hvalue
    have hpos : (0 : ℚ) < q := by exact_mod_cast Nat.zero_lt_of_lt hlt
    exact ⟨by positivity, (div_lt_one hpos).mpr (by exact_mod_cast hlt)⟩
  case h_3 => contradiction

theorem readSeconds_spec {s : List Char} {seconds : Nat} {fraction : ℚ}
    (h : readSeconds s = some (seconds, fraction)) :
    strtol s = min (2 ^ 63 - 1) (seconds : Int) ∧ 0 ≤ fraction ∧ fraction < 1 := by
  unfold readSeconds at h
  split at h
  case h_1 _ =>
    simp only [Option.bind_eq_bind, Option.bind_eq_some_iff] at h
    obtain ⟨n, hnumber, hvalue⟩ := h
    obtain ⟨rfl, rfl⟩ := Prod.mk.inj (Option.some.inj hvalue)
    have hread := strtol_of_readNumber hnumber endsNumber_nil
    rw [List.append_nil] at hread
    exact ⟨hread, le_rfl, zero_lt_one⟩
  case h_2 rest hrest =>
    simp only [Option.bind_eq_bind, Option.bind_eq_some_iff] at h
    obtain ⟨n, hnumber, f, hfraction, hvalue⟩ := h
    obtain ⟨rfl, rfl⟩ := Prod.mk.inj (Option.some.inj hvalue)
    have hends : EndsNumber (s.dropWhile isdigit) := by
      rw [hrest]
      rfl
    have hread := strtol_of_readNumber hnumber hends
    rw [List.takeWhile_append_dropWhile] at hread
    exact ⟨hread, readFraction_bounds hfraction⟩
  case h_3 => contradiction

/-- A field loses multiples of the range, as long as it is in that of `long`. -/
theorem durationField_spec {field : List Char} {n : Nat}
    (h : strtol (gStrstrip field) = min (2 ^ 63 - 1) (n : Int)) {i : Nat}
    (hi : 0 < i) :
    ∃ d : Nat, durationField field i = d ∧ d ≤ n * i ∧ d < 2 ^ 32 ∧
      (n < 2 ^ 63 → d % 2 ^ 32 = n * i % 2 ^ 32) := by
  have hfield := durationField_eq h i
  have hself : n ≤ n * i := Nat.le_mul_of_pos_right n hi
  refine ⟨(durationField field i).toNat, ?_, ?_⟩
  · omega
  rcases Nat.lt_or_ge n (2 ^ 63) with hlong | hlarge
  · have hn : min (2 ^ 63 - 1) (n : Int) = n := by omega
    rw [hn] at hfield
    have hcast : (n : Int) * i = ((n * i : Nat) : Int) := by push_cast; rfl
    rw [hcast] at hfield
    omega
  · omega

theorem prvDurationToInt64_of_clockTime {duration : String} {seconds : Nat}
    {fraction : ℚ} (h : clockTime duration.toList = some (seconds, fraction)) :
    (0 ≤ fraction ∧ fraction < 1) ∧
      ∃ d : Nat, prvDurationToInt64 duration = d * 1000000 ∧ d ≤ seconds ∧
        d < 3 * 2 ^ 32 ∧
        (seconds < 2 ^ 63 → d % 2 ^ 32 = seconds % 2 ^ 32) := by
  unfold clockTime at h
  split at h
  case h_1 hours minutes secs hsplit =>
    simp only [Option.bind_eq_bind, Option.bind_eq_some_iff] at h
    obtain ⟨h', hhours, m', hminutes, ⟨s', f'⟩, hseconds, hvalue⟩ := h
    obtain ⟨rfl, rfl⟩ := Prod.mk.inj (Option.some.inj hvalue)
    have hreadHours := strtol_of_readNumber hhours endsNumber_nil
    have hreadMinutes := strtol_of_readNumber hminutes endsNumber_nil
    rw [List.append_nil] at hreadHours hreadMinutes
    obtain ⟨hreadSeconds, hfraction⟩ := readSeconds_spec hseconds
    obtain ⟨a, ha, hale, halt, hamod⟩ :=
      durationField_spec hreadHours (i := 3600) (by decide)
    obtain ⟨b, hb, hble, hblt, hbmod⟩ :=
      durationField_spec hreadMinutes (i := 60) (by decide)
    obtain ⟨c, hc, hcle, hclt, hcmod⟩ :=
      durationField_spec hreadSeconds (i := 1) (by decide)
    refine ⟨hfraction, c + b + a, ?_, ?_, ?_, ?_⟩
    · rw [prvDurationToInt64, hsplit]
      simp only [ha, hb, hc]
      push_cast
      rfl
    · omega
    · omega
    · intro hlong
      have h1 := hamod (by omega)
      have h2 := hbmod (by omega)
      have h3 := hcmod (by omega)
      omega
  case h_2 => contradiction

theorem readNumber_formatTwo (n : Nat) :
    readNumber (formatTwo n).toList = some n := by
  rw [readNumber, if_pos (isNumber_formatTwo n), ofDigits_formatTwo]

theorem clockTime_formatClock (seconds : Nat) :
    clockTime (formatClock seconds).toList = some (seconds, 0) := by
  have hwhole : (formatTwo (seconds % 60)).toList.dropWhile isdigit = [] :=
    List.dropWhile_eq_nil_iff.mpr (isNumber_iff.mp (isNumber_formatTwo _)).2
  unfold clockTime readSeconds
  simp only [gStrsplit_formatClock, gStrstrip_isNumber (isNumber_formatTwo _),
    hwhole, readNumber_formatTwo, Option.bind_eq_bind, Option.bind_some,
    Option.pure_def, Option.some.injEq, Prod.mk.injEq, and_true]
  omega

def signedTime (text : String) : Option ℚ :=
  match text.toList with
  | '-' :: s => (clockTime s).map fun time => -(time.1 + time.2)
  | s => (clockTime s).map fun time => time.1 + time.2

theorem signedTime_prvInt64ToDuration (n : Int) :
    signedTime (prvInt64ToDuration n) =
      some (if n < 0 then -(durationSeconds n : ℚ) else durationSeconds n) := by
  have hclock := clockTime_formatClock (durationSeconds n)
  unfold signedTime prvInt64ToDuration
  split_ifs with hneg
  · rw [String.toList_append]
    simp [hclock]
  · rw [String.empty_append]
    split
    case h_1 s hminus =>
      have hnumber := isNumber_formatTwo (durationSeconds n / 3600)
      rw [toList_formatClock] at hminus
      cases hhours : (formatTwo (durationSeconds n / 3600)).toList with
      | nil => simp [hhours, isNumber] at hnumber
      | cons c rest =>
          rw [hhours] at hnumber hminus
          have hdigit := (isNumber_iff.mp hnumber).2 c List.mem_cons_self
          exact absurd (List.cons.inj hminus).1 (ne_of_isdigit hdigit rfl)
    case h_2 => simp [hclock]

/-! ## Fields of any number of digits -/

def IsSeconds (s : List Char) (n : Int) : Prop :=
  IsInteger s n ∨
    ∃ whole fraction, s = whole ++ '.' :: fraction ∧ IsInteger whole n ∧
      ':' ∉ fraction

/-- `H:MM:SS` or `H:MM:SS.F` -/
def IsClockText (text : List Char) (hours minutes seconds : Int) : Prop :=
  ∃ first second third, text = first ++ ':' :: (second ++ ':' :: third) ∧
    IsInteger first hours ∧ IsInteger second minutes ∧ IsSeconds third seconds

def IntField (n : Int) : Prop := 0 ≤ n ∧ n < 2 ^ 31

theorem strtol_isSeconds {s : List Char} {n : Int} (h : IsSeconds s n)
    (hrange : IntField n) : strtol s = n := by
  obtain ⟨hnonneg, hlt⟩ := hrange
  rcases h with hinteger | ⟨whole, fraction, rfl, hinteger, -⟩
  · exact strtol_isInteger hinteger (by omega)
  · have hends : EndsNumber ('.' :: fraction) := rfl
    have hread := strtol_of_isInteger hinteger hends
    omega

theorem colon_not_mem_isSeconds {s : List Char} {n : Int}
    (h : IsSeconds s n) : ':' ∉ s := by
  rcases h with hinteger | ⟨whole, fraction, rfl, hinteger, hfraction⟩
  · exact not_mem_isInteger hinteger rfl rfl (by decide) (by decide)
  · have hwhole := not_mem_isInteger (c := ':') hinteger rfl rfl (by decide)
      (by decide)
    simp [hwhole, hfraction]

theorem durationField_le {field : List Char} {n : Int}
    (h : strtol field = n) (hn : 0 ≤ n) (i : Nat) :
    durationField field i ≤ n * i ∧
      (durationField field i = n * i ↔ n * i < 2 ^ 32) := by
  have hfield := durationField_eq ((strtol_gStrstrip field).trans h) i
  have hproduct : 0 ≤ n * i := Int.mul_nonneg hn (Int.natCast_nonneg i)
  rw [hfield]
  omega

theorem prvDurationToInt64_eq_zero {duration : String}
    (h : duration.toList.count ':' ≠ 2) : prvDurationToInt64 duration = 0 := by
  unfold prvDurationToInt64
  split
  case h_1 hours minutes seconds hsplit =>
    have hlength := length_gStrsplit duration.toList ':'
    rw [hsplit] at hlength
    split at hlength
    · simp at hlength
    · simp only [List.length_cons, List.length_nil] at hlength
      omega
  case h_2 => rfl

/--
A reported time is read exactly as long as neither the hours nor the minutes,
in seconds, leave 32 unsigned bits; what has not three fields is zero.
-/
theorem reported_time_exact_iff (duration : String) :
    (∀ hours minutes seconds : Int,
      IsClockText duration.toList hours minutes seconds → IntField hours →
      IntField minutes → IntField seconds →
        (prvDurationToInt64 duration =
            (3600 * hours + 60 * minutes + seconds) * 1000000 ↔
          3600 * hours < 2 ^ 32 ∧ 60 * minutes < 2 ^ 32)) ∧
      (duration.toList.count ':' ≠ 2 → prvDurationToInt64 duration = 0) := by
  refine ⟨?_, prvDurationToInt64_eq_zero⟩
  intro hours minutes seconds htext ⟨hhours, hhoursLt⟩ ⟨hminutes, hminutesLt⟩
    hseconds
  obtain ⟨first, second, third, heq, hfirst, hsecond, hthird⟩ := htext
  have hsplit : gStrsplit duration.toList ':' = [first, second, third] := by
    rw [heq]
    exact gStrsplit_three
      (not_mem_isInteger hfirst rfl rfl (by decide) (by decide))
      (not_mem_isInteger hsecond rfl rfl (by decide) (by decide))
      (colon_not_mem_isSeconds hthird)
  have hreadHours := strtol_isInteger hfirst (by omega)
  have hreadMinutes := strtol_isInteger hsecond (by omega)
  have hreadSeconds := strtol_isSeconds hthird hseconds
  obtain ⟨hhoursLe, hhoursEq⟩ := durationField_le hreadHours hhours 3600
  obtain ⟨hminutesLe, hminutesEq⟩ := durationField_le hreadMinutes hminutes 60
  obtain ⟨hsecondsLe, hsecondsEq⟩ := durationField_le hreadSeconds hseconds.1 1
  have hshort := hseconds.2
  rw [prvDurationToInt64, hsplit]
  simp only
  omega

theorem isClockText_twelve_days :
    IsClockText "300 : 05:07.25".toList 300 5 7 :=
  ⟨"300 ".toList, " 05".toList, "07.25".toList, by decide +kernel,
    isInteger_of_all [] [] "300".toList [' '] (by decide +kernel),
    isInteger_of_all [' '] [] "05".toList [] (by decide +kernel),
    .inr ⟨"07".toList, "25".toList, by decide +kernel,
      isInteger_of_all [] [] "07".toList [] (by decide +kernel),
      by decide +kernel⟩⟩

theorem reported_time_twelve_days :
    prvDurationToInt64 "300 : 05:07.25" = 1080307000000 := by
  have hexact := (reported_time_exact_iff "300 : 05:07.25").1 300 5 7
    isClockText_twelve_days ⟨by decide, by decide⟩ ⟨by decide, by decide⟩
    ⟨by decide, by decide⟩
  exact hexact.mpr ⟨by decide, by decide⟩

/-- Of 1193047 hours the multiplication leaves 1904 seconds. -/
theorem long_time_wraps :
    IsClockText "1193047:00:00".toList 1193047 0 0 ∧ IntField 1193047 ∧
      IntField 0 ∧ prvDurationToInt64 "1193047:00:00" = 1904000000 ∧
      (1904000000 : Int) ≠ (3600 * 1193047 + 60 * 0 + 0) * 1000000 :=
  ⟨⟨"1193047".toList, "00".toList, "00".toList, by decide +kernel,
      isInteger_of_all [] [] "1193047".toList [] (by decide +kernel),
      isInteger_of_all [] [] "00".toList [] (by decide +kernel),
      .inl (isInteger_of_all [] [] "00".toList [] (by decide +kernel))⟩,
    ⟨by decide, by decide⟩, ⟨by decide, by decide⟩, by decide +kernel,
    by decide +kernel⟩

end DleynaRenderer.Player
