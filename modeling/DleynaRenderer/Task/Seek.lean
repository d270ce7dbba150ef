import DleynaRenderer.Player.Duration
import DleynaRenderer.Task.Device

/-!
# Seeking

A seek asks for the present position, adds the offset to it and sends the sum
as the target; setting the position sends the given one.  Times are kept in
signed 64 bits and bytes in unsigned ones.
-/

namespace DleynaRenderer.Task.Seek

open DleynaRenderer.Player CString

structure DlrTaskSeek where
  counterPosition : Nat
  position : Int
  trackNumber : Nat
  deriving DecidableEq, Repr

/-- The parameter is signed, also where it is kept as unsigned. -/
def dlrTaskSeekNew (type : DlrTaskType) (parameter : Int64) : DlrTaskSeek :=
  match type with
  | .seek | .setPosition => ⟨0, parameter.toInt, 0⟩
  | .byteSeek | .setBytePosition => ⟨(parameter.toInt % 2 ^ 64).toNat, 0, 0⟩
  | _ => ⟨0, 0, 0⟩

/-- The `Seek` action of the renderer. -/
structure SeekAction where
  unit : String
  target : String
  deriving DecidableEq, Repr

def prvDeviceSeekSetPosition (posType : String) (seek : DlrTaskSeek) :
    SeekAction :=
  let position :=
    if (gStrrstr "_TIME".toList posType.toList).isSome then
      prvInt64ToDuration seek.position
    else toString seek.counterPosition
  ⟨posType, position⟩

def prvDeviceSetPosition (posType : String) (seek : DlrTaskSeek) :
    SeekAction :=
  let position :=
    if posType = "TRACK_NR" then toString seek.trackNumber
    else if (gStrrstr "_TIME".toList posType.toList).isSome then
      prvInt64ToDuration seek.position
    else toString seek.counterPosition
  ⟨posType, position⟩

def dlrDeviceSetPosition (type : DlrTaskType) (seek : DlrTaskSeek) :
    SeekAction :=
  if type = .setPosition then prvDeviceSetPosition "REL_TIME" seek
  else prvDeviceSetPosition "X_DLNA_REL_BYTE" seek

/-- The sums are those of 64 bits, signed for times and unsigned for bytes. -/
def addPosition (type : DlrTaskType) (result : String) (seek : DlrTaskSeek) :
    DlrTaskSeek :=
  let result := strip result
  if type = .seek then
    { seek with
      position :=
        Int.bmod (seek.position + prvDurationToInt64 result) (2 ^ 64) }
  else
    { seek with
      counterPosition :=
        (seek.counterPosition + strtoull result.toList) % 2 ^ 64 }

def prvCompleteSeekGetPosition (type : DlrTaskType) (reply : ActionReply)
    (seek : DlrTaskSeek) : Option SeekAction :=
  match reply.failure, reply.result with
  | none, some result =>
      let seek := addPosition type result seek
      if type = .seek then some (prvDeviceSeekSetPosition "REL_TIME" seek)
      else some (prvDeviceSeekSetPosition "X_DLNA_REL_BYTE" seek)
  | _, _ => none

/-- A request with what the renderer reports, as far as it is asked. -/
inductive Request where
  | seek (offset : Int64) (relTime : String)
  | byteSeek (offset : Int64) (relByte : String)
  | setPosition (position : Int64)
  | setBytePosition (position : Int64)
  deriving DecidableEq

def Request.action : Request → Option SeekAction
  | .seek offset relTime =>
      prvCompleteSeekGetPosition .seek ⟨none, some relTime⟩
        (dlrTaskSeekNew .seek offset)
  | .byteSeek offset relByte =>
      prvCompleteSeekGetPosition .byteSeek ⟨none, some relByte⟩
        (dlrTaskSeekNew .byteSeek offset)
  | .setPosition position =>
      some (dlrDeviceSetPosition .setPosition
        (dlrTaskSeekNew .setPosition position))
  | .setBytePosition position =>
      some (dlrDeviceSetPosition .setBytePosition
        (dlrTaskSeekNew .setBytePosition position))

def reportedTime (relTime : String) : Option ℚ :=
  (clockTime (strip relTime).toList).map fun time =>
    (time.1 + time.2) * 1000000

def reportedByte (relByte : String) : Option Nat :=
  readNumber (strip relByte).toList

def Request.position : Request → Option ℚ
  | .seek offset relTime =>
      (reportedTime relTime).map fun current => current + offset.toInt
  | .byteSeek offset relByte =>
      (reportedByte relByte).map fun (current : Nat) =>
        (current : ℚ) + offset.toInt
  | .setPosition position | .setBytePosition position => some position.toInt

/-- The target is the time, in whole seconds, or the start. -/
def TimeTarget (p : ℚ) (target : String) : Prop :=
  (0 ≤ p → p < 2 ^ 32 * 1000000 →
    signedTime target = some (⌊p / 1000000⌋ : ℚ)) ∧
  (p < 0 → signedTime target = some 0)

def ByteTarget (p : ℚ) (target : String) : Prop :=
  (0 ≤ p → p < 2 ^ 64 →
    (readNumber target.toList).map (fun n : Nat => (n : ℚ)) = some p) ∧
  (p < 0 → readNumber target.toList = some 0)

def Request.Target (p : ℚ) (target : String) : Request → Prop
  | .seek _ _ | .setPosition _ => TimeTarget p target
  | .byteSeek _ _ | .setBytePosition _ => ByteTarget p target

def Faithful (request : Request) (p : ℚ) : Prop :=
  ∃ action, request.action = some action ∧ request.Target p action.target

/--
The reported and the given fractions of a second do not add up to another
second, and the sum of what is decoded is not negative; or the target is at the
start and the count of seconds before it happens to be a multiple of the range.
-/
def SeekInRange (offset : Int64) (relTime : String) (p : ℚ) : Prop :=
  let sum := prvDurationToInt64 (strip relTime) + offset.toInt
  2 ^ 32 * 1000000 ≤ p ∨
    (0 ≤ sum ∧ ⌊p / 1000000⌋ =
      ⌊(p - offset.toInt) / 1000000⌋ + offset.toInt / 1000000) ∨
    (sum < 0 ∧ p < 1000000 ∧ 2 ^ 32 ∣ -sum / 1000000)

def Request.InRange (p : ℚ) : Request → Prop
  | .seek offset relTime => SeekInRange offset relTime p
  | .byteSeek offset _ => 2 ^ 64 ≤ p ∨ 0 ≤ p ∧ p - offset.toInt < 2 ^ 64
  | .setPosition position => 0 ≤ p ∨ 2 ^ 32 ∣ -position.toInt / 1000000
  | .setBytePosition _ => 0 ≤ p

theorem timeTarget_iff (p : ℚ) (n : Int) :
    TimeTarget p (prvInt64ToDuration n) ↔
      (0 ≤ ⌊p / 1000000⌋ → ⌊p / 1000000⌋ < 2 ^ 32 →
        (if n < 0 then -(durationSeconds n : Int) else durationSeconds n) =
          ⌊p / 1000000⌋) ∧
      (⌊p / 1000000⌋ < 0 → durationSeconds n = 0) := by
  have hnonneg : 0 ≤ ⌊p / 1000000⌋ ↔ 0 ≤ p := by
    rw [Int.floor_nonneg, le_div_iff₀ (by norm_num), zero_mul]
  have hneg : ⌊p / 1000000⌋ < 0 ↔ p < 0 := by
    rw [← not_le, hnonneg, not_le]
  have hlt : ⌊p / 1000000⌋ < 2 ^ 32 ↔ p < 2 ^ 32 * 1000000 := by
    rw [Int.floor_lt, div_lt_iff₀ (by norm_num)]
    norm_num
  unfold TimeTarget
  rw [hnonneg, hneg, hlt, signedTime_prvInt64ToDuration]
  split_ifs
  · have hcast : -(durationSeconds n : ℚ) = ((-durationSeconds n : Int) : ℚ) := by
      push_cast
      rfl
    simp only [Option.some.injEq, hcast, Int.cast_inj, Int.cast_eq_zero,
      neg_eq_zero, Nat.cast_eq_zero]
  · have hcast : (durationSeconds n : ℚ) = ((durationSeconds n : Int) : ℚ) := by
      push_cast
      rfl
    simp only [Option.some.injEq, hcast, Int.cast_inj, Int.cast_eq_zero,
      Nat.cast_eq_zero]

theorem durationSeconds_of_nonneg {n : Int} (h : 0 ≤ n) :
    (durationSeconds n : Int) = n / 1000000 % 2 ^ 32 := by
  rw [durationSeconds, if_neg (by omega), Int.tdiv_eq_ediv_of_nonneg h]
  omega

theorem durationSeconds_eq_zero_iff {n : Int} (hneg : n < 0)
    (hbound : -2 ^ 63 ≤ n) :
    durationSeconds n = 0 ↔ 2 ^ 32 ∣ -n / 1000000 := by
  rcases eq_or_lt_of_le hbound with rfl | hlt
  · decide +kernel
  · have hwrap : Int.bmod (-n) (2 ^ 64) = -n :=
      Int.bmod_eq_of_le (by omega) (by omega)
    rw [durationSeconds, if_pos hneg, hwrap,
      Int.tdiv_eq_ediv_of_nonneg (by omega)]
    omega

theorem timeTarget_sum_iff {p : ℚ} {seconds decoded : Nat} {offset : Int}
    (hoffset : -2 ^ 63 ≤ offset ∧ offset < 2 ^ 63)
    (hle : decoded ≤ seconds) (hlt : decoded < 3 * 2 ^ 32)
    (hmod : seconds < 2 ^ 63 → decoded % 2 ^ 32 = seconds % 2 ^ 32)
    (hfloor : seconds + offset / 1000000 ≤ ⌊p / 1000000⌋)
    (hcarry : ⌊p / 1000000⌋ ≤ seconds + offset / 1000000 + 1) :
    TimeTarget p (prvInt64ToDuration
        (Int.bmod (offset + decoded * 1000000) (2 ^ 64))) ↔
      2 ^ 32 ≤ ⌊p / 1000000⌋ ∨
        (0 ≤ decoded * 1000000 + offset ∧
          ⌊p / 1000000⌋ = seconds + offset / 1000000) ∨
        (decoded * 1000000 + offset < 0 ∧ ⌊p / 1000000⌋ < 1 ∧
          2 ^ 32 ∣ -(decoded * 1000000 + offset) / 1000000) := by
  rw [timeTarget_iff]
  generalize ⌊p / 1000000⌋ = whole at *
  rcases lt_or_ge whole (2 ^ 32) with hsmall | hlarge
  case inr => omega
  have hwrap : Int.bmod (offset + decoded * 1000000) (2 ^ 64) =
      offset + decoded * 1000000 :=
    Int.bmod_eq_of_le (by omega) (by omega)
  rw [hwrap]
  rcases lt_or_ge (offset + decoded * 1000000) 0 with hneg | hnonneg
  · have hzero := durationSeconds_eq_zero_iff hneg (by omega)
    rw [if_pos hneg]
    omega
  · have hseconds := durationSeconds_of_nonneg hnonneg
    have hcongr := hmod (by omega)
    rw [if_neg (by omega)]
    omega

theorem relTime_isTime :
    (gStrrstr "_TIME".toList "REL_TIME".toList).isSome = true := by
  decide

theorem relByte_not_isTime :
    (gStrrstr "_TIME".toList "X_DLNA_REL_BYTE".toList).isSome = false := by
  decide

theorem action_seek (offset : Int64) (relTime : String) :
    (Request.seek offset relTime).action =
      some ⟨"REL_TIME", prvInt64ToDuration (Int.bmod
        (offset.toInt + prvDurationToInt64 (strip relTime)) (2 ^ 64))⟩ := by
  simp only [Request.action, prvCompleteSeekGetPosition, addPosition,
    dlrTaskSeekNew, prvDeviceSeekSetPosition, relTime_isTime, if_true]

theorem action_byteSeek (offset : Int64) (relByte : String) :
    (Request.byteSeek offset relByte).action =
      some ⟨"X_DLNA_REL_BYTE", toString
        (((offset.toInt % 2 ^ 64).toNat + strtoull (strip relByte).toList) %
          2 ^ 64)⟩ := by
  simp only [Request.action, prvCompleteSeekGetPosition, addPosition,
    dlrTaskSeekNew, prvDeviceSeekSetPosition, relByte_not_isTime, reduceCtorEq,
    Bool.false_eq_true, if_false]

theorem action_setPosition (position : Int64) :
    (Request.setPosition position).action =
      some ⟨"REL_TIME", prvInt64ToDuration position.toInt⟩ := by
  have hunit : "REL_TIME" ≠ "TRACK_NR" := by decide
  simp only [Request.action, dlrDeviceSetPosition, prvDeviceSetPosition,
    dlrTaskSeekNew, if_neg hunit, relTime_isTime, if_true]

theorem action_setBytePosition (position : Int64) :
    (Request.setBytePosition position).action =
      some ⟨"X_DLNA_REL_BYTE", toString (position.toInt % 2 ^ 64).toNat⟩ := by
  have hunit : "X_DLNA_REL_BYTE" ≠ "TRACK_NR" := by decide
  simp only [Request.action, dlrDeviceSetPosition, prvDeviceSetPosition,
    dlrTaskSeekNew, if_neg hunit, relByte_not_isTime, reduceCtorEq,
    Bool.false_eq_true, if_false]

theorem faithful_iff {request : Request} {p : ℚ} {action : SeekAction}
    (h : request.action = some action) :
    Faithful request p ↔ request.Target p action.target := by
  simp [Faithful, h]

theorem seek_iff {offset : Int64} {relTime : String} {p : ℚ}
    (h : (Request.seek offset relTime).position = some p) :
    Faithful (.seek offset relTime) p ↔ SeekInRange offset relTime p := by
  simp only [Request.position, reportedTime, Option.map_map,
    Option.map_eq_some_iff] at h
  obtain ⟨⟨seconds, fraction⟩, hclock, hp⟩ := h
  obtain ⟨⟨hnonneg, hone⟩, decoded, hdecoded, hle, hlt, hmod⟩ :=
    prvDurationToInt64_of_clockTime hclock
  have hsum : p / 1000000 =
      seconds + (fraction + offset.toInt / 1000000) := by
    rw [← hp]
    simp only [Function.comp_apply]
    ring
  have hcurrent : (p - offset.toInt) / 1000000 = seconds + fraction := by
    rw [sub_div, hsum]
    ring
  have hseconds : ⌊(p - offset.toInt) / 1000000⌋ = (seconds : Int) := by
    rw [hcurrent, Int.floor_natCast_add, Int.floor_eq_zero_iff.mpr ⟨hnonneg, hone⟩,
      add_zero]
  have hoffset : ⌊(offset.toInt : ℚ) / 1000000⌋ = offset.toInt / 1000000 := by
    exact_mod_cast Rat.floor_intCast_div_natCast offset.toInt 1000000
  have hfloor : ⌊p / 1000000⌋ =
      seconds + ⌊fraction + (offset.toInt : ℚ) / 1000000⌋ := by
    rw [hsum, Int.floor_natCast_add]
  have hlow : ⌊(offset.toInt : ℚ) / 1000000⌋ ≤
      ⌊fraction + (offset.toInt : ℚ) / 1000000⌋ :=
    Int.floor_mono (by linarith)
  have hhigh : ⌊fraction + (offset.toInt : ℚ) / 1000000⌋ ≤
      ⌊(offset.toInt : ℚ) / 1000000⌋ + 1 := by
    rw [← Int.floor_add_one]
    exact Int.floor_mono (by linarith)
  have hlarge : 2 ^ 32 * 1000000 ≤ p ↔ 2 ^ 32 ≤ ⌊p / 1000000⌋ := by
    rw [Int.le_floor, le_div_iff₀ (by norm_num)]
    norm_num
  have hstart : p < 1000000 ↔ ⌊p / 1000000⌋ < 1 := by
    rw [Int.floor_lt, div_lt_iff₀ (by norm_num)]
    norm_num
  rw [faithful_iff (action_seek offset relTime), Request.Target, SeekInRange,
    hdecoded, hlarge, hstart, hseconds]
  exact timeTarget_sum_iff ⟨offset.le_toInt, offset.toInt_lt⟩ hle hlt hmod
    (by omega) (by omega)

theorem readNumber_toString (n : Nat) : readNumber (toString n).toList = some n := by
  rw [show (toString n).toList = n.repr.toList from rfl, readNumber,
    if_pos (isNumber_repr n), ofDigits_repr]

theorem byteTarget_iff (sum : Int) (n : Nat) :
    ByteTarget sum (toString n) ↔
      (0 ≤ sum → sum < 2 ^ 64 → (n : Int) = sum) ∧ (sum < 0 → n = 0) := by
  have hcast : (n : ℚ) = sum ↔ (n : Int) = sum := by
    rw [← Int.cast_natCast, Int.cast_inj]
  have hlt : (sum : ℚ) < 2 ^ 64 ↔ sum < 2 ^ 64 := by
    exact_mod_cast Iff.rfl
  simp only [ByteTarget, readNumber_toString, Option.map_some,
    Option.some.injEq, hcast, hlt, Int.cast_nonneg_iff, Int.cast_lt_zero]

theorem byteSeek_iff {offset : Int64} {relByte : String} {p : ℚ}
    (h : (Request.byteSeek offset relByte).position = some p) :
    Faithful (.byteSeek offset relByte) p ↔
      2 ^ 64 ≤ p ∨ 0 ≤ p ∧ p - offset.toInt < 2 ^ 64 := by
  simp only [Request.position, Option.map_eq_some_iff] at h
  obtain ⟨current, hreported, hp⟩ := h
  have hsum : p = ((current + offset.toInt : Int) : ℚ) := by
    rw [← hp]
    push_cast
    rfl
  rw [reportedByte, readNumber, Option.ite_none_right_eq_some] at hreported
  obtain ⟨hnumber, hvalue⟩ := hreported
  have hread := strtoull_isNumber hnumber endsNumber_nil
  rw [List.append_nil, Option.some.inj hvalue] at hread
  have hcurrent : p - offset.toInt = ((current : Int) : ℚ) := by
    rw [← hp]
    simp
  have hlow := offset.le_toInt
  have hhigh := offset.toInt_lt
  have hlarge : (2 ^ 64 : ℚ) ≤ ((current + offset.toInt : Int) : ℚ) ↔
      2 ^ 64 ≤ current + offset.toInt := by
    exact_mod_cast Iff.rfl
  have hlt : ((current : Int) : ℚ) < 2 ^ 64 ↔ (current : Int) < 2 ^ 64 := by
    exact_mod_cast Iff.rfl
  rw [faithful_iff (action_byteSeek offset relByte), Request.Target, hcurrent,
    hsum, byteTarget_iff, hread, hlarge, hlt, Int.cast_nonneg_iff]
  omega

theorem setPosition_iff (position : Int64) :
    Faithful (.setPosition position) position.toInt ↔
      0 ≤ (position.toInt : ℚ) ∨ 2 ^ 32 ∣ -position.toInt / 1000000 := by
  have hfloor : ⌊(position.toInt : ℚ) / 1000000⌋ = position.toInt / 1000000 := by
    exact_mod_cast Rat.floor_intCast_div_natCast position.toInt 1000000
  have hlow := position.le_toInt
  rw [faithful_iff (action_setPosition position), Request.Target, timeTarget_iff,
    hfloor, Int.cast_nonneg_iff]
  rcases lt_or_ge position.toInt 0 with hneg | hnonneg
  · have hzero := durationSeconds_eq_zero_iff hneg hlow
    rw [if_pos hneg]
    omega
  · have hseconds := durationSeconds_of_nonneg hnonneg
    rw [if_neg (by omega)]
    omega

theorem setBytePosition_iff (position : Int64) :
    Faithful (.setBytePosition position) position.toInt ↔
      0 ≤ (position.toInt : ℚ) := by
  have hlow := position.le_toInt
  have hhigh := position.toInt_lt
  rw [faithful_iff (action_setBytePosition position), Request.Target,
    byteTarget_iff, Int.cast_nonneg_iff]
  omega

/-- The target is the position that is asked for exactly when it is in range. -/
theorem seek_target_iff (request : Request) (p : ℚ)
    (h : request.position = some p) :
    Faithful request p ↔ request.InRange p := by
  cases request with
  | seek offset relTime => exact seek_iff h
  | byteSeek offset relByte => exact byteSeek_iff h
  | setPosition position =>
      obtain rfl := Option.some.inj h
      exact setPosition_iff position
  | setBytePosition position =>
      obtain rfl := Option.some.inj h
      exact setBytePosition_iff position

theorem seek_target_forward :
    (Request.seek 90000000 "0:01:05").action = some ⟨"REL_TIME", "00:02:35"⟩ ∧
      Faithful (.seek 90000000 "0:01:05") 155000000 := by
  refine ⟨by decide +kernel, ?_⟩
  refine (seek_target_iff (.seek 90000000 "0:01:05") 155000000
    (by decide +kernel)).mpr (.inr (.inl ?_))
  decide +kernel

/-- Seeking back past the start sends a time below zero, or a huge position. -/
theorem seek_before_start :
    (Request.seek (-10000000) "0:00:05").action =
        some ⟨"REL_TIME", "-00:00:05"⟩ ∧
      (Request.seek (-10000000) "0:00:05").position = some (-5000000) ∧
      signedTime "-00:00:05" = some (-5) ∧
      (Request.byteSeek (-10) "5").action =
        some ⟨"X_DLNA_REL_BYTE", "18446744073709551611"⟩ ∧
      (Request.byteSeek (-10) "5").position = some (-5) ∧
      ¬Faithful (.byteSeek (-10) "5") (-5) := by
  refine ⟨by decide +kernel, by decide +kernel, by decide +kernel,
    by decide +kernel, by decide +kernel, ?_⟩
  rintro ⟨action, haction, -, hzero⟩
  obtain rfl := Option.some.inj haction
  revert hzero
  decide +kernel

end DleynaRenderer.Task.Seek
