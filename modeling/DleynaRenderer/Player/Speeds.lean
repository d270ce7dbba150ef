import DleynaRenderer.Player.State

/-!
# Play speeds

Speeds are rationals written in decimal, `2` or `-1/2`.  Two tables are built
from a list of them side by side: the strings the renderer understands, and the
values, rounded to a hundredth, that are published.
-/

namespace DleynaRenderer.Player

open CString

def prvRationalGetNumerator (r : String) : Int := strtol r.toList

def prvRationalGetDenominator (r : String) : Int :=
  match strstr ['/'] r.toList with
  | none => 1
  | some divPos => strtol divPos.tail

/-- A precision of zero asks for the exact value. -/
def prvRationalToDouble (r : String) (precision : ℚ) : ℚ :=
  let p := prvRationalGetNumerator r
  let q := prvRationalGetDenominator r
  if p = 0 ∨ q = 0 then 0
  else
    let result : ℚ := p / q
    if precision ≠ 0 then CString.round (result / precision) * precision
    else result

def prvRationalIsInvalid (r : String) : Bool :=
  prvRationalGetNumerator r = 0 || prvRationalGetDenominator r = 0

/-- The products are those of `long`, the result that of `int`. -/
def prvCompareRationals (a b : String) : Int :=
  Int.bmod
    (prvRationalGetNumerator a * prvRationalGetDenominator b -
      prvRationalGetNumerator b * prvRationalGetDenominator a) (2 ^ 32)

def precision : ℚ := 1 / 100

def speedValue (r : String) : ℚ := prvRationalToDouble r precision

structure RatesValues where
  mprisTpSpeeds : List ℚ
  upnpTpSpeeds : List String
  minRate : ℚ
  maxRate : ℚ
  deriving DecidableEq, Repr

def extendRange (range : String × String) (rate : String) : String × String :=
  if prvCompareRationals range.1 rate > 0 then (rate, range.2)
  else if prvCompareRationals range.2 rate < 0 then (range.1, rate)
  else range

/-- Invalid speeds are left out of the tables; an empty list gives none. -/
def prvGetRatesValues : List String → Option RatesValues
  | [] => none
  | first :: rest =>
      let valid := (first :: rest).filter fun rate => !prvRationalIsInvalid rate
      let range := valid.foldl extendRange (first, first)
      some
        { mprisTpSpeeds := valid.map speedValue
          upnpTpSpeeds := valid
          minRate := speedValue range.1
          maxRate := speedValue range.2 }

def sortSpeeds (speeds : List String) : List String :=
  gListSort prvCompareRationals speeds

theorem mem_sortSpeeds {speed : String} {speeds : List String} :
    speed ∈ sortSpeeds speeds ↔ speed ∈ speeds :=
  (gListSort_perm speeds).mem_iff

theorem prvGetRatesValues_of_mem {speed : String} {speeds : List String}
    (hmem : speed ∈ speeds) :
    ∃ rates, prvGetRatesValues (sortSpeeds speeds) = some rates := by
  have hsorted := mem_sortSpeeds.mpr hmem
  cases hsort : sortSpeeds speeds with
  | nil => simp [hsort] at hsorted
  | cons first rest => exact ⟨_, rfl⟩

def Parallel (values : List ℚ) (speeds : List String) : Prop :=
  values = speeds.map speedValue

instance (values : List ℚ) (speeds : List String) :
    Decidable (Parallel values speeds) := by
  unfold Parallel
  infer_instance

theorem parallel_prvGetRatesValues {allowed : List String}
    {rates : RatesValues} (h : prvGetRatesValues allowed = some rates) :
    Parallel rates.mprisTpSpeeds rates.upnpTpSpeeds := by
  cases allowed with
  | nil => simp [prvGetRatesValues] at h
  | cons first rest =>
      simp only [prvGetRatesValues, Option.some.injEq] at h
      rw [← h, Parallel]

theorem valid_prvGetRatesValues {allowed : List String}
    {rates : RatesValues} (h : prvGetRatesValues allowed = some rates)
    {rate : String} (hmem : rate ∈ rates.upnpTpSpeeds) :
    prvRationalIsInvalid rate = false := by
  cases allowed with
  | nil => simp [prvGetRatesValues] at h
  | cons first rest =>
      simp only [prvGetRatesValues, Option.some.injEq] at h
      rw [← h, List.mem_filter] at hmem
      simpa using hmem.2

theorem Parallel.speed_of_value {values : List ℚ} {speeds : List String}
    (h : Parallel values speeds) {i : Nat} {value : ℚ}
    (hvalue : values[i]? = some value) :
    ∃ speed, speeds[i]? = some speed ∧ speedValue speed = value := by
  rw [h, List.getElem?_map, Option.map_eq_some_iff] at hvalue
  exact hvalue

def prvAddPlayerSpeedProps (minRate maxRate : ℚ) (speeds : Option (List ℚ))
    (update : Update) : Update :=
  let update :=
    if minRate ≠ 0 then prvChangeProps "MinimumRate" (.double minRate) update
    else update
  let update :=
    if maxRate ≠ 0 then prvChangeProps "MaximumRate" (.double maxRate) update
    else update
  match speeds with
  | none => update
  | some speeds =>
      prvChangeProps "TransportPlaySpeeds" (.doubles speeds) update

def speedKeys : List String :=
  ["MinimumRate", "MaximumRate", "TransportPlaySpeeds"]

theorem changesOnly_prvAddPlayerSpeedProps (minRate maxRate : ℚ)
    (speeds : Option (List ℚ)) (update : Update) :
    ChangesOnly speedKeys update.player
      (prvAddPlayerSpeedProps minRate maxRate speeds update).player := by
  have hchange {key : String} (hkey : key ∈ speedKeys) (value : Variant)
      {first next : Update}
      (h : ChangesOnly speedKeys first.player next.player) :
      ChangesOnly speedKeys first.player (prvChangeProps key value next).player :=
    h.trans (.change hkey value next)
  have hrefl := ChangesOnly.refl speedKeys update.player
  unfold prvAddPlayerSpeedProps
  cases speeds <;> split_ifs <;>
    repeat first | exact hrefl | refine hchange (by decide) _ ?_

theorem bound_prvAddPlayerSpeedProps {minRate maxRate rate : ℚ} {key : String}
    (hbound : (key, rate) ∈ [("MinimumRate", minRate), ("MaximumRate", maxRate)])
    (speeds : Option (List ℚ)) (update : Update) :
    (prvAddPlayerSpeedProps minRate maxRate speeds update).player.prop key =
      if rate ≠ 0 then some (.double rate) else update.player.prop key := by
  simp only [List.mem_cons, Prod.mk.injEq, List.not_mem_nil, or_false] at hbound
  unfold prvAddPlayerSpeedProps
  rcases hbound with ⟨rfl, rfl⟩ | ⟨rfl, rfl⟩
  · cases speeds <;> split_ifs <;> simp
  · cases speeds <;> split_ifs <;> simp

theorem speeds_prvAddPlayerSpeedProps (minRate maxRate : ℚ)
    (speeds : Option (List ℚ)) (update : Update) :
    (prvAddPlayerSpeedProps minRate maxRate speeds update).player.prop
        "TransportPlaySpeeds" =
      (speeds.map Variant.doubles).or
        (update.player.prop "TransportPlaySpeeds") := by
  unfold prvAddPlayerSpeedProps
  cases speeds <;> split_ifs <;> simp

def storeDlnaSpeeds (speeds : List String) (update : Update) : Update :=
  { update with player := { update.player with
      dlnaTransportPlaySpeeds := some speeds } }

/-- The list of an `X_DLNA_PS` action always allows the normal speed. -/
def prvAddDlnaSpeeds (dlnaSpeeds : List (List Char)) (update : Update) :
    Update :=
  let speeds := dlnaSpeeds.map fun speed => String.ofList (gStrstrip speed)
  match prvGetRatesValues (sortSpeeds (speeds.reverse ++ ["1"])) with
  | none => update
  | some rates =>
      prvAddPlayerSpeedProps rates.minRate rates.maxRate
        (some rates.mprisTpSpeeds)
        (storeDlnaSpeeds rates.upnpTpSpeeds update)

/-- `printf` with `%.2f`: the nearest hundredth, halves to the even one. -/
def formatFixed (r : ℚ) : String :=
  let scaled := |r| * 100
  let lower := ⌊scaled⌋.toNat
  let rest := scaled - lower
  let n :=
    if rest < 1 / 2 ∨ (rest = 1 / 2 ∧ lower % 2 = 0) then lower else lower + 1
  let sign := if r < 0 then "-" else ""
  s!"{sign}{n / 100}.{n % 100 / 10}{n % 10}"

def speedTables (player : PlayerState) :
    Option (List ℚ) × Option (List String) :=
  match player.dlnaTransportPlaySpeeds with
  | some speeds =>
      match player.prop "TransportPlaySpeeds" with
      | some (.doubles values) => (some values, some speeds)
      | _ => (none, some speeds)
  | none => (player.mprisTransportPlaySpeeds, player.transportPlaySpeeds)

def findRate (mprisRate : ℚ) (values : List ℚ) : Option (ℚ × Nat) :=
  (values.findIdx? fun value => |mprisRate - value| ≤ 1 / 100).bind fun i =>
    values[i]?.map fun value => (value, i)

theorem getElem_of_findRate {mprisRate value : ℚ} {values : List ℚ} {i : Nat}
    (h : findRate mprisRate values = some (value, i)) :
    values[i]? = some value := by
  obtain ⟨j, -, hvalue⟩ := Option.bind_eq_some_iff.mp h
  obtain ⟨found, hfound, heq⟩ := Option.map_eq_some_iff.mp hvalue
  obtain ⟨rfl, rfl⟩ := Prod.mk.inj heq
  exact hfound

/--
The value and the string at its index, which the code does not compare with the
length of the table: `none` when it lies outside.
-/
def prvGetRateValueFromDouble (player : PlayerState) (mprisRate : ℚ) :
    Except GError (ℚ × Option String) :=
  match speedTables player with
  | (none, _) => .error ⟨.operationFailed, "TransportPlaySpeeds list is empty"⟩
  | (some values, speeds) =>
      match findRate mprisRate values with
      | none => .error ⟨.badQuery,
          s!"Value {formatFixed mprisRate} not in TransportPlaySpeeds"⟩
      | some (value, i) => .ok (value, speeds.bind fun speeds => speeds[i]?)

inductive SetRateResult where
  | error (error : GError)
  | outOfRange
  | ok (player : PlayerState)

def prvSetRate (player : PlayerState) : Variant → SetRateResult
  | .double mprisRate =>
      match prvGetRateValueFromDouble player mprisRate with
      | .error error => .error error
      | .ok (_, none) => .outOfRange
      | .ok (value, some rate) =>
          if player.rate = rate then .ok player
          else .ok (prvEmitSignalPropertiesChanged
            (prvChangeProps "Rate" (.double value)
              (.start { player with rate := rate })))
  | _ => .error ⟨.badQuery, "Parameter is not a double"⟩

theorem prvSetRate_cases {player next : PlayerState} {value : Variant}
    (hok : prvSetRate player value = .ok next) :
    next = player ∨ ∃ (published : ℚ) (rate : String),
      next = prvEmitSignalPropertiesChanged
        (prvChangeProps "Rate" (.double published)
          (.start { player with rate := rate })) := by
  cases value with
  | double mprisRate =>
      simp only [prvSetRate] at hok
      match hfound : prvGetRateValueFromDouble player mprisRate with
      | .error error => simp [hfound] at hok
      | .ok (published, none) => simp [hfound] at hok
      | .ok (published, some rate) =>
          simp only [hfound] at hok
          split_ifs at hok
          · exact .inl (SetRateResult.ok.inj hok).symm
          · exact .inr ⟨published, rate, (SetRateResult.ok.inj hok).symm⟩
  | _ => simp [prvSetRate] at hok

end DleynaRenderer.Player
