import DleynaRenderer.Player.Rates
import DleynaRenderer.Player.Signals
import Mathlib.Data.List.TakeWhile

/-!
# Selecting a published speed

A client sets the rate to one of the speeds it has read.  The code takes the
first published speed within a hundredth, which is as far as two speeds of the
rounded grid are apart, and then the string at the same place of the table in
use.
-/

namespace DleynaRenderer.Player

open CString

def OnGrid (value : ℚ) : Prop := ∃ k : Int, value = k / 100

theorem onGrid_speedValue (speed : String) : OnGrid (speedValue speed) := by
  unfold speedValue prvRationalToDouble precision
  simp only
  split
  · exact ⟨0, by norm_num⟩
  · rw [if_pos (by norm_num)]
    exact ⟨_, by rw [mul_one_div]⟩

def Beside (value other : ℚ) : Prop :=
  other = value ∨ other = value + 1 / 100 ∨ other = value - 1 / 100

theorem near_iff_of_onGrid {value other : ℚ} (h : OnGrid value)
    (hother : OnGrid other) :
    |value - other| ≤ 1 / 100 ↔ Beside value other := by
  obtain ⟨k, rfl⟩ := h
  obtain ⟨l, rfl⟩ := hother
  have hdiff : (k / 100 - l / 100 : ℚ) = ((k - l : Int) : ℚ) / 100 := by
    push_cast
    ring
  constructor
  · intro hnear
    have hone : |((k - l : Int) : ℚ)| ≤ 1 := by
      rw [hdiff, abs_div, abs_of_pos (show (0 : ℚ) < 100 by norm_num)] at hnear
      linarith
    have hint : |k - l| ≤ 1 := by exact_mod_cast hone
    have hcases : l = k ∨ l = k + 1 ∨ l = k - 1 := by
      rw [abs_le] at hint
      omega
    rcases hcases with rfl | rfl | rfl
    · exact .inl rfl
    · refine .inr (.inl ?_)
      push_cast
      ring
    · refine .inr (.inr ?_)
      push_cast
      ring
  · rintro (heq | heq | heq) <;> rw [heq, abs_le] <;> constructor <;> linarith

theorem find?_eq_some_iff_first {p : ℚ → Bool} {values : List ℚ} {value : ℚ}
    (hp : p value = true) (hmem : value ∈ values) :
    values.find? p = some value ↔
      ∀ earlier ∈ values.takeWhile (· ≠ value), p earlier = false := by
  induction values with
  | nil => contradiction
  | cons first values ih =>
      rw [List.find?_cons, List.takeWhile_cons]
      by_cases hfirst : first = value
      · subst hfirst
        simp [hp]
      · have htail : value ∈ values := by
          rcases List.mem_cons.mp hmem with rfl | htail
          · exact absurd rfl hfirst
          · exact htail
        cases hnear : p first with
        | true => simp [hfirst, hnear]
        | false => simpa [hfirst, hnear] using ih htail

def isNear (rate value : ℚ) : Bool := |rate - value| ≤ 1 / 100

theorem findRate_eq (rate : ℚ) (values : List ℚ) :
    (findRate rate values).map Prod.fst = values.find? (isNear rate) := by
  rw [List.find?_eq_bind_findIdx?_getElem?]
  unfold findRate isNear
  cases values.findIdx? fun value => |rate - value| ≤ 1 / 100 with
  | none => rfl
  | some i =>
      simp only [Option.bind_some, Option.map_map]
      cases values[i]? <;> rfl

theorem findRate_eq_none_iff (rate : ℚ) (values : List ℚ) :
    findRate rate values = none ↔
      ∀ value ∈ values, ¬|rate - value| ≤ 1 / 100 := by
  rw [← Option.map_eq_none_iff, findRate_eq, List.find?_eq_none]
  simp [isNear]

theorem findRate_eq_some_iff {rate value : ℚ} {values : List ℚ} {i : Nat} :
    findRate rate values = some (value, i) ↔
      values[i]? = some value ∧ |rate - value| ≤ 1 / 100 ∧
        ∀ j < i, ∀ earlier, values[j]? = some earlier →
          ¬|rate - earlier| ≤ 1 / 100 := by
  unfold findRate
  simp only [Option.bind_eq_some_iff, Option.map_eq_some_iff, Prod.mk.injEq,
    List.findIdx?_eq_some_iff_getElem, decide_eq_true_eq]
  constructor
  · rintro ⟨_, ⟨hlt, hnear, hfirst⟩, _, hvalue, rfl, rfl⟩
    obtain ⟨_, rfl⟩ := List.getElem?_eq_some_iff.mp hvalue
    refine ⟨hvalue, hnear, fun j hj earlier hearlier => ?_⟩
    obtain ⟨_, rfl⟩ := List.getElem?_eq_some_iff.mp hearlier
    exact hfirst j hj
  · rintro ⟨hvalue, hnear, hfirst⟩
    obtain ⟨hlt, rfl⟩ := List.getElem?_eq_some_iff.mp hvalue
    refine ⟨i, ⟨hlt, hnear, fun j hj => ?_⟩, _, hvalue, rfl, rfl⟩
    exact hfirst j hj _ (List.getElem?_eq_getElem (hj.trans hlt))

def NoNeighbourBefore (rate : ℚ) (values : List ℚ) : Prop :=
  ∀ earlier ∈ values.takeWhile (· ≠ rate),
    earlier ≠ rate + 1 / 100 ∧ earlier ≠ rate - 1 / 100

instance (rate : ℚ) (values : List ℚ) :
    Decidable (NoNeighbourBefore rate values) :=
  inferInstanceAs (Decidable (∀ earlier ∈ _, _))

theorem find?_isNear_iff {rate : ℚ} {values : List ℚ}
    (hgrid : ∀ value ∈ values, OnGrid value) (hmem : rate ∈ values) :
    values.find? (isNear rate) = some rate ↔ NoNeighbourBefore rate values := by
  have hself : isNear rate rate = true := by simp [isNear]
  rw [find?_eq_some_iff_first hself hmem]
  refine forall₂_congr fun earlier hearlier => ?_
  have hne : earlier ≠ rate := by
    simpa using List.mem_takeWhile_imp hearlier
  have hnear := near_iff_of_onGrid (hgrid rate hmem)
    (hgrid earlier ((List.takeWhile_sublist _).subset hearlier))
  rw [isNear, decide_eq_false_iff_not, hnear]
  simp [Beside, hne]

/-- A list that is read, of an event or of the description. -/
inductive SpeedList where
  | announced (speeds : List (List Char))
  | allowed (speeds : List String) (bytePosition : Bool)
  deriving DecidableEq, Repr

def SpeedList.sorted : SpeedList → List String
  | .announced speeds => sortSpeeds (announcedSpeeds speeds)
  | .allowed speeds _ => sortSpeeds speeds

def SpeedList.values (list : SpeedList) : List ℚ :=
  (validSpeeds list.sorted).map speedValue

theorem values_of_rates {list : SpeedList} {rates : RatesValues}
    (h : prvGetRatesValues list.sorted = some rates) :
    rates.mprisTpSpeeds = list.values :=
  mprisTpSpeeds_eq h

theorem values_onGrid (list : SpeedList) :
    ∀ value ∈ list.values, OnGrid value := by
  intro value hmem
  obtain ⟨speed, -, rfl⟩ := List.mem_map.mp hmem
  exact onGrid_speedValue speed

def readSpeeds (player : PlayerState) : SpeedList → PlayerState
  | .announced speeds =>
      prvEmitSignalPropertiesChanged (prvAddDlnaSpeeds speeds (.start player))
  | .allowed speeds bytePosition =>
      finishUpdate (prvGetAvServiceStatesValues speeds bytePosition player)

def stringsInUse (player : PlayerState) (rates : RatesValues) :
    SpeedList → List String
  | .announced _ => rates.upnpTpSpeeds
  | .allowed _ _ => player.dlnaTransportPlaySpeeds.getD rates.upnpTpSpeeds

theorem speedTables_of_some {player : PlayerState} {strings : List String}
    {values : List ℚ} (hdlna : player.dlnaTransportPlaySpeeds = some strings)
    (hpublished : player.prop "TransportPlaySpeeds" = some (.doubles values)) :
    speedTables player = (some values, some strings) := by
  rw [speedTables, hdlna]
  simp only [hpublished]

theorem speedTables_of_none {player : PlayerState}
    (hdlna : player.dlnaTransportPlaySpeeds = none) :
    speedTables player =
      (player.mprisTransportPlaySpeeds, player.transportPlaySpeeds) := by
  rw [speedTables, hdlna]

theorem speedTables_announced {player : PlayerState}
    {speeds : List (List Char)} {rates : RatesValues}
    (h : dlnaSpeedRates speeds = some rates) :
    (readSpeeds player (.announced speeds)).prop "TransportPlaySpeeds" =
        some (.doubles rates.mprisTpSpeeds) ∧
      speedTables (readSpeeds player (.announced speeds)) =
        (some rates.mprisTpSpeeds, some rates.upnpTpSpeeds) := by
  have hadds : prvAddDlnaSpeeds speeds (.start player) =
      prvAddPlayerSpeedProps rates.minRate rates.maxRate
        (some rates.mprisTpSpeeds)
        (storeDlnaSpeeds rates.upnpTpSpeeds (.start player)) := by
    unfold dlnaSpeedRates at h
    simp only [prvAddDlnaSpeeds, h]
  have hlist := speeds_prvAddPlayerSpeedProps rates.minRate rates.maxRate
    (some rates.mprisTpSpeeds)
    (storeDlnaSpeeds rates.upnpTpSpeeds (.start player))
  have hstrings := (changesOnly_prvAddPlayerSpeedProps rates.minRate
    rates.maxRate (some rates.mprisTpSpeeds)
    (storeDlnaSpeeds rates.upnpTpSpeeds (.start player))).dlna_eq
  rw [← hadds] at hlist hstrings
  exact ⟨hlist, speedTables_of_some hstrings hlist⟩

theorem tables_finishUpdate (player : PlayerState) :
    (finishUpdate player).dlnaTransportPlaySpeeds =
        player.dlnaTransportPlaySpeeds ∧
      (finishUpdate player).mprisTransportPlaySpeeds =
        player.mprisTransportPlaySpeeds ∧
      (finishUpdate player).transportPlaySpeeds = player.transportPlaySpeeds ∧
      (finishUpdate player).prop "TransportPlaySpeeds" =
        (player.mprisTransportPlaySpeeds.map Variant.doubles).or
          (player.prop "TransportPlaySpeeds") := by
  have hspeeds := changesOnly_prvAddPlayerSpeedProps player.minRate
    player.maxRate player.mprisTransportPlaySpeeds (.start player)
  have hactions := changesOnly_changeBooleans allActions
    (prvAddPlayerSpeedProps player.minRate player.maxRate
      player.mprisTransportPlaySpeeds (.start player))
  refine ⟨hactions.dlna_eq.trans hspeeds.dlna_eq,
    hactions.mpris_eq.trans hspeeds.mpris_eq,
    hactions.transport_eq.trans hspeeds.transport_eq, ?_⟩
  exact (hactions.props "TransportPlaySpeeds" (by decide)).trans
    (speeds_prvAddPlayerSpeedProps _ _ _ _)

theorem speedTables_allowed {player : PlayerState} {speeds : List String}
    {rates : RatesValues} (bytePosition : Bool)
    (h : prvGetRatesValues (sortSpeeds speeds) = some rates) :
    let next := readSpeeds player (.allowed speeds bytePosition)
    next.prop "TransportPlaySpeeds" = some (.doubles rates.mprisTpSpeeds) ∧
      speedTables next = (some rates.mprisTpSpeeds,
        some (player.dlnaTransportPlaySpeeds.getD rates.upnpTpSpeeds)) := by
  obtain ⟨hdlna, hmpris, htransport, hpublished⟩ := tables_finishUpdate
    (prvGetAvServiceStatesValues speeds bytePosition player)
  simp only [prvGetAvServiceStatesValues, h] at hdlna hmpris htransport hpublished
  simp only [readSpeeds, prvGetAvServiceStatesValues, h]
  generalize finishUpdate _ = next at *
  refine ⟨hpublished, ?_⟩
  cases hstrings : player.dlnaTransportPlaySpeeds with
  | none =>
      rw [speedTables_of_none (hdlna.trans hstrings), hmpris, htransport]
      rfl
  | some strings => exact speedTables_of_some (hdlna.trans hstrings) hpublished

theorem speedTables_readSpeeds (player : PlayerState) {list : SpeedList}
    {rates : RatesValues} (h : prvGetRatesValues list.sorted = some rates) :
    (readSpeeds player list).prop "TransportPlaySpeeds" =
        some (.doubles rates.mprisTpSpeeds) ∧
      speedTables (readSpeeds player list) =
        (some rates.mprisTpSpeeds, some (stringsInUse player rates list)) := by
  cases list with
  | announced speeds => exact speedTables_announced h
  | allowed speeds bytePosition => exact speedTables_allowed bytePosition h

/-! ## Selection -/

def SelectsSpeed (player : PlayerState) (rate : ℚ) : Prop :=
  ∃ next, prvSetRate player (.double rate) = .ok next ∧
    speedValue next.rate = rate

def RejectsRate (player : PlayerState) (rate : ℚ) : Prop :=
  (∃ error, prvSetRate player (.double rate) = .error error) ∧
    ∀ info run, run.player = player →
      plainEffect info run (.setRate (.double rate)) = some player

theorem selectsSpeed_iff {player : PlayerState} {values : List ℚ}
    {strings : List String}
    (htables : speedTables player = (some values, some strings)) (rate : ℚ) :
    SelectsSpeed player rate ↔
      ∃ value i speed, findRate rate values = some (value, i) ∧
        strings[i]? = some speed ∧ speedValue speed = rate := by
  unfold SelectsSpeed prvSetRate prvGetRateValueFromDouble
  simp only [htables, Option.bind_some]
  cases hfound : findRate rate values with
  | none => simp
  | some found =>
      obtain ⟨value, i⟩ := found
      cases hspeed : strings[i]? with
      | none => simp [hspeed]
      | some speed =>
          simp only [hspeed]
          constructor
          · rintro ⟨next, hok, hvalue⟩
            refine ⟨value, i, speed, rfl, hspeed, ?_⟩
            split at hok
            case isTrue hsame =>
              obtain rfl := SetRateResult.ok.inj hok
              rwa [← hsame]
            case isFalse =>
              obtain rfl := SetRateResult.ok.inj hok
              exact hvalue
          · rintro ⟨value', i', speed', hfound', hspeed', hvalue⟩
            obtain ⟨rfl, rfl⟩ := Prod.mk.inj (Option.some.inj hfound')
            rw [hspeed] at hspeed'
            obtain rfl := Option.some.inj hspeed'
            split
            case isTrue hsame => exact ⟨player, rfl, hsame ▸ hvalue⟩
            case isFalse => exact ⟨_, rfl, hvalue⟩

theorem rejectsRate_of_far {player : PlayerState} {values : List ℚ}
    {strings : Option (List String)}
    (htables : speedTables player = (some values, strings)) {rate : ℚ}
    (hfar : ∀ value ∈ values, 1 / 100 < |rate - value|) :
    RejectsRate player rate := by
  have hfound : findRate rate values = none :=
    (findRate_eq_none_iff rate values).mpr fun value hmem =>
      not_le.mpr (hfar value hmem)
  have hrejected : ∃ error, prvSetRate player (.double rate) = .error error := by
    simp [prvSetRate, prvGetRateValueFromDouble, htables, hfound]
  refine ⟨hrejected, ?_⟩
  rintro info run rfl
  obtain ⟨error, herror⟩ := hrejected
  simp [plainEffect, herror]

theorem selectsSpeed_iff_of_parallel {player : PlayerState} {values : List ℚ}
    {strings : List String}
    (htables : speedTables player = (some values, some strings))
    (hparallel : Parallel values strings)
    (hgrid : ∀ value ∈ values, OnGrid value) {rate : ℚ} (hmem : rate ∈ values) :
    SelectsSpeed player rate ↔ NoNeighbourBefore rate values := by
  rw [selectsSpeed_iff htables, ← find?_isNear_iff hgrid hmem, ← findRate_eq]
  constructor
  · rintro ⟨value, i, speed, hfound, hspeed, hvalue⟩
    obtain ⟨speed', hspeed', hvalue'⟩ :=
      hparallel.speed_of_value (getElem_of_findRate hfound)
    obtain rfl := Option.some.inj (hspeed.symm.trans hspeed')
    rw [hfound, ← hvalue, hvalue']
    rfl
  · intro hfirst
    obtain ⟨⟨value, i⟩, hfound, rfl⟩ := Option.map_eq_some_iff.mp hfirst
    obtain ⟨speed, hspeed, hvalue⟩ :=
      hparallel.speed_of_value (getElem_of_findRate hfound)
    exact ⟨value, i, speed, hfound, hspeed, hvalue⟩

/--
The strings of an item that are still in use have a speed of the rate at the
place where the rate or a neighbour of it comes first; otherwise no neighbour
may come before the rate.
-/
def SelectsWhen (player : PlayerState) (list : SpeedList) (rate : ℚ) : Prop :=
  match list, player.dlnaTransportPlaySpeeds with
  | .allowed _ _, some strings =>
      ∃ (i : Nat) (value : ℚ) (speed : String), list.values[i]? = some value ∧ Beside rate value ∧
        (∀ j < i, ∀ earlier, list.values[j]? = some earlier →
          ¬Beside rate earlier) ∧
        strings[i]? = some speed ∧ speedValue speed = rate
  | _, _ => NoNeighbourBefore rate list.values

theorem findRate_eq_some_iff_of_onGrid {rate value : ℚ} {values : List ℚ}
    {i : Nat} (hgrid : ∀ value ∈ values, OnGrid value) (hmem : rate ∈ values) :
    findRate rate values = some (value, i) ↔
      values[i]? = some value ∧ Beside rate value ∧
        ∀ j < i, ∀ earlier, values[j]? = some earlier → ¬Beside rate earlier := by
  have hnear {j : Nat} {other : ℚ} (hother : values[j]? = some other) :
      |rate - other| ≤ 1 / 100 ↔ Beside rate other :=
    near_iff_of_onGrid (hgrid rate hmem)
      (hgrid other (List.mem_of_getElem? hother))
  rw [findRate_eq_some_iff]
  refine and_congr_right fun hvalue => and_congr (hnear hvalue) ?_
  refine forall₂_congr fun j _ => forall₂_congr fun earlier hearlier => ?_
  exact (hnear hearlier).not

theorem selectsSpeed_readSpeeds {player : PlayerState} {list : SpeedList}
    {rates : RatesValues} (h : prvGetRatesValues list.sorted = some rates)
    {rate : ℚ} (hmem : rate ∈ rates.mprisTpSpeeds) :
    SelectsSpeed (readSpeeds player list) rate ↔
      SelectsWhen player list rate := by
  have htables := (speedTables_readSpeeds player h).2
  have hown (hstrings : stringsInUse player rates list = rates.upnpTpSpeeds) :
      SelectsSpeed (readSpeeds player list) rate ↔
        NoNeighbourBefore rate list.values := by
    rw [hstrings, values_of_rates h] at htables
    have hparallel := parallel_prvGetRatesValues h
    rw [values_of_rates h] at hparallel hmem
    exact selectsSpeed_iff_of_parallel htables hparallel (values_onGrid list) hmem
  unfold SelectsWhen
  cases list with
  | announced speeds => exact hown rfl
  | allowed speeds bytePosition =>
      cases hdlna : player.dlnaTransportPlaySpeeds with
      | none => exact hown (by rw [stringsInUse, hdlna, Option.getD_none])
      | some strings =>
          rw [stringsInUse, hdlna, Option.getD_some, values_of_rates h] at htables
          rw [values_of_rates h] at hmem
          rw [selectsSpeed_iff htables]
          simp only [findRate_eq_some_iff_of_onGrid (values_onGrid _) hmem]
          constructor
          · rintro ⟨value, i, speed, ⟨hvalue, hbeside, hfirst⟩, hspeed⟩
            exact ⟨i, value, speed, hvalue, hbeside, hfirst, hspeed⟩
          · rintro ⟨i, value, speed, hvalue, hbeside, hfirst, hspeed⟩
            exact ⟨value, i, speed, ⟨hvalue, hbeside, hfirst⟩, hspeed⟩

/--
A published value selects its own speed exactly when no neighbour comes before
it in the table; a value away from all of them is refused.
-/
theorem published_speed_selected_iff (player : PlayerState) (list : SpeedList)
    (rates : RatesValues) (h : prvGetRatesValues list.sorted = some rates) :
    (readSpeeds player list).prop "TransportPlaySpeeds" =
        some (.doubles rates.mprisTpSpeeds) ∧
      (∀ rate ∈ rates.mprisTpSpeeds,
        SelectsSpeed (readSpeeds player list) rate ↔
          SelectsWhen player list rate) ∧
      ∀ rate, (∀ value ∈ rates.mprisTpSpeeds, 1 / 100 < |rate - value|) →
        RejectsRate (readSpeeds player list) rate := by
  obtain ⟨hpublished, htables⟩ := speedTables_readSpeeds player h
  refine ⟨hpublished, fun rate hmem => selectsSpeed_readSpeeds h hmem, ?_⟩
  intro rate hfar
  exact rejectsRate_of_far htables hfar

theorem published_speed_selected_halves :
    prvGetRatesValues (SpeedList.allowed ["1/2", "2"] false).sorted =
        some ⟨[1 / 2, 2], ["1/2", "2"], 1 / 2, 2⟩ ∧
      SelectsSpeed (readSpeeds playerNew (.allowed ["1/2", "2"] false)) 2 ∧
      RejectsRate (readSpeeds playerNew (.allowed ["1/2", "2"] false)) 1 := by
  have hrates : prvGetRatesValues (SpeedList.allowed ["1/2", "2"] false).sorted =
      some ⟨[1 / 2, 2], ["1/2", "2"], 1 / 2, 2⟩ := by decide +kernel
  obtain ⟨-, hselects, hrejects⟩ :=
    published_speed_selected_iff playerNew (.allowed ["1/2", "2"] false) _ hrates
  refine ⟨hrates, (hselects 2 (by simp)).mpr ?_, hrejects 1 (by norm_num)⟩
  show NoNeighbourBefore 2 (SpeedList.allowed ["1/2", "2"] false).values
  decide +kernel

/-- With `23/100` before it, `6/25` is published but never selected. -/
theorem neighbour_selected :
    let player := readSpeeds playerNew (.allowed ["23/100", "6/25"] false)
    player.prop "TransportPlaySpeeds" = some (.doubles [23 / 100, 6 / 25]) ∧
      ¬SelectsSpeed player (6 / 25) := by
  have hrates :
      prvGetRatesValues (SpeedList.allowed ["23/100", "6/25"] false).sorted =
        some ⟨[23 / 100, 6 / 25], ["23/100", "6/25"], 23 / 100, 6 / 25⟩ := by
    decide +kernel
  refine ⟨(speedTables_readSpeeds playerNew hrates).1, ?_⟩
  rw [selectsSpeed_readSpeeds hrates (by simp)]
  show ¬NoNeighbourBefore (6 / 25)
    (SpeedList.allowed ["23/100", "6/25"] false).values
  decide +kernel

end DleynaRenderer.Player
