import DleynaRenderer.Player.Run
import Mathlib.Order.Bounds.Basic

/-!
# The bounds of the play speeds

The least and the greatest speed are found by one pass over the sorted list,
which starts from its first entry, valid or not, and they are published beside
the list, but only where they are not zero.  When the list starts with a valid
entry, is compared as its values compare, and does not end in zero, the two
published rates are the bounds of the published list.
-/

namespace DleynaRenderer.Player

open CString EventSystem

def validSpeeds (speeds : List String) : List String :=
  speeds.filter fun speed => !prvRationalIsInvalid speed

def StartsValid (speeds : List String) : Prop :=
  ∀ first, (sortSpeeds speeds).head? = some first →
    prvRationalIsInvalid first = false

/-- Two speeds with different values are compared as the values are. -/
def ComparedByValue (speeds : List String) : Prop :=
  ∀ a ∈ speeds, ∀ b ∈ speeds, speedValue a < speedValue b →
    prvCompareRationals a b < 0 ∧ 0 < prvCompareRationals b a

def EndsNonzero (speeds : List String) : Prop :=
  (∀ speed ∈ speeds, speedValue speed ≠ 0) ∨
    (∃ speed ∈ speeds, speedValue speed < 0) ∧
      ∃ speed ∈ speeds, 0 < speedValue speed

/-- No valid speed, or speeds whose bounds are found and published. -/
def ProperSpeeds (speeds : List String) : Prop :=
  validSpeeds speeds = [] ∨
    StartsValid speeds ∧ ComparedByValue (validSpeeds speeds) ∧
      EndsNonzero (validSpeeds speeds)

instance (speeds : List String) : Decidable (StartsValid speeds) :=
  match h : (sortSpeeds speeds).head? with
  | none => isTrue (by simp [StartsValid, h])
  | some first =>
      decidable_of_iff (prvRationalIsInvalid first = false)
        (by simp [StartsValid, h])

instance (speeds : List String) : Decidable (ComparedByValue speeds) := by
  unfold ComparedByValue
  infer_instance

instance (speeds : List String) : Decidable (EndsNonzero speeds) := by
  unfold EndsNonzero
  infer_instance

instance (speeds : List String) : Decidable (ProperSpeeds speeds) := by
  unfold ProperSpeeds
  infer_instance

def rangeFrom (first : String) (rest : List String) : String × String :=
  (validSpeeds (first :: rest)).foldl extendRange (first, first)

theorem prvGetRatesValues_cons {first : String} {rest : List String}
    {rates : RatesValues} (h : prvGetRatesValues (first :: rest) = some rates) :
    rates.mprisTpSpeeds = (validSpeeds (first :: rest)).map speedValue ∧
      rates.minRate = speedValue (rangeFrom first rest).1 ∧
      rates.maxRate = speedValue (rangeFrom first rest).2 := by
  simp only [prvGetRatesValues, Option.some.injEq] at h
  simp only [← h, rangeFrom, validSpeeds, true_and]

theorem mprisTpSpeeds_eq {speeds : List String} {rates : RatesValues}
    (h : prvGetRatesValues speeds = some rates) :
    rates.mprisTpSpeeds = (validSpeeds speeds).map speedValue := by
  cases speeds with
  | nil => simp [prvGetRatesValues] at h
  | cons first rest => exact (prvGetRatesValues_cons h).1

theorem mem_validSpeeds_sortSpeeds {speed : String} {speeds : List String} :
    speed ∈ validSpeeds (sortSpeeds speeds) ↔ speed ∈ validSpeeds speeds := by
  simp only [validSpeeds, List.mem_filter, mem_sortSpeeds]

structure RangeOf (speeds : List String) (range : String × String) : Prop where
  least_mem : range.1 ∈ speeds
  greatest_mem : range.2 ∈ speeds
  le : ∀ speed ∈ speeds, speedValue range.1 ≤ speedValue speed
  ge : ∀ speed ∈ speeds, speedValue speed ≤ speedValue range.2

theorem RangeOf.extend {met pool : List String} {range : String × String}
    {rate : String} (h : RangeOf met range) (hmet : met ⊆ pool)
    (hrate : rate ∈ pool) (hcompared : ComparedByValue pool) :
    RangeOf (met ++ [rate]) (extendRange range rate) := by
  have hleast := hmet h.least_mem
  have hgreatest := hmet h.greatest_mem
  have hwithin := h.le _ h.greatest_mem
  have hold {speed : String} (hmem : speed ∈ met) : speed ∈ met ++ [rate] :=
    List.mem_append_left _ hmem
  have hnew : rate ∈ met ++ [rate] := by simp
  have hall {motive : String → Prop} (hmotive : ∀ speed ∈ met, motive speed)
      (hlast : motive rate) : ∀ speed ∈ met ++ [rate], motive speed := by
    simpa [or_imp, forall_and] using And.intro hmotive hlast
  unfold extendRange
  split_ifs with hbelow habove
  · have hle : speedValue rate ≤ speedValue range.1 := by
      by_contra hlt
      have hcompare := (hcompared _ hleast _ hrate (not_le.mp hlt)).1
      omega
    exact ⟨hnew, hold h.greatest_mem,
      hall (fun speed hmem => hle.trans (h.le speed hmem)) le_rfl,
      hall h.ge (hle.trans hwithin)⟩
  · have hge : speedValue range.2 ≤ speedValue rate := by
      by_contra hlt
      have hcompare := (hcompared _ hrate _ hgreatest (not_le.mp hlt)).2
      omega
    exact ⟨hold h.least_mem, hnew, hall h.le (hwithin.trans hge),
      hall (fun speed hmem => (h.ge speed hmem).trans hge) le_rfl⟩
  · have hle : speedValue range.1 ≤ speedValue rate := by
      by_contra hlt
      exact hbelow (hcompared _ hrate _ hleast (not_le.mp hlt)).2
    have hge : speedValue rate ≤ speedValue range.2 := by
      by_contra hlt
      exact habove (hcompared _ hgreatest _ hrate (not_le.mp hlt)).1
    exact ⟨hold h.least_mem, hold h.greatest_mem, hall h.le hle,
      hall h.ge hge⟩

theorem RangeOf.foldl {pool : List String} (hcompared : ComparedByValue pool)
    {rates : List String} (hrates : rates ⊆ pool) {met : List String}
    {range : String × String} (h : RangeOf met range) (hmet : met ⊆ pool) :
    RangeOf (met ++ rates) (rates.foldl extendRange range) := by
  induction rates generalizing met range with
  | nil => simpa using h
  | cons rate rates ih =>
      obtain ⟨hrate, hrest⟩ := List.cons_subset.mp hrates
      have hstep := h.extend hmet hrate hcompared
      have hsubset : met ++ [rate] ⊆ pool :=
        List.append_subset.mpr ⟨hmet, by simpa using hrate⟩
      simpa using ih hrest hstep hsubset

def Bounds (values : List ℚ) (minRate maxRate : ℚ) : Prop :=
  IsLeast { value | value ∈ values } minRate ∧
    IsGreatest { value | value ∈ values } maxRate

theorem RangeOf.bounds {speeds : List String} {range : String × String}
    (h : RangeOf speeds range) :
    Bounds (speeds.map speedValue) (speedValue range.1)
      (speedValue range.2) := by
  refine ⟨⟨List.mem_map_of_mem h.least_mem, ?_⟩,
    List.mem_map_of_mem h.greatest_mem, ?_⟩
  · rintro value hvalue
    obtain ⟨speed, hmem, rfl⟩ := List.mem_map.mp hvalue
    exact h.le speed hmem
  · rintro value hvalue
    obtain ⟨speed, hmem, rfl⟩ := List.mem_map.mp hvalue
    exact h.ge speed hmem

theorem RangeOf.congr {speeds more : List String} {range : String × String}
    (h : RangeOf speeds range) (hsame : ∀ speed, speed ∈ speeds ↔ speed ∈ more) :
    RangeOf more range where
  least_mem := (hsame _).mp h.least_mem
  greatest_mem := (hsame _).mp h.greatest_mem
  le speed hmem := h.le speed ((hsame speed).mpr hmem)
  ge speed hmem := h.ge speed ((hsame speed).mpr hmem)

theorem RangeOf.nonzero {speeds : List String} {range : String × String}
    (h : RangeOf speeds range) (hends : EndsNonzero speeds) :
    speedValue range.1 ≠ 0 ∧ speedValue range.2 ≠ 0 := by
  rcases hends with hnonzero | ⟨⟨low, hlow, hneg⟩, high, hhigh, hpos⟩
  · exact ⟨hnonzero _ h.least_mem, hnonzero _ h.greatest_mem⟩
  · exact ⟨((h.le low hlow).trans_lt hneg).ne,
      (hpos.trans_le (h.ge high hhigh)).ne'⟩

def RatesBound (values : List ℚ) (minRate maxRate : ℚ) : Prop :=
  values ≠ [] → Bounds values minRate maxRate ∧ minRate ≠ 0 ∧ maxRate ≠ 0

theorem ratesBound_prvGetRatesValues {speeds : List String}
    {rates : RatesValues} (hproper : ProperSpeeds speeds)
    (hrates : prvGetRatesValues (sortSpeeds speeds) = some rates) :
    RatesBound rates.mprisTpSpeeds rates.minRate rates.maxRate := by
  intro hvalues
  cases hsort : sortSpeeds speeds with
  | nil => simp [hsort, prvGetRatesValues] at hrates
  | cons first rest =>
      rw [hsort] at hrates
      obtain ⟨hspeeds, hmin, hmax⟩ := prvGetRatesValues_cons hrates
      set valid := validSpeeds (first :: rest) with hvalid
      have hsame (speed : String) :
          speed ∈ valid ↔ speed ∈ validSpeeds speeds := by
        rw [hvalid, ← hsort]
        exact mem_validSpeeds_sortSpeeds
      rcases hproper with hnone | ⟨hstarts, hcompared, hends⟩
      · have hempty : valid = [] := by
          refine List.eq_nil_iff_forall_not_mem.mpr fun speed hmem => ?_
          simpa [hnone] using (hsame speed).mp hmem
        exact absurd (by simp [hspeeds, hempty]) hvalues
      · have hfirst : first ∈ valid := by
          simp [hvalid, validSpeeds, hstarts first (by simp [hsort])]
        have hstart : RangeOf [first] (first, first) :=
          ⟨by simp, by simp, by simp, by simp⟩
        have hmet : [first] ⊆ validSpeeds speeds := by
          simpa using (hsame first).mp hfirst
        have hpass := hstart.foldl hcompared
          (fun speed hmem => (hsame speed).mp hmem : valid ⊆ _) hmet
        have hrange : RangeOf valid (rangeFrom first rest) := by
          refine hpass.congr fun speed => ?_
          simp only [List.mem_append, List.mem_singleton, or_iff_right_iff_imp]
          rintro rfl
          exact hfirst
        have hnonzero := (hrange.congr hsame).nonzero hends
        rw [hspeeds, hmin, hmax]
        exact ⟨hrange.bounds, hnonzero⟩

/-! ## What is held and what is published -/

def SpeedsBounded (player : PlayerState) : Prop :=
  ∀ values, player.prop "TransportPlaySpeeds" = some (.doubles values) →
    values ≠ [] → ∃ minRate maxRate,
      player.prop "MinimumRate" = some (.double minRate) ∧
        player.prop "MaximumRate" = some (.double maxRate) ∧
        Bounds values minRate maxRate

def heldRates (player : PlayerState) : Option (List ℚ) × ℚ × ℚ :=
  (player.mprisTransportPlaySpeeds, player.minRate, player.maxRate)

theorem heldRates_of_changesOnly {keys : List String}
    {player other : PlayerState} (h : ChangesOnly keys player other) :
    heldRates other = heldRates player := by
  simp only [heldRates, h.mpris_eq, h.minRate_eq, h.maxRate_eq]

structure RatesInv (player : PlayerState) : Prop where
  held : ∀ values, player.mprisTransportPlaySpeeds = some values →
    RatesBound values player.minRate player.maxRate
  unread : player.mprisTransportPlaySpeeds = none →
    player.minRate = 0 ∧ player.maxRate = 0
  published : SpeedsBounded player

theorem ratesInv_new : RatesInv playerNew where
  held := by simp [playerNew]
  unread _ := ⟨rfl, rfl⟩
  published := by simp [SpeedsBounded, playerNew, PlayerState.prop]

theorem RatesInv.of_held {player other : PlayerState} (hinv : RatesInv player)
    (hheld : heldRates other = heldRates player)
    (hbounded : SpeedsBounded other) : RatesInv other := by
  simp only [heldRates, Prod.mk.injEq] at hheld
  obtain ⟨hmpris, hmin, hmax⟩ := hheld
  refine ⟨?_, ?_, hbounded⟩
  · rw [hmpris, hmin, hmax]
    exact hinv.held
  · rw [hmpris, hmin, hmax]
    exact hinv.unread

structure SameRates (player other : PlayerState) : Prop where
  held : heldRates other = heldRates player
  props : ∀ key ∈ speedKeys, other.prop key = player.prop key

namespace SameRates

variable {player other : PlayerState}

theorem trans {last : PlayerState} (hfirst : SameRates player other)
    (hsecond : SameRates other last) : SameRates player last where
  held := hsecond.held.trans hfirst.held
  props key hkey := (hsecond.props key hkey).trans (hfirst.props key hkey)

theorem of_changesOnly {keys : List String}
    (h : ChangesOnly keys player other)
    (hdisjoint : ∀ key ∈ speedKeys, key ∉ keys) : SameRates player other where
  held := heldRates_of_changesOnly h
  props key hkey := h.props key (hdisjoint key hkey)

theorem emit (update : Update) :
    SameRates update.player (prvEmitSignalPropertiesChanged update) :=
  ⟨rfl, fun _ _ => rfl⟩

theorem changeRate (value : Variant) (update : Update) :
    SameRates update.player (prvChangeProps "Rate" value update).player := by
  have hchanges : ChangesOnly ["Rate"] update.player
      (prvChangeProps "Rate" value update).player :=
    .change List.mem_cons_self value update
  exact .of_changesOnly hchanges (by decide)

theorem inv (h : SameRates player other) (hinv : RatesInv player) :
    RatesInv other := by
  refine hinv.of_held h.held ?_
  unfold SpeedsBounded
  rw [h.props "TransportPlaySpeeds" (by decide),
    h.props "MinimumRate" (by decide), h.props "MaximumRate" (by decide)]
  exact hinv.published

end SameRates

theorem speedsBounded_prvAddPlayerSpeedProps {minRate maxRate least greatest : ℚ}
    {speeds : Option (List ℚ)} {update : Update}
    (hspeeds : ∀ values, speeds = some values →
      RatesBound values least greatest)
    (hmin : minRate = least ∨
      minRate = 0 ∧ update.player.prop "MinimumRate" = some (.double least))
    (hmax : maxRate = greatest ∨
      maxRate = 0 ∧ update.player.prop "MaximumRate" = some (.double greatest))
    (hnone : speeds = none →
      minRate = 0 ∧ maxRate = 0 ∧ SpeedsBounded update.player) :
    SpeedsBounded
      (prvAddPlayerSpeedProps minRate maxRate speeds update).player := by
  intro values hvalues hne
  rw [speeds_prvAddPlayerSpeedProps] at hvalues
  rw [bound_prvAddPlayerSpeedProps (.head _),
    bound_prvAddPlayerSpeedProps (.tail _ (.head _))]
  cases speeds with
  | none =>
      obtain ⟨rfl, rfl, hbounded⟩ := hnone rfl
      simpa using hbounded values (by simpa using hvalues) hne
  | some published =>
      obtain rfl : published = values := by simpa using hvalues
      obtain ⟨hbounds, hleast, hgreatest⟩ := hspeeds published rfl hne
      refine ⟨least, greatest, ?_, ?_, hbounds⟩
      · rcases hmin with rfl | ⟨rfl, hprop⟩
        · rw [if_pos hleast]
        · simpa using hprop
      · rcases hmax with rfl | ⟨rfl, hprop⟩
        · rw [if_pos hgreatest]
        · simpa using hprop

def announcedSpeeds (speeds : List (List Char)) : List String :=
  (speeds.map fun speed => String.ofList (gStrstrip speed)).reverse ++ ["1"]

theorem prvAddDlnaSpeeds_eq (speeds : List (List Char)) (update : Update) :
    ∃ rates, prvGetRatesValues (sortSpeeds (announcedSpeeds speeds)) =
        some rates ∧
      prvAddDlnaSpeeds speeds update =
        prvAddPlayerSpeedProps rates.minRate rates.maxRate
          (some rates.mprisTpSpeeds)
          (storeDlnaSpeeds rates.upnpTpSpeeds update) := by
  have hone : "1" ∈ announcedSpeeds speeds := by simp [announcedSpeeds]
  obtain ⟨rates, hrates⟩ := prvGetRatesValues_of_mem hone
  refine ⟨rates, hrates, ?_⟩
  unfold announcedSpeeds at hrates
  simp only [prvAddDlnaSpeeds, hrates]

theorem speedsBounded_prvAddDlnaSpeeds {speeds : List (List Char)}
    (hproper : ProperSpeeds (announcedSpeeds speeds)) (update : Update) :
    SpeedsBounded (prvAddDlnaSpeeds speeds update).player := by
  obtain ⟨rates, hrates, heq⟩ := prvAddDlnaSpeeds_eq speeds update
  rw [heq]
  refine speedsBounded_prvAddPlayerSpeedProps ?_ (.inl rfl) (.inl rfl) (by simp)
  rintro values hvalues
  obtain rfl := Option.some.inj hvalues
  exact ratesBound_prvGetRatesValues hproper hrates

theorem heldRates_foldl_addSpeedsAction (parts : List (List Char))
    (update : Update) :
    heldRates (parts.foldl addSpeedsAction update).player =
      heldRates update.player := by
  induction parts generalizing update with
  | nil => rfl
  | cons part parts ih =>
      rw [List.foldl_cons, ih]
      unfold addSpeedsAction
      cases dlnaSpeeds part with
      | none => rfl
      | some speeds =>
          obtain ⟨rates, -, heq⟩ := prvAddDlnaSpeeds_eq speeds update
          have hheld := heldRates_of_changesOnly
            (changesOnly_prvAddPlayerSpeedProps rates.minRate rates.maxRate
              (some rates.mprisTpSpeeds)
              (storeDlnaSpeeds rates.upnpTpSpeeds update))
          simp only [heq]
          exact hheld

/-- Each list is published over the one before it. -/
def LastListProper (parts : List (List Char)) : Prop :=
  ∀ speeds, (parts.filterMap dlnaSpeeds).getLast? = some speeds →
    ProperSpeeds (announcedSpeeds speeds)

instance (parts : List (List Char)) : Decidable (LastListProper parts) :=
  match h : (parts.filterMap dlnaSpeeds).getLast? with
  | none => isTrue (by simp [LastListProper, h])
  | some speeds =>
      decidable_of_iff (ProperSpeeds (announcedSpeeds speeds))
        (by simp [LastListProper, h])

theorem speedsBounded_foldl_addSpeedsAction {parts : List (List Char)}
    {update : Update} (hlast : LastListProper parts)
    (h : SpeedsBounded update.player) :
    SpeedsBounded (parts.foldl addSpeedsAction update).player := by
  induction parts using List.reverseRecOn with
  | nil => exact h
  | append_singleton parts part ih =>
      rw [List.foldl_append, List.foldl_cons, List.foldl_nil, addSpeedsAction]
      unfold LastListProper at hlast ih
      rw [List.filterMap_append] at hlast
      cases hpart : dlnaSpeeds part with
      | none => exact ih (by simpa [hpart] using hlast)
      | some speeds =>
          exact speedsBounded_prvAddDlnaSpeeds
            (hlast speeds (by simp [hpart])) _

theorem ratesInv_addActions (info : DeviceInfo) {event : LastChange}
    {update : Update}
    (hlast : ∀ actions, event.actions = some actions →
      LastListProper (actionParts actions))
    (hinv : RatesInv update.player) :
    RatesInv (addActions info event update).player := by
  unfold addActions
  cases hactions : event.actions with
  | none => exact hinv
  | some actions =>
      have hlooked : RatesInv (lookUpDlnaClasses info update).2.player :=
        ⟨hinv.held, hinv.unread, hinv.published⟩
      exact (SameRates.of_changesOnly (changesOnly_changeBooleans _ _)
        (by simp [actionProps, speedKeys])).inv
        (hlooked.of_held (heldRates_foldl_addSpeedsAction _ _)
          (speedsBounded_foldl_addSpeedsAction (hlast actions hactions)
            hlooked.published))

theorem ratesInv_prvLastChangeCb (info : DeviceInfo) {event : LastChange}
    {player : PlayerState}
    (hlast : ∀ actions, event.actions = some actions →
      LastListProper (actionParts actions))
    (hinv : RatesInv player) :
    RatesInv (prvLastChangeCb info event player) := by
  have hmeta := (SameRates.of_changesOnly
    (changesOnly_addMetaData event (.start player)) (by decide)).inv hinv
  have hactions := ratesInv_addActions info hlast hmeta
  have hspeed (update : Update) :
      SameRates update.player (addPlaySpeed event update).player := by
    unfold addPlaySpeed
    cases event.playSpeed with
    | none => exact ⟨rfl, fun _ _ => rfl⟩
    | some speed =>
        exact (SameRates.changeRate _ update).trans ⟨rfl, fun _ _ => rfl⟩
  have hstate := (hspeed (addActions info event
    (addMetaData event (.start player)))).trans
    (.of_changesOnly (changesOnly_addState event _) (by decide))
  have htracks := hstate.trans (.of_changesOnly
    (changesOnly_addCounter "NumberOfTracks" event.tracksNumber _) (by decide))
  have hcurrent := htracks.trans (.of_changesOnly
    (changesOnly_addCounter "CurrentTrack" event.currentTrack _) (by decide))
  exact (hcurrent.trans (.emit _)).inv hactions

theorem ratesInv_prvGetAvServiceStatesValues {allowedSpeeds : List String}
    (hproper : ProperSpeeds allowedSpeeds) (bytePosition : Bool)
    {player : PlayerState} (hinv : RatesInv player) :
    RatesInv
      (prvGetAvServiceStatesValues allowedSpeeds bytePosition player) := by
  unfold prvGetAvServiceStatesValues
  cases hrates : prvGetRatesValues (sortSpeeds allowedSpeeds) with
  | none => exact ⟨hinv.held, hinv.unread, hinv.published⟩
  | some rates =>
      refine ⟨?_, by simp, hinv.published⟩
      rintro values hvalues
      obtain rfl := Option.some.inj hvalues
      exact ratesBound_prvGetRatesValues hproper hrates

theorem ratesInv_finishUpdate {player : PlayerState} (hinv : RatesInv player) :
    RatesInv (finishUpdate player) := by
  have hadded : RatesInv (prvAddPlayerSpeedProps player.minRate player.maxRate
      player.mprisTransportPlaySpeeds (.start player)).player := by
    refine hinv.of_held (heldRates_of_changesOnly
      (changesOnly_prvAddPlayerSpeedProps _ _ _ (.start player))) ?_
    refine speedsBounded_prvAddPlayerSpeedProps hinv.held (.inl rfl) (.inl rfl)
      fun hnone => ?_
    obtain ⟨hmin, hmax⟩ := hinv.unread hnone
    exact ⟨hmin, hmax, hinv.published⟩
  have hactions := (SameRates.of_changesOnly
    (changesOnly_changeBooleans allActions _) (by decide)).inv hadded
  exact ⟨hactions.held, hactions.unread, hactions.published⟩

theorem rateToReset_cases (key : String) (rate : ℚ) (player : PlayerState) :
    rateToReset key rate player = rate ∨
      rateToReset key rate player = 0 ∧
        player.prop key = some (.double rate) := by
  unfold rateToReset
  split_ifs with hpublished
  · exact .inr ⟨rfl, hpublished⟩
  · exact .inl rfl

theorem ratesInv_resetSpeeds {update : Update}
    (hinv : RatesInv update.player) : RatesInv (resetSpeeds update).player := by
  refine hinv.of_held (heldRates_of_changesOnly
    (changesOnly_prvAddPlayerSpeedProps _ _ _ update)) ?_
  refine speedsBounded_prvAddPlayerSpeedProps hinv.held
    (rateToReset_cases _ _ _) (rateToReset_cases _ _ _) fun hnone => ?_
  obtain ⟨hmin, hmax⟩ := hinv.unread hnone
  exact ⟨by simp [rateToReset, hmin], by simp [rateToReset, hmax],
    hinv.published⟩

theorem sameRates_resetRate (update : Update) :
    SameRates update.player (resetRate update).player := by
  have hrate := SameRates.changeRate (.double (prvMapTransportSpeed "1"))
    { update with player := { update.player with rate := "1" } }
  exact ⟨hrate.held, hrate.props⟩

theorem ratesInv_prvResetTransportSpeedProps {player : PlayerState}
    (hinv : RatesInv player) :
    RatesInv (prvResetTransportSpeedProps player) := by
  have hstart : RatesInv { player with dlnaTransportPlaySpeeds := none } :=
    ⟨hinv.held, hinv.unread, hinv.published⟩
  refine prvResetTransportSpeedProps_rule (motive := RatesInv) hstart
    (ratesInv_resetSpeeds hstart) ?_ ?_
  · exact fun update h => (sameRates_resetRate update).inv h
  · exact fun _ h => ⟨h.held, h.unread, h.published⟩

/-! ## Runs -/

def ReadsProper (_ : PlayerRun) : PlayerEvent → Prop
  | .lastChange event =>
      ∀ actions, event.actions = some actions →
        LastListProper (actionParts actions)
  | .avIntrospection (.read allowedSpeeds _) => ProperSpeeds allowedSpeeds
  | _ => True

instance (event : LastChange) :
    Decidable (∀ actions, event.actions = some actions →
      LastListProper (actionParts actions)) :=
  match h : event.actions with
  | none => isTrue (by simp)
  | some actions =>
      decidable_of_iff (LastListProper (actionParts actions)) (by simp)

instance (run : PlayerRun) :
    (event : PlayerEvent) → Decidable (ReadsProper run event)
  | .lastChange event => inferInstanceAs (Decidable (∀ actions,
      event.actions = some actions → LastListProper (actionParts actions)))
  | .avIntrospection (.read allowedSpeeds _) =>
      inferInstanceAs (Decidable (ProperSpeeds allowedSpeeds))
  | .avIntrospection .lostDevice => isTrue trivial
  | .avIntrospection .failed => isTrue trivial
  | .rcLastChange _ => isTrue trivial
  | .sinkChange _ => isTrue trivial
  | .request .. => isTrue trivial
  | .rcIdle .. => isTrue trivial
  | .rcIntrospection _ => isTrue trivial
  | .openUri => isTrue trivial
  | .setRate _ => isTrue trivial
  | .positionReply _ => isTrue trivial
  | .bytePositionReply _ => isTrue trivial
  | .allBytePositionReply _ => isTrue trivial
  | .allPositionReply .. => isTrue trivial

theorem ratesInv_plainEffect {info : DeviceInfo} {run : PlayerRun}
    {event : PlayerEvent} {player : PlayerState} (hinv : RatesInv run.player)
    (hguard : ReadsProper run event)
    (heffect : plainEffect info run event = some player) : RatesInv player := by
  rcases plainEffect_cases heffect with ⟨change, rfl, rfl⟩ | ⟨sink, -, rfl⟩ |
    ⟨-, rfl⟩ | ⟨value, -, hset⟩ | hreply
  · exact ratesInv_prvLastChangeCb info hguard hinv
  · exact ⟨hinv.held, hinv.unread, hinv.published⟩
  · exact ratesInv_prvResetTransportSpeedProps hinv
  · rcases prvSetRate_cases hset with rfl | ⟨published, rate, rfl⟩
    · exact hinv
    · exact ((SameRates.changeRate _ _).trans (.emit _)).inv
        ⟨hinv.held, hinv.unread, hinv.published⟩
  · exact (SameRates.of_changesOnly hreply (by decide)).inv hinv

theorem ratesInv_playerStep {info : DeviceInfo} {run next : PlayerRun}
    {event : PlayerEvent} (hinv : RatesInv run.player)
    (hguard : ReadsProper run event)
    (hstep : playerStep info run event = some next) : RatesInv next.player := by
  refine playerStep_invariant hinv ⟨hinv.held, hinv.unread, hinv.published⟩
    ?_ (fun _ => ⟨hinv.held, hinv.unread, hinv.published⟩) ?_
    (fun _ => ratesInv_plainEffect hinv hguard) hstep
  · rintro allowedSpeeds bytePosition rfl
    exact ratesInv_prvGetAvServiceStatesValues hguard bytePosition hinv
  · intro player trigger _ hplayer
    exact (SameRates.of_changesOnly (changesOnly_resume trigger _)
      (by decide)).inv (ratesInv_finishUpdate hplayer)

/--
While the lists that are read are proper, the published rates are the bounds of
the published speeds in every state.
-/
theorem rates_bound_speeds (info : DeviceInfo) (events : List PlayerEvent)
    (hproper : Meets (playerStep info) ReadsProper playerRunNew events) :
    Always (playerStep info) (fun run => SpeedsBounded run.player)
      playerRunNew events :=
  guarded_run_always (fun run => RatesInv run.player)
    (fun _ hinv => hinv.published) (fun _ _ _ => ratesInv_playerStep)
    ratesInv_new hproper

/-- The pass over the sorted list starts from its invalid entry. -/
theorem zero_speed_hides_minimum :
    ∃ last, exec (playerStep bareDescription) playerRunNew
        [.request true false, .avIntrospection (.read ["1", "0"] false)] =
          some last ∧ ¬ SpeedsBounded last.player := by
  have hrun : (exec (playerStep bareDescription) playerRunNew
      [.request true false, .avIntrospection (.read ["1", "0"] false)]).map
        (fun run => (run.player.prop "TransportPlaySpeeds",
          run.player.prop "MinimumRate")) =
      some (some (.doubles [1]), none) := by decide +kernel
  obtain ⟨last, hexec, hprops⟩ := Option.map_eq_some_iff.mp hrun
  obtain ⟨hspeeds, hmin⟩ := Prod.mk.inj hprops
  refine ⟨last, hexec, fun hbounded => ?_⟩
  obtain ⟨_, _, hpublished, -⟩ := hbounded _ hspeeds (by simp)
  simp [hmin] at hpublished

theorem rates_bound_announced_speeds :
    Always (playerStep bareDescription)
      (fun run => SpeedsBounded run.player) playerRunNew
      [.request true false,
       .avIntrospection (.read ["2", "x", "-1"] false),
       .lastChange { actions := some "Play,X_DLNA_PS=-1\\,1/2" },
       .openUri] :=
  rates_bound_speeds bareDescription _ (by decide +kernel)

end DleynaRenderer.Player
