import DleynaRenderer.Introspection
import DleynaRenderer.Player.Run

/-!
# Signals and the properties they announce

What a function of the source records in a variant builder is what it stores.
From this follow three properties of the signals: a client that applies them
holds the stored properties, a signal names each property once and with its
final value, and the stored values have the published types.
-/

namespace DleynaRenderer.Player

open CString EventSystem HashTable

def otherProperties : List DeclaredProperty :=
  playerProperties.filter fun property => property.name ≠ "BytePosition"

structure OthersConform (player : PlayerState) : Prop where
  root : Conforms serverProperties player.rootProps
  device : Conforms rendererDeviceProperties player.deviceProps

structure Records (added : Changed) (first last : Update) : Prop where
  changed : last.changed = first.changed ++ added
  props : last.player.playerProps = insertAll first.player.playerProps added
  signals : last.player.signals = first.player.signals

def Publishes (keys : List String) (first last : Update) : Prop :=
  ∃ added, Records added first last ∧ added.map Prod.fst = keys ∧
    (∀ entry ∈ added, Typed otherProperties entry) ∧
    (OthersConform first.player → OthersConform last.player)

namespace Publishes

variable {keys : List String} {first last : Update}

theorem of_fields (hchanged : last.changed = first.changed)
    (hprops : last.player.playerProps = first.player.playerProps)
    (hsignals : last.player.signals = first.player.signals)
    (hothers : OthersConform first.player → OthersConform last.player) :
    Publishes [] first last :=
  ⟨[], ⟨by simp [hchanged], hprops, hsignals⟩, rfl, by simp, hothers⟩

theorem refl (update : Update) : Publishes [] update update :=
  of_fields rfl rfl rfl id

theorem trans {more : List String} {next : Update}
    (hfirst : Publishes keys first last) (hsecond : Publishes more last next) :
    Publishes (keys ++ more) first next := by
  obtain ⟨added, hadded, rfl, htyped, hothers⟩ := hfirst
  obtain ⟨later, hlater, rfl, htyped', hothers'⟩ := hsecond
  refine ⟨added ++ later, ⟨?_, ?_, ?_⟩, by simp, ?_,
    fun h => hothers' (hothers h)⟩
  · rw [hlater.changed, hadded.changed, List.append_assoc]
  · rw [hlater.props, hadded.props, insertAll_append]
  · rw [hlater.signals, hadded.signals]
  · intro entry hmem
    rcases List.mem_append.mp hmem with hmem | hmem
    · exact htyped entry hmem
    · exact htyped' entry hmem

theorem change {key : String} {value : Variant}
    (htyped : Typed otherProperties (key, value)) (update : Update) :
    Publishes [key] update (prvChangeProps key value update) :=
  ⟨[(key, value)], ⟨rfl, rfl, rfl⟩, rfl, by simpa using htyped,
    fun h => ⟨h.root, h.device⟩⟩

theorem prop_eq (h : Publishes keys first last) {key : String}
    (hkey : key ∉ keys) : last.player.prop key = first.player.prop key := by
  obtain ⟨added, hrecords, rfl, -⟩ := h
  rw [PlayerState.prop, hrecords.props]
  exact lookup_insertAll_of_not_mem hkey _

end Publishes

theorem typed_congr {properties : List DeclaredProperty} {key : String}
    {value : Variant} (other : Variant) (h : Typed properties (key, other))
    (htype : value.typeString = other.typeString) :
    Typed properties (key, value) := by
  intro property hmem hname
  exact htype.trans (h property hmem hname)

def optionalKey (present : Bool) (key : String) : List String :=
  if present then [key] else []

theorem publishes_ite {present : Prop} [Decidable present] {key : String}
    {value : Variant} (htyped : Typed otherProperties (key, value))
    (update : Update) :
    Publishes (optionalKey present key) update
      (if present then prvChangeProps key value update else update) := by
  unfold optionalKey
  by_cases hpresent : present
  · simpa [hpresent] using Publishes.change htyped update
  · simpa [hpresent] using Publishes.refl update

def speedPropKeys (minRate maxRate : ℚ) (speeds : Option (List ℚ)) :
    List String :=
  optionalKey (minRate ≠ 0) "MinimumRate" ++
    optionalKey (maxRate ≠ 0) "MaximumRate" ++
    optionalKey speeds.isSome "TransportPlaySpeeds"

theorem publishes_prvAddPlayerSpeedProps (minRate maxRate : ℚ)
    (speeds : Option (List ℚ)) (update : Update) :
    Publishes (speedPropKeys minRate maxRate speeds) update
      (prvAddPlayerSpeedProps minRate maxRate speeds update) := by
  have hdouble {key : String}
      (htyped : Typed otherProperties (key, .double 0)) (r : ℚ) :
      Typed otherProperties (key, .double r) := typed_congr _ htyped rfl
  have hspeeds (values : List ℚ) :
      Typed otherProperties ("TransportPlaySpeeds", .doubles values) :=
    typed_congr (.doubles []) (by decide) rfl
  unfold prvAddPlayerSpeedProps
  refine ((publishes_ite (hdouble (by decide) minRate) update).trans
    (publishes_ite (hdouble (by decide) maxRate) _)).trans ?_
  cases speeds with
  | none => exact .refl _
  | some values => exact .change (hspeeds values) _

def dlnaSpeedRates (speeds : List (List Char)) : Option RatesValues :=
  let speeds := speeds.map fun speed => String.ofList (gStrstrip speed)
  prvGetRatesValues (sortSpeeds (speeds.reverse ++ ["1"]))

def dlnaSpeedKeys (speeds : List (List Char)) : List String :=
  match dlnaSpeedRates speeds with
  | none => []
  | some rates =>
      speedPropKeys rates.minRate rates.maxRate (some rates.mprisTpSpeeds)

theorem publishes_prvAddDlnaSpeeds (speeds : List (List Char))
    (update : Update) :
    Publishes (dlnaSpeedKeys speeds) update (prvAddDlnaSpeeds speeds update) := by
  unfold dlnaSpeedKeys prvAddDlnaSpeeds
  cases hrates : dlnaSpeedRates speeds with
  | none =>
      unfold dlnaSpeedRates at hrates
      simpa [hrates] using Publishes.refl update
  | some rates =>
      have hstored : Publishes [] update
          (storeDlnaSpeeds rates.upnpTpSpeeds update) :=
        .of_fields rfl rfl rfl fun h => ⟨h.root, h.device⟩
      unfold dlnaSpeedRates at hrates
      simp only [hrates]
      exact hstored.trans (publishes_prvAddPlayerSpeedProps _ _ _ _)

theorem optionalKey_sublist (present : Bool) (key : String) :
    (optionalKey present key).Sublist [key] := by
  cases present with
  | false => exact List.nil_sublist _
  | true => exact .refl _

theorem nodup_append_of_pools {first second pool pool' : List String}
    (hfirst : first ⊆ pool) (hsecond : second ⊆ pool')
    (hpools : ∀ key ∈ pool, key ∉ pool') :
    (first ++ second).Nodup ↔ first.Nodup ∧ second.Nodup := by
  rw [List.nodup_append]
  constructor
  · rintro ⟨hfirst', hsecond', -⟩
    exact ⟨hfirst', hsecond'⟩
  · rintro ⟨hfirst', hsecond'⟩
    refine ⟨hfirst', hsecond', fun key hkey other hother heq => ?_⟩
    exact hpools key (hfirst hkey) (heq ▸ hsecond hother)

theorem speedPropKeys_sublist (minRate maxRate : ℚ)
    (speeds : Option (List ℚ)) :
    (speedPropKeys minRate maxRate speeds).Sublist speedKeys :=
  ((optionalKey_sublist _ _).append (optionalKey_sublist _ _)).append
    (optionalKey_sublist _ _)

theorem dlnaSpeedKeys_spec (speeds : List (List Char)) :
    (dlnaSpeedKeys speeds).Sublist speedKeys ∧
      "TransportPlaySpeeds" ∈ dlnaSpeedKeys speeds := by
  have hone : "1" ∈ (speeds.map fun speed =>
      String.ofList (gStrstrip speed)).reverse ++ ["1"] := by simp
  obtain ⟨rates, hrates⟩ := prvGetRatesValues_of_mem hone
  have hkeys : dlnaSpeedKeys speeds = speedPropKeys rates.minRate rates.maxRate
      (some rates.mprisTpSpeeds) := by
    simp [dlnaSpeedKeys, dlnaSpeedRates, hrates]
  rw [hkeys]
  exact ⟨speedPropKeys_sublist _ _ _, List.mem_append_right _ (by simp [optionalKey])⟩

theorem publishes_foldl_addSpeedsAction (parts : List (List Char))
    (update : Update) :
    Publishes ((parts.filterMap dlnaSpeeds).flatMap dlnaSpeedKeys) update
      (parts.foldl addSpeedsAction update) := by
  induction parts generalizing update with
  | nil => exact .refl update
  | cons part parts ih =>
      have hrest := ih (addSpeedsAction update part)
      rw [List.foldl_cons, List.filterMap_cons]
      cases hpart : dlnaSpeeds part with
      | none =>
          have hsame : addSpeedsAction update part = update := by
            simp [addSpeedsAction, hpart]
          rw [hsame] at hrest ⊢
          exact hrest
      | some speeds =>
          have hadds : addSpeedsAction update part =
              prvAddDlnaSpeeds speeds update := by
            simp [addSpeedsAction, hpart]
          rw [hadds] at hrest ⊢
          exact (publishes_prvAddDlnaSpeeds speeds update).trans hrest

/-! ## Transport actions and events -/

theorem publishes_changeBooleans (props : List (String × Bool))
    (htyped : ∀ prop ∈ props,
      Typed otherProperties (prop.1, .boolean true)) (update : Update) :
    Publishes (props.map Prod.fst) update (changeBooleans props update) := by
  induction props generalizing update with
  | nil => exact .refl update
  | cons prop props ih =>
      have hprop : Typed otherProperties (prop.1, .boolean prop.2) :=
        typed_congr _ (htyped prop List.mem_cons_self) rfl
      exact (Publishes.change hprop update).trans
        (ih (fun later hlater => htyped later (List.mem_cons_of_mem _ hlater)) _)

def actionPropKeys : List String :=
  ["CanControl", "CanPlay", "CanPause", "CanSeek", "CanByteSeek", "CanGoNext",
    "CanGoPrevious"]

theorem conforms_prvUpdatePropDlnaDeviceClasses (info : DeviceInfo)
    {props : Props} (h : Conforms rendererDeviceProperties props) :
    Conforms rendererDeviceProperties
      (prvUpdatePropDlnaDeviceClasses info props).2 := by
  have hclasses (classes : List String) :
      Typed rendererDeviceProperties ("DeviceClasses", .strings classes) :=
    typed_congr (.strings []) (by decide) rfl
  unfold prvUpdatePropDlnaDeviceClasses
  split
  · exact h
  · split
    · exact h
    · exact h.insert (hclasses _)

theorem publishes_prvAddActions (info : DeviceInfo) (actions : String)
    (update : Update) :
    Publishes
      (((actionParts actions).filterMap dlnaSpeeds).flatMap dlnaSpeedKeys ++
        actionPropKeys) update (prvAddActions info actions update) := by
  have hlooked : Publishes [] update (lookUpDlnaClasses info update).2 :=
    .of_fields rfl rfl rfl fun h =>
      ⟨h.root, conforms_prvUpdatePropDlnaDeviceClasses info h.device⟩
  have hbooleans (actions : Actions) (update : Update) :
      Publishes actionPropKeys update
        (changeBooleans (actionProps actions) update) :=
    publishes_changeBooleans _ (by
      intro prop hmem
      have hkey : prop.1 ∈ actionPropKeys := List.mem_map_of_mem hmem
      have htyped : ∀ key ∈ actionPropKeys,
          Typed otherProperties (key, .boolean true) := by decide
      exact htyped prop.1 hkey) update
  exact hlooked.trans
    ((publishes_foldl_addSpeedsAction _ _).trans (hbooleans _ _))

def metaDataKeys (event : LastChange) : List String :=
  match event.metaData with
  | some metaData => optionalKey (metaData.result ≠ .failed) "Metadata"
  | none =>
      optionalKey event.duration.isSome "Metadata" ++
        optionalKey event.uri.isSome "Metadata"

theorem publishes_addMetaData (event : LastChange) (update : Update) :
    Publishes (metaDataKeys event) update (addMetaData event update) := by
  have hdict (entries : MetaData) :
      Typed otherProperties ("Metadata", .dict entries) :=
    typed_congr (.dict []) (by decide) rfl
  unfold metaDataKeys addMetaData
  cases event.metaData with
  | some metaData =>
      simp only [prvAddTrackMetaData]
      by_cases hfailed : metaData.result = .failed
      · simpa [hfailed, optionalKey] using Publishes.refl update
      · simpa [hfailed, optionalKey] using Publishes.change (hdict _) update
  | none =>
      have hmerge (key : String) (value : MetaValue) (update : Update) :
          Publishes ["Metadata"] update (prvMergeMetaData key value update) :=
        .change (hdict _) update
      cases event.duration with
      | none =>
          cases event.uri with
          | none => exact .refl update
          | some uri => exact hmerge "xesam:url" _ update
      | some duration =>
          have hduration := hmerge "mpris:length"
            (.int64 (prvDurationToInt64 duration)) update
          cases event.uri with
          | none => exact hduration
          | some uri => exact hduration.trans (hmerge "xesam:url" _ _)

def actionKeys (event : LastChange) : List String :=
  match event.actions with
  | none => []
  | some actions =>
      ((actionParts actions).filterMap dlnaSpeeds).flatMap dlnaSpeedKeys ++
        actionPropKeys

theorem publishes_addActions (info : DeviceInfo) (event : LastChange)
    (update : Update) :
    Publishes (actionKeys event) update (addActions info event update) := by
  unfold actionKeys addActions
  cases event.actions with
  | none => exact .refl update
  | some actions => exact publishes_prvAddActions info actions update

theorem publishes_addPlaySpeed (event : LastChange) (update : Update) :
    Publishes (optionalKey event.playSpeed.isSome "Rate") update
      (addPlaySpeed event update) := by
  have hdouble (r : ℚ) : Typed otherProperties ("Rate", .double r) :=
    typed_congr (.double 0) (by decide) rfl
  unfold addPlaySpeed
  cases event.playSpeed with
  | none => exact .refl update
  | some speed =>
      exact (Publishes.change (hdouble _) update).trans
        (.of_fields rfl rfl rfl fun h => ⟨h.root, h.device⟩)

theorem publishes_addState (event : LastChange) (update : Update) :
    Publishes (optionalKey event.state.isSome "PlaybackStatus") update
      (addState event update) := by
  have hstring (s : String) :
      Typed otherProperties ("PlaybackStatus", .string s) :=
    typed_congr (.string "") (by decide) rfl
  unfold addState
  cases event.state with
  | none => exact .refl update
  | some state => exact .change (hstring _) update

theorem publishes_addCounter (key : String)
    (htyped : Typed otherProperties (key, .uint32 0)) (counter : Nat)
    (update : Update) :
    Publishes (optionalKey (counter ≠ gMaxUint) key) update
      (addCounter key counter update) := by
  have hcounter : Typed otherProperties (key, .uint32 counter) :=
    typed_congr _ htyped rfl
  exact publishes_ite hcounter update

def stateKeys (event : LastChange) : List String :=
  optionalKey event.playSpeed.isSome "Rate" ++
    optionalKey event.state.isSome "PlaybackStatus" ++
    optionalKey (event.tracksNumber ≠ gMaxUint) "NumberOfTracks" ++
    optionalKey (event.currentTrack ≠ gMaxUint) "CurrentTrack"

def lastChangeKeys (event : LastChange) : List String :=
  metaDataKeys event ++ (actionKeys event ++ stateKeys event)

theorem metaDataKeys_subset (event : LastChange) :
    metaDataKeys event ⊆ ["Metadata"] := by
  unfold metaDataKeys
  cases event.metaData with
  | some metaData => exact (optionalKey_sublist _ _).subset
  | none =>
      exact List.append_subset.mpr
        ⟨(optionalKey_sublist _ _).subset, (optionalKey_sublist _ _).subset⟩

theorem flatMap_dlnaSpeedKeys_subset (lists : List (List (List Char))) :
    lists.flatMap dlnaSpeedKeys ⊆ speedKeys := by
  intro key hmem
  obtain ⟨speeds, -, hkey⟩ := List.mem_flatMap.mp hmem
  exact (dlnaSpeedKeys_spec speeds).1.subset hkey

theorem actionKeys_subset (event : LastChange) :
    actionKeys event ⊆ speedKeys ++ actionPropKeys := by
  unfold actionKeys
  cases event.actions with
  | none => exact List.nil_subset _
  | some actions =>
      exact List.append_subset.mpr
        ⟨List.Subset.trans (flatMap_dlnaSpeedKeys_subset _)
          (List.subset_append_left _ _), List.subset_append_right _ _⟩

theorem stateKeys_sublist (event : LastChange) :
    (stateKeys event).Sublist
      ["Rate", "PlaybackStatus", "NumberOfTracks", "CurrentTrack"] :=
  (((optionalKey_sublist _ _).append (optionalKey_sublist _ _)).append
    (optionalKey_sublist _ _)).append (optionalKey_sublist _ _)

theorem lastChangeTail_subset {pool : List String}
    (hactions : speedKeys ++ actionPropKeys ⊆ pool)
    (hstate : ["Rate", "PlaybackStatus", "NumberOfTracks", "CurrentTrack"] ⊆
      pool) (event : LastChange) :
    actionKeys event ++ stateKeys event ⊆ pool :=
  List.append_subset.mpr
    ⟨List.Subset.trans (actionKeys_subset event) hactions,
      List.Subset.trans (stateKeys_sublist event).subset hstate⟩

theorem lastChangeKeys_subset {pool : List String}
    (hmeta : ["Metadata"] ⊆ pool)
    (hactions : speedKeys ++ actionPropKeys ⊆ pool)
    (hstate : ["Rate", "PlaybackStatus", "NumberOfTracks", "CurrentTrack"] ⊆
      pool) (event : LastChange) :
    lastChangeKeys event ⊆ pool :=
  List.append_subset.mpr
    ⟨List.Subset.trans (metaDataKeys_subset event) hmeta,
      lastChangeTail_subset hactions hstate event⟩

/-- A signal is emitted that carries these entries, which have been stored. -/
def Emits (keys : List String) (player next : PlayerState) : Prop :=
  ∃ changed : Changed, changed.map Prod.fst = keys ∧
    next.signals = player.signals ++ [changed] ∧
    next.playerProps = insertAll player.playerProps changed ∧
    (∀ entry ∈ changed, Typed otherProperties entry) ∧
    (OthersConform player → OthersConform next)

theorem Emits.prop_eq {keys : List String} {player next : PlayerState}
    (h : Emits keys player next) {key : String} (hkey : key ∉ keys) :
    next.prop key = player.prop key := by
  obtain ⟨changed, rfl, -, hprops, -⟩ := h
  rw [PlayerState.prop, hprops]
  exact lookup_insertAll_of_not_mem hkey _

theorem Publishes.emits {keys : List String} {player : PlayerState}
    {update : Update} (h : Publishes keys (.start player) update) :
    Emits keys player (prvEmitSignalPropertiesChanged update) := by
  obtain ⟨added, hrecords, hkeys, htyped, hothers⟩ := h
  have hchanged : update.changed = added := hrecords.changed
  refine ⟨added, hkeys, ?_, hrecords.props, htyped,
    fun h => ⟨(hothers h).root, (hothers h).device⟩⟩
  simp [prvEmitSignalPropertiesChanged, hchanged, hrecords.signals, Update.start]

theorem publishes_afterMetaData (info : DeviceInfo) (event : LastChange)
    (update : Update) :
    Publishes (actionKeys event ++ stateKeys event) update
      (addCounter "CurrentTrack" event.currentTrack
        (addCounter "NumberOfTracks" event.tracksNumber
          (addState event
            (addPlaySpeed event (addActions info event update))))) := by
  have hactions := publishes_addActions info event update
  have hspeed := publishes_addPlaySpeed event (addActions info event update)
  have hstate := hspeed.trans (publishes_addState event _)
  have htracks := hstate.trans (publishes_addCounter "NumberOfTracks"
    (by decide) event.tracksNumber _)
  have hcurrent := htracks.trans (publishes_addCounter "CurrentTrack"
    (by decide) event.currentTrack _)
  exact hactions.trans hcurrent

theorem emits_prvLastChangeCb (info : DeviceInfo) (event : LastChange)
    (player : PlayerState) :
    Emits (lastChangeKeys event) player (prvLastChangeCb info event player) := by
  have hmeta := publishes_addMetaData event (.start player)
  have hrest := publishes_afterMetaData info event
    (addMetaData event (.start player))
  exact (hmeta.trans hrest).emits

/-! ## The other signals -/

theorem emits_finishUpdate (player : PlayerState) :
    Emits (speedPropKeys player.minRate player.maxRate
        player.mprisTransportPlaySpeeds ++ allActions.map Prod.fst) player
      (finishUpdate player) := by
  have hspeeds := publishes_prvAddPlayerSpeedProps player.minRate
    player.maxRate player.mprisTransportPlaySpeeds (.start player)
  have hactions := hspeeds.trans
    (publishes_changeBooleans allActions (by decide) _)
  obtain ⟨changed, hkeys, hsignals, hprops, htyped, hothers⟩ := hactions.emits
  exact ⟨changed, hkeys, hsignals, hprops, htyped,
    fun h => ⟨(hothers h).root, (hothers h).device⟩⟩

theorem publishes_addVolume (event : RcEvent) (update : Update) :
    Publishes (optionalKey (event.devVolume ≠ gMaxUint) "Volume") update
      (addVolume event update) := by
  have hdouble (r : ℚ) : Typed otherProperties ("Volume", .double r) :=
    typed_congr (.double 0) (by decide) rfl
  exact publishes_ite (hdouble _) update

theorem publishes_addMute (event : RcEvent) (update : Update) :
    Publishes (optionalKey (event.mute ≠ gMaxUint) "Mute") update
      (addMute event update) := by
  have hboolean (b : Bool) : Typed otherProperties ("Mute", .boolean b) :=
    typed_congr (.boolean true) (by decide) rfl
  exact publishes_ite (hboolean _) update

def rcKeys (event : RcEvent) : List String :=
  optionalKey (event.devVolume ≠ gMaxUint) "Volume" ++
    optionalKey (event.mute ≠ gMaxUint) "Mute"

theorem emits_prvProcessRcLastChange (event : RcEvent) {player : PlayerState}
    (hvolume : player.maxVolume ≠ 0) :
    Emits (rcKeys event) player (prvProcessRcLastChange event player) := by
  have hboth := (publishes_addVolume event (.start player)).trans
    (publishes_addMute event _)
  rw [prvProcessRcLastChange, if_neg hvolume]
  exact hboth.emits

def resetSpeedKeys (player : PlayerState) : List String :=
  speedPropKeys (rateToReset "MinimumRate" player.minRate player)
    (rateToReset "MaximumRate" player.maxRate player)
    player.mprisTransportPlaySpeeds

def resetKeys (player : PlayerState) : List String :=
  (if speedsPublished player then [] else resetSpeedKeys player) ++
    optionalKey (player.rate ≠ "1") "Rate"

theorem publishes_resetSpeeds (update : Update) :
    Publishes (resetSpeedKeys update.player) update (resetSpeeds update) :=
  publishes_prvAddPlayerSpeedProps _ _ _ update

theorem publishes_resetRate (update : Update) :
    Publishes ["Rate"] update (resetRate update) := by
  have hdouble (r : ℚ) : Typed otherProperties ("Rate", .double r) :=
    typed_congr (.double 0) (by decide) rfl
  have hstored : Publishes [] update
      { update with player := { update.player with rate := "1" } } :=
    .of_fields rfl rfl rfl fun h => ⟨h.root, h.device⟩
  exact hstored.trans (.change (hdouble _) _)

theorem emits_prvResetTransportSpeedProps (player : PlayerState) :
    prvResetTransportSpeedProps player =
        { player with dlnaTransportPlaySpeeds := none } ∨
      Emits (resetKeys player) player (prvResetTransportSpeedProps player) := by
  have hstart : Publishes [] (.start player) (Update.start
      { player with dlnaTransportPlaySpeeds := none }) :=
    .of_fields rfl rfl rfl fun h => ⟨h.root, h.device⟩
  by_cases hspeeds : speedsPublished player
  · by_cases hrate : player.rate = "1"
    · exact .inl (by simp [prvResetTransportSpeedProps, hspeeds, hrate,
        Update.start])
    · have hreset := (hstart.trans (publishes_resetRate _)).emits
      exact .inr (by
        simpa [prvResetTransportSpeedProps, resetKeys, hspeeds, hrate,
          optionalKey] using hreset)
  · have hreset : Publishes (resetSpeedKeys player) (.start player)
        (resetSpeeds (.start
          { player with dlnaTransportPlaySpeeds := none })) :=
      hstart.trans (publishes_resetSpeeds _)
    by_cases hrate : player.rate = "1"
    · exact .inr (by
        simpa [prvResetTransportSpeedProps, resetKeys, hspeeds, hrate,
          optionalKey] using hreset.emits)
    · have hboth := (hreset.trans (publishes_resetRate _)).emits
      exact .inr (by
        simpa [prvResetTransportSpeedProps, resetKeys, hspeeds, hrate,
          optionalKey] using hboth)

theorem emits_prvSetRate {player next : PlayerState} {value : Variant}
    (hok : prvSetRate player value = .ok next) :
    next = player ∨ Emits ["Rate"] player next := by
  have hdouble (r : ℚ) : Typed otherProperties ("Rate", .double r) :=
    typed_congr (.double 0) (by decide) rfl
  rcases prvSetRate_cases hok with hsame | ⟨published, rate, rfl⟩
  · exact .inl hsame
  · have hstored : Publishes [] (.start player)
        (.start { player with rate := rate }) :=
      .of_fields rfl rfl rfl fun h => ⟨h.root, h.device⟩
    exact .inr (hstored.trans (.change (hdouble _) _)).emits

theorem emits_publishPosition (relTime relCnt : Option String)
    (player : PlayerState) :
    Emits (optionalKey relTime.isSome "Position" ++
        optionalKey relCnt.isSome "BytePosition") player
      (publishPosition relTime relCnt player) := by
  have hposition (n : Int) : Typed otherProperties ("Position", .int64 n) :=
    typed_congr (.int64 0) (by decide) rfl
  have hbytes (n : Nat) : Typed otherProperties ("BytePosition", .uint64 n) :=
    typed_congr (.uint64 0) (by decide) rfl
  have htime (time : String) (update : Update) :
      Publishes ["Position"] update (prvAddReltime time update) :=
    .change (hposition _) update
  have hcount (count : String) (update : Update) :
      Publishes ["BytePosition"] update (prvAddRelcount count update) :=
    .change (hbytes _) update
  refine Publishes.emits ?_
  cases relTime with
  | none =>
      cases relCnt with
      | none => exact .refl _
      | some count => exact hcount _ _
  | some time =>
      cases relCnt with
      | none => exact htime _ _
      | some count => exact (htime _ _).trans (hcount _ _)

end DleynaRenderer.Player
