import DleynaRenderer.Player.Controls
import DleynaRenderer.Player.Rates
import DleynaRenderer.Player.Signals

/-!
# The three tables

A device keeps its properties in one table for each interface.  Every name that
is stored is declared for the interface of its table, so that no name is in two
of them.
-/

namespace DleynaRenderer.Player

open EventSystem HashTable

def propertyNames (properties : List DeclaredProperty) : List String :=
  properties.map DeclaredProperty.name

def StoresOnly (names : List String) (props : Props) : Prop :=
  ∀ key, key ∉ names → props.lookup key = none

theorem StoresOnly.insert {names : List String} {props : Props} {key : String}
    (hkey : key ∈ names) (value : Variant) (h : StoresOnly names props) :
    StoresOnly names (props.insert key value) := by
  intro other hother
  have hne : other ≠ key := fun heq => hother (heq ▸ hkey)
  rw [lookup_insert_eq, if_neg hne, h other hother]

theorem StoresOnly.insertText {names : List String} {props : Props}
    {key : String} (hkey : key ∈ names) (text : Option String)
    (h : StoresOnly names props) :
    StoresOnly names (insertText key text props) := by
  intro other hother
  have hne : other ≠ key := fun heq => hother (heq ▸ hkey)
  rw [lookup_insertText_of_ne hne, h other hother]

theorem StoresOnly.foldl {α : Type*} {names : List String}
    {store : Props → α → Props}
    {values : List α}
    (hstore : ∀ value ∈ values, ∀ props, StoresOnly names props →
      StoresOnly names (store props value))
    {props : Props} (h : StoresOnly names props) :
    StoresOnly names (values.foldl store props) := by
  induction values generalizing props with
  | nil => exact h
  | cons value values ih =>
      refine ih (fun later hlater => hstore later (List.mem_cons_of_mem _ hlater)) ?_
      exact hstore value List.mem_cons_self props h

structure KnownNames (player : PlayerState) : Prop where
  root : StoresOnly (propertyNames serverProperties) player.rootProps
  props : StoresOnly (propertyNames playerProperties) player.playerProps
  device : StoresOnly (propertyNames rendererDeviceProperties) player.deviceProps

theorem knownNames_new : KnownNames playerNew :=
  ⟨fun _ _ => rfl, fun _ _ => rfl, fun _ _ => rfl⟩

structure SameTables (player other : PlayerState) : Prop where
  root : other.rootProps = player.rootProps
  device : other.deviceProps = player.deviceProps

theorem SameTables.trans {player other last : PlayerState}
    (hfirst : SameTables player other) (hsecond : SameTables other last) :
    SameTables player last :=
  ⟨hsecond.root.trans hfirst.root, hsecond.device.trans hfirst.device⟩

theorem ChangesOnly.sameTables {keys : List String} {player other : PlayerState}
    (h : ChangesOnly keys player other) : SameTables player other := by
  rw [← h.fields]
  exact ⟨rfl, rfl⟩

theorem KnownNames.of_keeps {keys : List String} {player other : PlayerState}
    (h : KnownNames player) (htables : SameTables player other)
    (hkeys : keys ⊆ propertyNames playerProperties)
    (hkeeps : ∀ key, key ∉ keys → other.prop key = player.prop key) :
    KnownNames other := by
  refine ⟨?_, fun key hkey => ?_, ?_⟩
  · rw [htables.root]
    exact h.root
  · exact (hkeeps key fun hmem => hkey (hkeys hmem)).trans (h.props key hkey)
  · rw [htables.device]
    exact h.device

theorem KnownNames.of_changesOnly {keys : List String}
    {player other : PlayerState} (h : KnownNames player)
    (hkeys : keys ⊆ propertyNames playerProperties)
    (hchanges : ChangesOnly keys player other) : KnownNames other :=
  h.of_keeps hchanges.sameTables hkeys hchanges.props

theorem sameTables_foldl_addSpeedsAction (parts : List (List Char))
    (update : Update) :
    SameTables update.player (parts.foldl addSpeedsAction update).player := by
  induction parts generalizing update with
  | nil => exact ⟨rfl, rfl⟩
  | cons part parts ih =>
      refine SameTables.trans ?_ (ih (addSpeedsAction update part))
      unfold addSpeedsAction
      cases dlnaSpeeds part with
      | none => exact ⟨rfl, rfl⟩
      | some speeds =>
          obtain ⟨rates, -, heq⟩ := prvAddDlnaSpeeds_eq speeds update
          have hspeeds := (changesOnly_prvAddPlayerSpeedProps rates.minRate
            rates.maxRate (some rates.mprisTpSpeeds)
            (storeDlnaSpeeds rates.upnpTpSpeeds update)).sameTables
          simp only [heq]
          exact ⟨hspeeds.root, hspeeds.device⟩

theorem storesOnly_prvUpdatePropDlnaDeviceClasses (info : DeviceInfo)
    {props : Props}
    (h : StoresOnly (propertyNames rendererDeviceProperties) props) :
    StoresOnly (propertyNames rendererDeviceProperties)
      (prvUpdatePropDlnaDeviceClasses info props).2 := by
  unfold prvUpdatePropDlnaDeviceClasses
  split
  · exact h
  · split
    · exact h
    · exact h.insert (by decide) _

theorem tables_prvLastChangeCb (info : DeviceInfo) (event : LastChange)
    (player : PlayerState) :
    (prvLastChangeCb info event player).rootProps = player.rootProps ∧
      ((prvLastChangeCb info event player).deviceProps = player.deviceProps ∨
        (prvLastChangeCb info event player).deviceProps =
          (prvUpdatePropDlnaDeviceClasses info player.deviceProps).2) := by
  have hmeta := (changesOnly_addMetaData event (.start player)).sameTables
  have hrest (update : Update) : SameTables update.player
      (prvEmitSignalPropertiesChanged
        (addCounter "CurrentTrack" event.currentTrack
          (addCounter "NumberOfTracks" event.tracksNumber
            (addState event (addPlaySpeed event update))))) := by
    have hspeed : SameTables update.player (addPlaySpeed event update).player := by
      unfold addPlaySpeed
      cases event.playSpeed <;> exact ⟨rfl, rfl⟩
    exact hspeed.trans ((changesOnly_addState event _).sameTables.trans
      ((changesOnly_addCounter _ _ _).sameTables.trans
        ((changesOnly_addCounter _ _ _).sameTables.trans
          (ChangesOnly.emit [] _).sameTables)))
  have hall := hrest (addActions info event (addMetaData event (.start player)))
  unfold addActions at hall
  cases hactions : event.actions with
  | none =>
      simp only [hactions] at hall
      have hsame : SameTables player (prvLastChangeCb info event player) := by
        rw [prvLastChangeCb, addActions, hactions]
        exact hmeta.trans hall
      exact ⟨hsame.root, .inl hsame.device⟩
  | some actions =>
      simp only [hactions] at hall
      set update := addMetaData event (.start player)
      have hparts := sameTables_foldl_addSpeedsAction (actionParts actions)
        (lookUpDlnaClasses info update).2
      have hflags := (changesOnly_changeBooleans (actionProps
        (readActions (lookUpDlnaClasses info update).1 (actionParts actions)))
        ((actionParts actions).foldl addSpeedsAction
          (lookUpDlnaClasses info update).2)).sameTables
      have hsame : SameTables (lookUpDlnaClasses info update).2.player
          (prvLastChangeCb info event player) := by
        rw [prvLastChangeCb, addActions, hactions]
        exact (hparts.trans hflags).trans hall
      refine ⟨hsame.root.trans hmeta.root, .inr (hsame.device.trans ?_)⟩
      exact congrArg
        (fun props => (prvUpdatePropDlnaDeviceClasses info props).2) hmeta.device

theorem knownNames_prvLastChangeCb (info : DeviceInfo) (event : LastChange)
    {player : PlayerState} (h : KnownNames player) :
    KnownNames (prvLastChangeCb info event player) := by
  obtain ⟨hroot, hdevice⟩ := tables_prvLastChangeCb info event player
  have hkeys : lastChangeKeys event ⊆ propertyNames playerProperties :=
    lastChangeKeys_subset (by decide) (by decide) (by decide) event
  refine ⟨?_, fun key hkey => ?_, ?_⟩
  · rw [hroot]
    exact h.root
  · have hsame := (emits_prvLastChangeCb info event player).prop_eq
      fun hmem => hkey (hkeys hmem)
    exact hsame.trans (h.props key hkey)
  · rcases hdevice with hsame | hclasses
    · rw [hsame]
      exact h.device
    · rw [hclasses]
      exact storesOnly_prvUpdatePropDlnaDeviceClasses info h.device

theorem knownNames_beginUpdate (info : DeviceInfo) {player : PlayerState}
    (h : KnownNames player) : KnownNames (beginUpdate info player) where
  root := by
    refine StoresOnly.insertText (by decide) _ (StoresOnly.foldl ?_ h.root)
    intro key hmem props hprops
    have hknown : ∀ key ∈ ["CanQuit", "CanRaise", "CanSetFullscreen",
        "HasTrackList"], key ∈ propertyNames serverProperties := by decide
    exact hprops.insert (hknown key hmem) _
  props := h.props
  device := by
    refine StoresOnly.foldl ?_
      (storesOnly_prvUpdatePropDlnaDeviceClasses info h.device)
    intro text hmem props hprops
    have hkey : text.1 ∈ ["DeviceType", "UDN", "FriendlyName", "IconURL",
        "Manufacturer", "ManufacturerUrl", "ModelDescription", "ModelName",
        "ModelNumber", "SerialNumber", "PresentationURL"] :=
      List.mem_map_of_mem hmem
    have hknown : ∀ key ∈ ["DeviceType", "UDN", "FriendlyName", "IconURL",
        "Manufacturer", "ManufacturerUrl", "ModelDescription", "ModelName",
        "ModelNumber", "SerialNumber", "PresentationURL"],
        key ∈ propertyNames rendererDeviceProperties := by decide
    exact hprops.insertText (hknown text.1 hkey) _

theorem knownNames_resume_finishUpdate (player : PlayerState)
    (trigger : Option RcEvent) (h : KnownNames player) :
    KnownNames (resume trigger (finishUpdate player)) := by
  have hspeeds := changesOnly_prvAddPlayerSpeedProps player.minRate
    player.maxRate player.mprisTransportPlaySpeeds (.start player)
  have hactions := changesOnly_changeBooleans allActions
    (prvAddPlayerSpeedProps player.minRate player.maxRate
      player.mprisTransportPlaySpeeds (.start player))
  have hboth := (h.of_changesOnly (by decide) hspeeds).of_changesOnly
    (by decide) hactions
  have hfinish : KnownNames (finishUpdate player) :=
    ⟨hboth.root, hboth.props, hboth.device⟩
  exact hfinish.of_changesOnly (by decide) (changesOnly_resume trigger _)

theorem sameTables_prvResetTransportSpeedProps (player : PlayerState) :
    SameTables player (prvResetTransportSpeedProps player) := by
  have hspeeds (update : Update) :
      SameTables update.player (resetSpeeds update).player :=
    (changesOnly_prvAddPlayerSpeedProps _ _ _ update).sameTables
  exact prvResetTransportSpeedProps_rule (motive := SameTables player)
    ⟨rfl, rfl⟩ ⟨(hspeeds _).root, (hspeeds _).device⟩
    (fun _ h => ⟨h.root, h.device⟩) (fun _ h => ⟨h.root, h.device⟩)

theorem sameTables_prvSetRate {player next : PlayerState} {value : Variant}
    (hset : prvSetRate player value = .ok next) : SameTables player next := by
  rcases prvSetRate_cases hset with rfl | ⟨published, rate, rfl⟩
  · exact ⟨rfl, rfl⟩
  · exact ⟨rfl, rfl⟩

theorem knownNames_prvProcessProtocolInfo (sink : String)
    {player : PlayerState} (h : KnownNames player) :
    KnownNames (prvProcessProtocolInfo sink player) :=
  ⟨(h.root.insert (by decide) _).insert (by decide) _, h.props,
    h.device.insert (by decide) _⟩

theorem knownNames_plainEffect {info : DeviceInfo} {run : PlayerRun}
    {event : PlayerEvent} {player : PlayerState} (h : KnownNames run.player)
    (heffect : plainEffect info run event = some player) :
    KnownNames player := by
  have hkeys : effectKeys ⊆ propertyNames playerProperties := by decide
  rcases plainEffect_cases heffect with ⟨change, rfl, rfl⟩ | ⟨sink, -, rfl⟩ |
    ⟨-, rfl⟩ | ⟨value, -, hset⟩ | hreply
  · exact knownNames_prvLastChangeCb info change h
  · exact knownNames_prvProcessProtocolInfo sink h
  · exact h.of_keeps (sameTables_prvResetTransportSpeedProps _) hkeys
      (keeps_prvResetTransportSpeedProps _).props
  · exact h.of_keeps (sameTables_prvSetRate hset) hkeys
      (keeps_prvSetRate hset).props
  · exact h.of_changesOnly (by decide) hreply

theorem knownNames_playerStep {info : DeviceInfo} {run next : PlayerRun}
    {event : PlayerEvent} (h : KnownNames run.player)
    (hstep : playerStep info run event = some next) : KnownNames next.player := by
  refine playerStep_invariant h (knownNames_beginUpdate info h) ?_
    (fun _ => ⟨h.root, h.props, h.device⟩)
    (fun player trigger _ => knownNames_resume_finishUpdate player trigger)
    (fun _ => knownNames_plainEffect h) hstep
  intro allowedSpeeds bytePosition _
  obtain ⟨transport, mpris, minRate, maxRate, hread⟩ :=
    prvGetAvServiceStatesValues_eq allowedSpeeds bytePosition run.player
  rw [hread]
  exact ⟨h.root, h.props, h.device⟩

theorem knownNames_of_exec {info : DeviceInfo} {events : List PlayerEvent}
    {last : PlayerRun}
    (hrun : exec (playerStep info) playerRunNew events = some last) :
    KnownNames last.player :=
  exec_invariant (fun run => KnownNames run.player)
    (fun _ _ _ => knownNames_playerStep) knownNames_new hrun

theorem serverNames_fresh :
    ∀ key ∈ propertyNames serverProperties,
      key ∉ propertyNames playerProperties ++
        propertyNames rendererDeviceProperties := by
  decide

theorem playerNames_fresh :
    ∀ key ∈ propertyNames playerProperties,
      key ∉ propertyNames rendererDeviceProperties := by
  decide

end DleynaRenderer.Player
