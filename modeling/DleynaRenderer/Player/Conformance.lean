import DleynaRenderer.Manager
import DleynaRenderer.Player.Signals

/-!
# The properties against the introspection

Every value a renderer stores and every value the manager returns should have
the D-Bus type that is published for its name.  Two properties do not: the byte
position is stored as an unsigned number, and `NeverQuit` is a boolean.
-/

namespace DleynaRenderer.Player

open CString EventSystem HashTable Manager

def propsOf (player : PlayerState) (interfaceName : String) : Props :=
  if interfaceName = dlrInterfaceServer then player.rootProps
  else if interfaceName = dlrInterfacePlayer then player.playerProps
  else player.deviceProps

def StoreConforms (player : PlayerState) : Prop :=
  ∀ interface ∈ gServerIntrospection,
    Conforms interface.properties (propsOf player interface.name)

theorem storeConforms_iff (player : PlayerState) :
    StoreConforms player ↔
      Conforms playerProperties player.playerProps ∧ OthersConform player := by
  have hthree : StoreConforms player ↔
      Conforms serverProperties player.rootProps ∧
        Conforms playerProperties player.playerProps ∧
        Conforms rendererDeviceProperties player.deviceProps := by
    simp [StoreConforms, gServerIntrospection, propsOf, dlrInterfaceServer,
      dlrInterfacePlayer, dleynaServerInterfaceRendererDevice]
  rw [hthree]
  constructor
  · rintro ⟨hroot, hplayer, hdevice⟩
    exact ⟨hplayer, hroot, hdevice⟩
  · rintro ⟨hplayer, hroot, hdevice⟩
    exact ⟨hroot, hplayer, hdevice⟩

theorem conforms_playerProperties_iff {props : Props}
    (h : Conforms otherProperties props) :
    Conforms playerProperties props ↔
      ∀ value, props.lookup "BytePosition" = some value →
        value.typeString = "x" := by
  constructor
  · intro hconforms value hvalue
    exact hconforms "BytePosition" value hvalue ⟨"BytePosition", "x"⟩
      (by decide) rfl
  · intro hbytes key value hvalue property hmem hname
    by_cases hkey : property.name = "BytePosition"
    · have htype : ∀ property ∈ playerProperties,
          property.name = "BytePosition" → property.type = "x" := by decide
      obtain rfl : key = "BytePosition" := hname.symm.trans hkey
      rw [htype property hmem hkey]
      exact hbytes value hvalue
    · refine h key value hvalue property ?_ hname
      exact List.mem_filter.mpr ⟨hmem, by simpa using hkey⟩

/-- All but the byte position is typed, and no byte position is stored. -/
structure TypedStore (player : PlayerState) : Prop where
  props : Conforms otherProperties player.playerProps
  others : OthersConform player
  bytes : player.prop "BytePosition" = none

theorem TypedStore.storeConforms {player : PlayerState}
    (h : TypedStore player) : StoreConforms player := by
  refine (storeConforms_iff player).mpr ⟨?_, h.others⟩
  refine (conforms_playerProperties_iff h.props).mpr fun value hvalue => ?_
  have hnone : player.playerProps.lookup "BytePosition" = none := h.bytes
  rw [hnone] at hvalue
  contradiction

theorem typedStore_new : TypedStore playerNew :=
  ⟨conforms_empty _, ⟨conforms_empty _, conforms_empty _⟩, rfl⟩

theorem Emits.typedStore {keys : List String} {player next : PlayerState}
    (h : Emits keys player next) (hkeys : "BytePosition" ∉ keys)
    (htyped : TypedStore player) : TypedStore next := by
  obtain ⟨changed, rfl, -, hprops, hentries, hothers⟩ := h
  refine ⟨?_, hothers htyped.others, ?_⟩
  · rw [hprops]
    exact htyped.props.insertAll hentries
  · rw [PlayerState.prop, hprops, lookup_insertAll_of_not_mem hkeys]
    exact htyped.bytes

theorem TypedStore.of_fields {player other : PlayerState} (h : TypedStore player)
    (hprops : other.playerProps = player.playerProps)
    (hothers : OthersConform other) : TypedStore other := by
  refine ⟨?_, hothers, ?_⟩
  · rw [hprops]
    exact h.props
  · rw [PlayerState.prop, hprops]
    exact h.bytes

theorem typedStore_removeProp {player : PlayerState} (h : TypedStore player)
    (key : String) : TypedStore (removeProp key player) := by
  refine ⟨h.props.erase key, ⟨h.others.root, h.others.device⟩, ?_⟩
  have hremoved := lookup_erase_eq player.playerProps key "BytePosition"
  have hbytes : player.playerProps.lookup "BytePosition" = none := h.bytes
  rw [hbytes, ite_self] at hremoved
  exact hremoved

theorem conforms_insertText {properties : List DeclaredProperty} {key : String}
    (htyped : Typed properties (key, .string "")) {props : Props}
    (h : Conforms properties props) (text : Option String) :
    Conforms properties (insertText key text props) := by
  cases text with
  | none => exact h.erase key
  | some text => exact h.insert (typed_congr _ htyped rfl)

theorem conforms_foldl_insertText {properties : List DeclaredProperty}
    {texts : List (String × Option String)}
    (htyped : ∀ text ∈ texts, Typed properties (text.1, .string ""))
    {props : Props} (h : Conforms properties props) :
    Conforms properties (texts.foldl
      (fun props text => insertText text.1 text.2 props) props) := by
  induction texts generalizing props with
  | nil => exact h
  | cons text texts ih =>
      have hfirst := conforms_insertText (htyped text List.mem_cons_self) h text.2
      exact ih (fun later hlater => htyped later (List.mem_cons_of_mem _ hlater))
        hfirst

theorem conforms_foldl_insert {properties : List DeclaredProperty}
    {keys : List String} {value : Variant}
    (htyped : ∀ key ∈ keys, Typed properties (key, value)) {props : Props}
    (h : Conforms properties props) :
    Conforms properties
      (keys.foldl (fun props key => props.insert key value) props) := by
  induction keys generalizing props with
  | nil => exact h
  | cons key keys ih =>
      have hfirst := h.insert (htyped key List.mem_cons_self)
      exact ih (fun later hlater => htyped later (List.mem_cons_of_mem _ hlater))
        hfirst

def deviceTextKeys : List String :=
  ["DeviceType", "UDN", "FriendlyName", "IconURL", "Manufacturer",
    "ManufacturerUrl", "ModelDescription", "ModelName", "ModelNumber",
    "SerialNumber", "PresentationURL"]

theorem othersConform_beginUpdate (info : DeviceInfo) {player : PlayerState}
    (h : OthersConform player) : OthersConform (beginUpdate info player) where
  root := conforms_insertText (by decide)
    (conforms_foldl_insert (by decide) h.root) _
  device := by
    refine conforms_foldl_insertText (fun text hmem => ?_)
      (conforms_prvUpdatePropDlnaDeviceClasses info h.device)
    have hkey : text.1 ∈ deviceTextKeys := List.mem_map_of_mem hmem
    have htyped : ∀ key ∈ deviceTextKeys,
        Typed rendererDeviceProperties (key, .string "") := by decide
    exact htyped text.1 hkey

theorem othersConform_prvProcessProtocolInfo (sink : String)
    {player : PlayerState} (h : OthersConform player) :
    OthersConform (prvProcessProtocolInfo sink player) := by
  have hinfo (s : String) :
      Typed rendererDeviceProperties ("ProtocolInfo", .string s) :=
    typed_congr (.string "") (by decide) rfl
  have hschemes (values : List String) :
      Typed serverProperties ("SupportedUriSchemes", .strings values) :=
    typed_congr (.strings []) (by decide) rfl
  have htypes (values : List String) :
      Typed serverProperties ("SupportedMimeTypes", .strings values) :=
    typed_congr (.strings []) (by decide) rfl
  exact ⟨(h.root.insert (hschemes _)).insert (htypes _),
    h.device.insert (hinfo _)⟩

/-! ## Runs -/

/-- No reply reports a byte position that is then published. -/
def ReportsNoBytes : PlayerEvent → Prop
  | .bytePositionReply (some _) => False
  | .allPositionReply (some _) _ => False
  | _ => True

/-- The names of all signals but those of the position queries. -/
def announcedKeys : List String :=
  ["Metadata", "Rate", "PlaybackStatus", "NumberOfTracks", "CurrentTrack",
    "Volume", "Mute"] ++ speedKeys ++ actionPropKeys ++ allActions.map Prod.fst

theorem Emits.typedStore_of_announced {keys : List String}
    {player next : PlayerState} (h : Emits keys player next)
    (hkeys : keys ⊆ announcedKeys) (htyped : TypedStore player) :
    TypedStore next := by
  refine h.typedStore (fun hmem => ?_) htyped
  have hannounced := hkeys hmem
  revert hannounced
  decide

theorem rcKeys_sublist (event : RcEvent) :
    (rcKeys event).Sublist ["Volume", "Mute"] :=
  (optionalKey_sublist _ _).append (optionalKey_sublist _ _)

theorem typedStore_prvProcessRcLastChange (event : RcEvent)
    {player : PlayerState} (h : TypedStore player) :
    TypedStore (prvProcessRcLastChange event player) := by
  have hpool : ["Volume", "Mute"] ⊆ announcedKeys := by decide
  by_cases hvolume : player.maxVolume = 0
  · simpa [prvProcessRcLastChange, hvolume] using h
  · exact (emits_prvProcessRcLastChange event hvolume).typedStore_of_announced
      (List.Subset.trans (rcKeys_sublist event).subset hpool) h

theorem typedStore_resume_finishUpdate (player : PlayerState)
    (trigger : Option RcEvent) (h : TypedStore player) :
    TypedStore (resume trigger (finishUpdate player)) := by
  have hspeeds : speedKeys ⊆ announcedKeys := by decide
  have hactions : allActions.map Prod.fst ⊆ announcedKeys := by decide
  have hfinish := (emits_finishUpdate player).typedStore_of_announced
    (List.append_subset.mpr
      ⟨List.Subset.trans (speedPropKeys_sublist _ _ _).subset hspeeds, hactions⟩) h
  cases trigger with
  | none => exact hfinish
  | some event => exact typedStore_prvProcessRcLastChange event hfinish

theorem typedStore_prvLastChangeCb (info : DeviceInfo) (event : LastChange)
    {player : PlayerState} (h : TypedStore player) :
    TypedStore (prvLastChangeCb info event player) := by
  have hmeta : ["Metadata"] ⊆ announcedKeys := by decide
  have hactions : speedKeys ++ actionPropKeys ⊆ announcedKeys := by decide
  have hstate : ["Rate", "PlaybackStatus", "NumberOfTracks", "CurrentTrack"] ⊆
      announcedKeys := by decide
  exact (emits_prvLastChangeCb info event player).typedStore_of_announced
    (lastChangeKeys_subset hmeta hactions hstate event) h

theorem typedStore_prvResetTransportSpeedProps {player : PlayerState}
    (h : TypedStore player) :
    TypedStore (prvResetTransportSpeedProps player) := by
  have hspeeds : speedKeys ⊆ announcedKeys := by decide
  have hrate : ["Rate"] ⊆ announcedKeys := by decide
  rcases emits_prvResetTransportSpeedProps player with hsame | hemits
  · rw [hsame]
    exact h.of_fields rfl ⟨h.others.root, h.others.device⟩
  · refine hemits.typedStore_of_announced ?_ h
    refine List.append_subset.mpr
      ⟨?_, List.Subset.trans (optionalKey_sublist _ _).subset hrate⟩
    split
    · exact List.nil_subset _
    · exact List.Subset.trans (speedPropKeys_sublist _ _ _).subset hspeeds

theorem typedStore_publishPosition (relTime : Option String)
    {player : PlayerState} (h : TypedStore player) :
    TypedStore (publishPosition relTime none player) := by
  refine (emits_publishPosition relTime none player).typedStore ?_ h
  cases relTime <;> simp [optionalKey]

theorem typedStore_plainEffect {info : DeviceInfo} {run : PlayerRun}
    {event : PlayerEvent} {player : PlayerState} (h : TypedStore run.player)
    (hguard : ReportsNoBytes event)
    (heffect : plainEffect info run event = some player) :
    TypedStore player := by
  cases event with
  | lastChange change =>
      obtain rfl := Option.some.inj heffect
      exact typedStore_prvLastChangeCb info change h
  | rcLastChange | request =>
      obtain rfl := Option.some.inj heffect
      exact h
  | sinkChange sink =>
      obtain rfl := Option.some.inj heffect
      exact h.of_fields rfl (othersConform_prvProcessProtocolInfo sink h.others)
  | rcIdle =>
      obtain ⟨event, -, rfl⟩ := Option.map_eq_some_iff.mp heffect
      exact typedStore_prvProcessRcLastChange event h
  | avIntrospection | rcIntrospection => contradiction
  | openUri =>
      obtain rfl := Option.some.inj heffect
      exact typedStore_prvResetTransportSpeedProps h
  | setRate value =>
      rcases plainEffect_setRate heffect with rfl | hset
      · exact h
      · rcases emits_prvSetRate hset with rfl | hemits
        · exact h
        · exact hemits.typedStore_of_announced (by decide) h
  | positionReply result =>
      obtain rfl := Option.some.inj heffect
      unfold prvGetPositionInfoCb
      split
      · exact h
      · exact typedStore_publishPosition result h
  | bytePositionReply result =>
      obtain rfl := Option.some.inj heffect
      cases result with
      | none => exact h
      | some count => exact absurd hguard id
  | allBytePositionReply result =>
      obtain rfl := Option.some.inj heffect
      unfold prvGetAllBytePositionInfoCb
      split
      · exact typedStore_removeProp h _
      · exact h
  | allPositionReply relCnt result =>
      obtain rfl := Option.some.inj heffect
      cases relCnt with
      | some count => exact absurd hguard id
      | none =>
          cases result with
          | none => exact typedStore_removeProp h _
          | some time => exact typedStore_publishPosition (some time) h

theorem typedStore_playerStep {info : DeviceInfo} {run next : PlayerRun}
    {event : PlayerEvent} (h : TypedStore run.player)
    (hguard : ReportsNoBytes event)
    (hstep : playerStep info run event = some next) :
    TypedStore next.player := by
  have hothers := h.others
  refine playerStep_invariant h
    (h.of_fields rfl (othersConform_beginUpdate info hothers)) ?_
    (fun _ => h.of_fields rfl ⟨hothers.root, hothers.device⟩)
    (fun player trigger _ => typedStore_resume_finishUpdate player trigger)
    (fun _ => typedStore_plainEffect h hguard) hstep
  intro allowedSpeeds bytePosition _
  obtain ⟨transport, mpris, minRate, maxRate, hread⟩ :=
    prvGetAvServiceStatesValues_eq allowedSpeeds bytePosition run.player
  rw [hread]
  exact h.of_fields rfl ⟨hothers.root, hothers.device⟩

theorem not_storeConforms_publishPosition (relTime : Option String)
    (count : String) (player : PlayerState) :
    ¬ StoreConforms (publishPosition relTime (some count) player) := by
  intro hconforms
  have hplayer := ((storeConforms_iff _).mp hconforms).1
  have hbytes : ∃ n, (publishPosition relTime (some count) player).playerProps.lookup
      "BytePosition" = some (.uint64 n) := ⟨_, AList.lookup_insert _⟩
  obtain ⟨n, hbytes⟩ := hbytes
  have htype := hplayer "BytePosition" _ hbytes ⟨"BytePosition", "x"⟩
    (by decide) rfl
  exact absurd htype (show ("t" : String) ≠ "x" by decide)

theorem reportsNoBytes_of_storeConforms {info : DeviceInfo}
    {run next : PlayerRun} {event : PlayerEvent}
    (hstep : playerStep info run event = some next)
    (hnext : StoreConforms next.player) : ReportsNoBytes event := by
  cases event with
  | bytePositionReply result =>
      obtain rfl := Option.some.inj hstep
      cases result with
      | none => trivial
      | some count => exact not_storeConforms_publishPosition none count _ hnext
  | allPositionReply relCnt result =>
      obtain rfl := Option.some.inj hstep
      cases relCnt with
      | none => trivial
      | some count =>
          cases result with
          | none =>
              exact not_storeConforms_publishPosition none count
                (removeProp "Position" run.player) hnext
          | some time =>
              exact not_storeConforms_publishPosition (some time) count
                run.player hnext
  | _ => trivial

/--
The stored properties conform in every state of a run exactly when no byte
position is reported, and the value of a manager property exactly when it is
not `NeverQuit`, which every reply to GetAll contains.
-/
theorem values_conform_iff {info : DeviceInfo} {events : List PlayerEvent}
    {last : PlayerRun}
    (hrun : exec (playerStep info) playerRunNew events = some last)
    (settings : Settings) :
    (Always (playerStep info) (fun run => StoreConforms run.player)
        playerRunNew events ↔
      Meets (playerStep info) (fun _ => ReportsNoBytes) playerRunNew events) ∧
    (∀ interfaceName prop value,
      dlrManagerGetProp settings interfaceName prop = .ok value →
        (Typed managerProperties (prop, value) ↔ prop ≠ "NeverQuit")) ∧
    ∀ interfaceName props,
      dlrManagerGetAllProps settings interfaceName = .ok props →
        ¬ ∀ entry ∈ props, Typed managerProperties entry := by
  refine ⟨?_, fun _ _ _ => typed_dlrManagerGetProp_iff,
    fun _ _ => dlrManagerGetAllProps_mistyped⟩
  exact guarded_run_always_iff (fun run => TypedStore run.player)
    (fun _ h => h.storeConforms)
    (fun _ _ _ => typedStore_playerStep)
    (fun _ _ _ _ => reportsNoBytes_of_storeConforms) typedStore_new hrun

/-- A byte position is published, and `NeverQuit` is read. -/
theorem byte_position_and_never_quit_mistyped :
    (∃ last, exec (playerStep bareDescription) playerRunNew
        [.bytePositionReply (some "1024")] = some last ∧
      ¬ StoreConforms last.player) ∧
    ∃ value, dlrManagerGetProp ⟨false, false, none⟩ "" "NeverQuit" =
        .ok value ∧ ¬ Typed managerProperties ("NeverQuit", value) :=
  ⟨⟨_, rfl, not_storeConforms_publishPosition none "1024" _⟩,
    ⟨_, rfl, by decide⟩⟩

theorem values_conform_without_bytes :
    Always (playerStep bareDescription) (fun run => StoreConforms run.player)
        playerRunNew
        [.request false false, .allPositionReply none (some "0:00:05")] ∧
      Typed managerProperties ("WhiteListEntries", .strings []) := by
  obtain ⟨last, hrun⟩ : ∃ last, exec (playerStep bareDescription) playerRunNew
      [.request false false, .allPositionReply none (some "0:00:05")] =
        some last := ⟨_, rfl⟩
  have hconform := values_conform_iff hrun ⟨false, false, none⟩
  exact ⟨hconform.1.mpr ⟨trivial, trivial, trivial⟩,
    (hconform.2.1 "" "WhiteListEntries" _ rfl).mpr (by decide)⟩

end DleynaRenderer.Player
