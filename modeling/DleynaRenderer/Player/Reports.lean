import DleynaRenderer.Player.MetaData
import DleynaRenderer.Player.ProtocolInfo
import DleynaRenderer.Player.Tables

/-!
# What the renderer has reported

Synchronisations, events, requests and replies change the tables of a device in
any order.  What these say about the item that is played, and about the items
that can be played, is what the renderer reported last, whatever came between.
-/

namespace DleynaRenderer.Player

open CString EventSystem HashTable

/-- What has been heard of the renderer, and not taken back. -/
structure Reported where
  status : Option String
  tracks : Option Nat
  track : Option Nat
  metaData : Option MetaData
  position : Option Int
  bytePosition : Option Nat
  sink : Option String
  deriving DecidableEq, Repr

def nothingReported : Reported := ⟨none, none, none, none, none, none, none⟩

def reportedCounter (counter : Nat) : Option Nat :=
  if counter ≠ gMaxUint then some counter else none

def reportedTrack (event : LastChange) (metaData : Option MetaData) :
    Option MetaData :=
  match event.metaData with
  | some didl =>
      if didl.result = .failed then metaData
      else some (trackEntries didl event.duration event.uri)
  | none =>
      if event.duration = none ∧ event.uri = none then metaData
      else some (mergedEntries event.duration event.uri (metaData.getD []))

def reportedTime (relTime : String) : Int :=
  prvDurationToInt64 (String.ofList (gStrstrip relTime.toList))

def reportedCount (relCnt : String) : Nat :=
  (strtol (String.ofList (gStrstrip relCnt.toList)).toList % 2 ^ 64).toNat

/-- A query for one position that fails says nothing, one for both takes back. -/
def hear (reported : Reported) : PlayerEvent → Reported
  | .lastChange event =>
      { reported with
        status := (event.state.map prvMapTransportState).or reported.status
        tracks := (reportedCounter event.tracksNumber).or reported.tracks
        track := (reportedCounter event.currentTrack).or reported.track
        metaData := reportedTrack event reported.metaData }
  | .sinkChange sink => { reported with sink := some sink }
  | .positionReply relTime =>
      { reported with
        position := (relTime.map reportedTime).or reported.position }
  | .bytePositionReply relCnt =>
      { reported with
        bytePosition := (relCnt.map reportedCount).or reported.bytePosition }
  | .allBytePositionReply relCnt =>
      { reported with
        bytePosition := relCnt.bind fun _ => reported.bytePosition }
  | .allPositionReply relCnt relTime =>
      { reported with
        position := relTime.map reportedTime
        bytePosition := (relCnt.map reportedCount).or reported.bytePosition }
  | _ => reported

def heard (events : List PlayerEvent) : Reported :=
  events.foldl hear nothingReported

structure Shows (player : PlayerState) (reported : Reported) : Prop where
  status : player.prop "PlaybackStatus" = reported.status.map .string
  tracks : player.prop "NumberOfTracks" = reported.tracks.map .uint32
  track : player.prop "CurrentTrack" = reported.track.map .uint32
  metaData : player.prop "Metadata" = reported.metaData.map .dict
  position : player.prop "Position" = reported.position.map .int64
  bytePosition : player.prop "BytePosition" =
    reported.bytePosition.map .uint64
  protocolInfo : player.deviceProps.lookup "ProtocolInfo" =
    reported.sink.map .string
  schemes : player.rootProps.lookup "SupportedUriSchemes" =
    reported.sink.map fun sink =>
      .strings (stringSet ((protocolEntries sink).map Prod.fst)).keys
  mimeTypes : player.rootProps.lookup "SupportedMimeTypes" =
    reported.sink.map fun sink =>
      .strings (stringSet ((protocolEntries sink).map Prod.snd)).keys

theorem shows_new : Shows playerNew nothingReported :=
  ⟨rfl, rfl, rfl, rfl, rfl, rfl, rfl, rfl, rfl⟩

def reportedKeys : List String :=
  ["PlaybackStatus", "NumberOfTracks", "CurrentTrack", "Metadata", "Position",
    "BytePosition"]

structure SameSink (player other : PlayerState) : Prop where
  device : other.deviceProps.lookup "ProtocolInfo" =
    player.deviceProps.lookup "ProtocolInfo"
  root : ∀ key ∈ ["SupportedUriSchemes", "SupportedMimeTypes"],
    other.rootProps.lookup key = player.rootProps.lookup key

theorem SameTables.sameSink {player other : PlayerState}
    (h : SameTables player other) : SameSink player other where
  device := by rw [h.device]
  root _ _ := by rw [h.root]

theorem SameSink.trans {player other last : PlayerState}
    (hfirst : SameSink player other) (hsecond : SameSink other last) :
    SameSink player last where
  device := hsecond.device.trans hfirst.device
  root key hkey := (hsecond.root key hkey).trans (hfirst.root key hkey)

structure SaysSame (player other : PlayerState) : Prop where
  props : ∀ key ∈ reportedKeys, other.prop key = player.prop key
  sink : SameSink player other

theorem SaysSame.refl (player : PlayerState) : SaysSame player player :=
  ⟨fun _ _ => rfl, ⟨rfl, fun _ _ => rfl⟩⟩

theorem SaysSame.trans {player other last : PlayerState}
    (hfirst : SaysSame player other) (hsecond : SaysSame other last) :
    SaysSame player last where
  props key hkey := (hsecond.props key hkey).trans (hfirst.props key hkey)
  sink := hfirst.sink.trans hsecond.sink

theorem Shows.of_saysSame {player other : PlayerState} {reported : Reported}
    (h : Shows player reported) (hsame : SaysSame player other) :
    Shows other reported where
  status := (hsame.props _ (by decide)).trans h.status
  tracks := (hsame.props _ (by decide)).trans h.tracks
  track := (hsame.props _ (by decide)).trans h.track
  metaData := (hsame.props _ (by decide)).trans h.metaData
  position := (hsame.props _ (by decide)).trans h.position
  bytePosition := (hsame.props _ (by decide)).trans h.bytePosition
  protocolInfo := hsame.sink.device.trans h.protocolInfo
  schemes := (hsame.sink.root _ (by decide)).trans h.schemes
  mimeTypes := (hsame.sink.root _ (by decide)).trans h.mimeTypes

def unreportedKeys : List String :=
  ["Volume", "Mute", "Rate"] ++ speedKeys ++ actionPropKeys

theorem not_mem_unreportedKeys {key : String} (hkey : key ∈ reportedKeys) :
    key ∉ unreportedKeys := by
  revert key
  decide

theorem ChangesOnly.saysSame {keys : List String} {player other : PlayerState}
    (h : ChangesOnly keys player other) (hkeys : keys ⊆ unreportedKeys) :
    SaysSame player other where
  props key hkey :=
    h.props key fun hmem => not_mem_unreportedKeys hkey (hkeys hmem)
  sink := h.sameTables.sameSink

theorem Emits.saysSame {keys : List String} {player other : PlayerState}
    (h : Emits keys player other) (hkeys : keys ⊆ unreportedKeys)
    (htables : SameTables player other) : SaysSame player other where
  props _ hkey :=
    h.prop_eq fun hmem => not_mem_unreportedKeys hkey (hkeys hmem)
  sink := htables.sameSink

theorem protocolInfo_prvUpdatePropDlnaDeviceClasses (info : DeviceInfo)
    (props : Props) :
    (prvUpdatePropDlnaDeviceClasses info props).2.lookup "ProtocolInfo" =
      props.lookup "ProtocolInfo" := by
  unfold prvUpdatePropDlnaDeviceClasses
  split
  · rfl
  · split
    · rfl
    · exact AList.lookup_insert_ne (by decide)

theorem saysSame_beginUpdate (info : DeviceInfo) (player : PlayerState) :
    SaysSame player (beginUpdate info player) where
  props _ _ := rfl
  sink := {
    device := by
      refine (lookup_foldl_insertText (by simp) _).trans ?_
      exact protocolInfo_prvUpdatePropDlnaDeviceClasses info _
    root := by
      intro key hkey
      have hne : key ∉ ["CanQuit", "CanRaise", "CanSetFullscreen",
          "HasTrackList", "Identity"] := by
        revert key
        decide
      simp only [List.mem_cons, List.not_mem_nil, or_false, not_or] at hne
      obtain ⟨hquit, hraise, hscreen, hlist, hidentity⟩ := hne
      refine (lookup_insertText_of_ne hidentity _ _).trans ?_
      simp only [List.foldl_cons, List.foldl_nil]
      rw [AList.lookup_insert_ne hlist, AList.lookup_insert_ne hscreen,
        AList.lookup_insert_ne hraise, AList.lookup_insert_ne hquit] }

theorem saysSame_resume_finishUpdate (player : PlayerState)
    (trigger : Option RcEvent) :
    SaysSame player (resume trigger (finishUpdate player)) := by
  have hspeeds := changesOnly_prvAddPlayerSpeedProps player.minRate
    player.maxRate player.mprisTransportPlaySpeeds (.start player)
  have hactions := changesOnly_changeBooleans allActions
    (prvAddPlayerSpeedProps player.minRate player.maxRate
      player.mprisTransportPlaySpeeds (.start player))
  have hboth := (hspeeds.saysSame (by decide)).trans
    (hactions.saysSame (by decide))
  have hfinish : SaysSame player (finishUpdate player) :=
    ⟨hboth.props, ⟨hboth.sink.device, hboth.sink.root⟩⟩
  exact hfinish.trans
    ((changesOnly_resume trigger _).saysSame (by decide))

theorem saysSame_prvResetTransportSpeedProps (player : PlayerState) :
    SaysSame player (prvResetTransportSpeedProps player) := by
  rcases emits_prvResetTransportSpeedProps player with hsame | hemits
  · rw [hsame]
    exact ⟨fun _ _ => rfl, ⟨rfl, fun _ _ => rfl⟩⟩
  · have hspeeds : (if speedsPublished player then []
        else resetSpeedKeys player) ⊆ speedKeys := by
      split
      · exact List.nil_subset _
      · exact (speedPropKeys_sublist _ _ _).subset
    have hkeys : resetKeys player ⊆ unreportedKeys := by
      apply List.append_subset.mpr
      constructor
      · exact List.Subset.trans hspeeds (by decide)
      · exact List.Subset.trans (optionalKey_sublist _ _).subset (by decide)
    exact hemits.saysSame hkeys (sameTables_prvResetTransportSpeedProps player)

theorem saysSame_prvSetRate {player next : PlayerState} {value : Variant}
    (hset : prvSetRate player value = .ok next) : SaysSame player next := by
  rcases emits_prvSetRate hset with rfl | hemits
  · exact .refl _
  · exact hemits.saysSame (by decide) (sameTables_prvSetRate hset)

/-! ## Steps -/

def isReport : PlayerEvent → Bool
  | .lastChange _ => true
  | .sinkChange _ => true
  | .positionReply _ => true
  | .bytePositionReply _ => true
  | .allBytePositionReply _ => true
  | .allPositionReply .. => true
  | _ => false

theorem hear_of_not_report {event : PlayerEvent} (h : isReport event = false)
    (reported : Reported) : hear reported event = reported := by
  cases event with
  | lastChange | sinkChange | positionReply | bytePositionReply
  | allBytePositionReply | allPositionReply => contradiction
  | _ => rfl

theorem saysSame_plainEffect {info : DeviceInfo} {run : PlayerRun}
    {event : PlayerEvent} {player : PlayerState}
    (hreport : isReport event = false)
    (heffect : plainEffect info run event = some player) :
    SaysSame run.player player := by
  cases event with
  | lastChange | sinkChange | positionReply | bytePositionReply
  | allBytePositionReply | allPositionReply => contradiction
  | avIntrospection | rcIntrospection => contradiction
  | rcLastChange | request =>
      obtain rfl := Option.some.inj heffect
      exact .refl _
  | rcIdle =>
      obtain ⟨event, -, rfl⟩ := Option.map_eq_some_iff.mp heffect
      exact (changesOnly_prvProcessRcLastChange event _).saysSame (by decide)
  | openUri =>
      obtain rfl := Option.some.inj heffect
      exact saysSame_prvResetTransportSpeedProps run.player
  | setRate value =>
      rcases plainEffect_setRate heffect with rfl | hset
      · exact .refl _
      · exact saysSame_prvSetRate hset

theorem saysSame_playerStep {info : DeviceInfo} {run next : PlayerRun}
    {event : PlayerEvent} (hreport : isReport event = false)
    (hstep : playerStep info run event = some next) :
    SaysSame run.player next.player := by
  refine playerStep_invariant (.refl _) (saysSame_beginUpdate info _) ?_
    (fun _ => ⟨fun _ _ => rfl, ⟨rfl, fun _ _ => rfl⟩⟩)
    (fun player trigger _ h =>
      h.trans (saysSame_resume_finishUpdate player trigger))
    (fun _ => saysSame_plainEffect hreport) hstep
  intro allowedSpeeds bytePosition _
  obtain ⟨transport, mpris, minRate, maxRate, hread⟩ :=
    prvGetAvServiceStatesValues_eq allowedSpeeds bytePosition run.player
  rw [hread]
  exact ⟨fun _ _ => rfl, ⟨rfl, fun _ _ => rfl⟩⟩

theorem plainEffect_of_report {info : DeviceInfo} {run next : PlayerRun}
    {event : PlayerEvent} (hreport : isReport event = true)
    (hstep : playerStep info run event = some next) :
    plainEffect info run event = some next.player := by
  have hnone : syncOutcome info run event = none := by
    cases event with
    | lastChange | sinkChange | positionReply | bytePositionReply
    | allBytePositionReply | allPositionReply => rfl
    | _ => contradiction
  simp only [playerStep, hnone] at hstep
  obtain ⟨player, heffect, rfl⟩ := Option.map_eq_some_iff.mp hstep
  exact heffect

theorem prop_addState (event : LastChange) (update : Update) :
    (addState event update).player.prop "PlaybackStatus" =
      ((event.state.map prvMapTransportState).map .string).or
        (update.player.prop "PlaybackStatus") := by
  unfold addState
  cases event.state with
  | none => rfl
  | some state => simp

theorem prop_addCounter (key : String) (counter : Nat) (update : Update) :
    (addCounter key counter update).player.prop key =
      ((reportedCounter counter).map .uint32).or (update.player.prop key) := by
  unfold addCounter reportedCounter
  split
  · simp
  · rfl

theorem prop_beforeState (info : DeviceInfo) (event : LastChange)
    (player : PlayerState) {key : String}
    (hkey : key ∉ ["Metadata", "Rate"] ++ unreportedKeys) :
    (addPlaySpeed event (addActions info event
      (addMetaData event (.start player)))).player.prop key =
        player.prop key := by
  have hmem : key ∉ ["Metadata"] ∧ key ∉ ["Rate"] ∧
      key ∉ speedKeys ++ actionPropKeys := by
    refine ⟨fun h => hkey ?_, fun h => hkey ?_, fun h => hkey ?_⟩
    · exact List.mem_append_left _ (List.mem_cons.mpr (.inl (by simpa using h)))
    · rw [List.mem_singleton.mp h]
      decide
    · rw [unreportedKeys, List.append_assoc]
      exact List.mem_append_right _ (List.mem_append_right _ h)
  obtain ⟨hmeta, hrate, hactions⟩ := hmem
  rw [(publishes_addPlaySpeed event _).prop_eq fun h =>
      hrate ((optionalKey_sublist _ _).subset h),
    (publishes_addActions info event _).prop_eq fun h =>
      hactions (actionKeys_subset event h)]
  exact (changesOnly_addMetaData event (.start player)).props key hmeta

theorem status_prvLastChangeCb (info : DeviceInfo) (event : LastChange)
    (player : PlayerState) :
    (prvLastChangeCb info event player).prop "PlaybackStatus" =
      ((event.state.map prvMapTransportState).map .string).or
        (player.prop "PlaybackStatus") := by
  rw [prvLastChangeCb, prop_emit,
    (changesOnly_addCounter _ _ _).props _ (by decide),
    (changesOnly_addCounter _ _ _).props _ (by decide), prop_addState,
    prop_beforeState info event player (by decide)]

theorem counter_prvLastChangeCb (info : DeviceInfo) {event : LastChange}
    {key : String} {counter : Nat}
    (hcounter : (key, counter) ∈ [("NumberOfTracks", event.tracksNumber),
      ("CurrentTrack", event.currentTrack)]) (player : PlayerState) :
    (prvLastChangeCb info event player).prop key =
      ((reportedCounter counter).map .uint32).or (player.prop key) := by
  have hother : key ∉ ["Metadata", "Rate"] ++ unreportedKeys ∧
      key ∉ ["PlaybackStatus"] := by
    simp only [List.mem_cons, Prod.mk.injEq, List.not_mem_nil, or_false]
      at hcounter
    rcases hcounter with ⟨rfl, -⟩ | ⟨rfl, -⟩ <;> decide
  have hbefore := (changesOnly_addState event (addPlaySpeed event
    (addActions info event (addMetaData event (.start player))))).props key
      hother.2
  rw [prop_beforeState info event player hother.1] at hbefore
  rw [prvLastChangeCb, prop_emit, ← hbefore]
  simp only [List.mem_cons, Prod.mk.injEq, List.not_mem_nil, or_false] at hcounter
  rcases hcounter with ⟨rfl, rfl⟩ | ⟨rfl, rfl⟩
  · rw [(changesOnly_addCounter _ _ _).props _ (by decide), prop_addCounter]
  · rw [prop_addCounter, (changesOnly_addCounter _ _ _).props _ (by decide)]

theorem metaData_prvLastChangeCb (info : DeviceInfo) (event : LastChange)
    {player : PlayerState} {metaData : Option MetaData}
    (h : player.prop "Metadata" = metaData.map .dict) :
    (prvLastChangeCb info event player).prop "Metadata" =
      (reportedTrack event metaData).map .dict := by
  have hcurrent : currentMetaData player = metaData.getD [] := by
    rw [currentMetaData, h]
    cases metaData <;> rfl
  unfold reportedTrack
  cases hevent : event.metaData with
  | none =>
      have hmerged := metadata_of_merged info event event.duration event.uri
        player
      have habout : event.about none event.duration event.uri = event := by
        rw [LastChange.about, ← hevent]
      rw [habout, hcurrent, h] at hmerged
      rw [hmerged]
      simp only
      split <;> rfl
  | some didl =>
      by_cases hfailed : didl.result = .failed
      · rw [metadata_prvLastChangeCb, addMetaData, hevent]
        simp only [prvAddTrackMetaData, hfailed, if_true]
        exact h
      · have hparsed := metadata_of_parsed info event hfailed event.duration
          event.uri player
        have habout : event.about (some didl) event.duration event.uri =
            event := by
          rw [LastChange.about, ← hevent]
        rw [habout] at hparsed
        rw [hparsed]
        simp [hfailed]

theorem shows_prvLastChangeCb (info : DeviceInfo) (event : LastChange)
    {player : PlayerState} {reported : Reported} (h : Shows player reported) :
    Shows (prvLastChangeCb info event player)
      (hear reported (.lastChange event)) := by
  obtain ⟨hroot, hdevice⟩ := tables_prvLastChangeCb info event player
  have hposition : ∀ key ∈ positionKeys,
      (prvLastChangeCb info event player).prop key = player.prop key := by
    intro key hkey
    have hapart : ∀ key ∈ positionKeys,
        key ∉ ["Metadata", "PlaybackStatus", "NumberOfTracks", "CurrentTrack"] ++
          unreportedKeys := by decide
    have hkeys : lastChangeKeys event ⊆ ["Metadata", "PlaybackStatus",
        "NumberOfTracks", "CurrentTrack"] ++ unreportedKeys :=
      lastChangeKeys_subset (by decide) (by decide) (by decide) event
    exact (emits_prvLastChangeCb info event player).prop_eq
      fun hmem => hapart key hkey (hkeys hmem)
  constructor
  · rw [status_prvLastChangeCb, h.status]
    exact Option.map_or.symm
  · rw [counter_prvLastChangeCb info (.head _), h.tracks]
    exact Option.map_or.symm
  · rw [counter_prvLastChangeCb info (.tail _ (.head _)), h.track]
    exact Option.map_or.symm
  · exact metaData_prvLastChangeCb info event h.metaData
  · exact (hposition _ (by decide)).trans h.position
  · exact (hposition _ (by decide)).trans h.bytePosition
  · rcases hdevice with hsame | hclasses
    · rw [hsame]
      exact h.protocolInfo
    · rw [hclasses, protocolInfo_prvUpdatePropDlnaDeviceClasses]
      exact h.protocolInfo
  · rw [hroot]
    exact h.schemes
  · rw [hroot]
    exact h.mimeTypes

/-! ## Replies -/

theorem position_publishPosition (relTime relCnt : Option String)
    (player : PlayerState) :
    (publishPosition relTime relCnt player).prop "Position" =
      ((relTime.map reportedTime).map .int64).or (player.prop "Position") := by
  unfold publishPosition
  cases relTime with
  | none => cases relCnt <;> simp [prvAddRelcount, Update.start]
  | some time =>
      cases relCnt <;>
        simp [prvAddReltime, prvAddRelcount, Update.start, reportedTime]

theorem bytePosition_publishPosition (relTime relCnt : Option String)
    (player : PlayerState) :
    (publishPosition relTime relCnt player).prop "BytePosition" =
      ((relCnt.map reportedCount).map .uint64).or
        (player.prop "BytePosition") := by
  unfold publishPosition
  cases relCnt with
  | none => cases relTime <;> simp [prvAddReltime, Update.start]
  | some count =>
      cases relTime <;>
        simp [prvAddReltime, prvAddRelcount, Update.start, reportedCount]

theorem Shows.of_positions {player other : PlayerState} {reported : Reported}
    (h : Shows player reported) (hchanges : ChangesOnly positionKeys player other)
    {position : Option Int} {bytePosition : Option Nat}
    (hposition : other.prop "Position" = position.map .int64)
    (hbytes : other.prop "BytePosition" = bytePosition.map .uint64) :
    Shows other { reported with
      position := position, bytePosition := bytePosition } where
  status := (hchanges.props _ (by decide)).trans h.status
  tracks := (hchanges.props _ (by decide)).trans h.tracks
  track := (hchanges.props _ (by decide)).trans h.track
  metaData := (hchanges.props _ (by decide)).trans h.metaData
  position := hposition
  bytePosition := hbytes
  protocolInfo := hchanges.sameTables.sameSink.device.trans h.protocolInfo
  schemes := (hchanges.sameTables.sameSink.root _ (by decide)).trans h.schemes
  mimeTypes := (hchanges.sameTables.sameSink.root _ (by decide)).trans
    h.mimeTypes

theorem prop_removeProp (key other : String) (player : PlayerState) :
    (removeProp key player).prop other =
      if other = key then none else player.prop other :=
  lookup_erase_eq _ _ _

theorem shows_prvGetPositionInfoCb {player : PlayerState} {reported : Reported}
    (h : Shows player reported) (relTime : Option String) :
    Shows (prvGetPositionInfoCb relTime player)
      (hear reported (.positionReply relTime)) := by
  apply h.of_positions (changesOnly_prvGetPositionInfoCb relTime player)
  · unfold prvGetPositionInfoCb
    cases relTime with
    | none => exact h.position
    | some time =>
        rw [if_neg (by simp), position_publishPosition]
        rfl
  · unfold prvGetPositionInfoCb
    split
    · exact h.bytePosition
    · rw [bytePosition_publishPosition]
      exact h.bytePosition

theorem shows_prvGetBytePositionInfoCb {player : PlayerState}
    {reported : Reported} (h : Shows player reported) (relCnt : Option String) :
    Shows (prvGetBytePositionInfoCb relCnt player)
      (hear reported (.bytePositionReply relCnt)) := by
  apply h.of_positions (changesOnly_prvGetBytePositionInfoCb relCnt player)
  · unfold prvGetBytePositionInfoCb
    split
    · exact h.position
    · rw [position_publishPosition]
      exact h.position
  · unfold prvGetBytePositionInfoCb
    cases relCnt with
    | none => exact h.bytePosition
    | some count =>
        rw [if_neg (by simp), bytePosition_publishPosition]
        rfl

theorem shows_prvGetAllBytePositionInfoCb {player : PlayerState}
    {reported : Reported} (h : Shows player reported) (relCnt : Option String) :
    Shows (prvGetAllBytePositionInfoCb relCnt player)
      (hear reported (.allBytePositionReply relCnt)) := by
  apply h.of_positions (changesOnly_prvGetAllBytePositionInfoCb relCnt player)
  · unfold prvGetAllBytePositionInfoCb
    split
    · rw [prop_removeProp, if_neg (by decide)]
      exact h.position
    · exact h.position
  · unfold prvGetAllBytePositionInfoCb
    cases relCnt with
    | none =>
        rw [if_pos rfl, prop_removeProp, if_pos rfl]
        rfl
    | some count => exact h.bytePosition

theorem shows_prvGetAllPositionInfoCb {player : PlayerState}
    {reported : Reported} (h : Shows player reported)
    (relCnt relTime : Option String) :
    Shows (prvGetAllPositionInfoCb relCnt relTime player)
      (hear reported (.allPositionReply relCnt relTime)) := by
  have hremoved : (removeProp "Position" player).prop "Position" = none := by
    rw [prop_removeProp, if_pos rfl]
  have hbytes : (removeProp "Position" player).prop "BytePosition" =
      reported.bytePosition.map .uint64 := by
    rw [prop_removeProp, if_neg (by decide)]
    exact h.bytePosition
  apply h.of_positions (changesOnly_prvGetAllPositionInfoCb relCnt relTime player)
  · unfold prvGetAllPositionInfoCb
    cases relTime with
    | none =>
        cases relCnt with
        | none => exact hremoved
        | some count =>
            simp only [if_true, reduceCtorEq, and_false, if_false]
            rw [position_publishPosition, hremoved]
            rfl
    | some time =>
        simp only [reduceCtorEq, false_and, if_false]
        rw [position_publishPosition]
        rfl
  · unfold prvGetAllPositionInfoCb
    cases relTime with
    | none =>
        cases relCnt with
        | none => exact hbytes
        | some count =>
            simp only [if_true, reduceCtorEq, and_false, if_false]
            rw [bytePosition_publishPosition, hbytes]
            exact Option.map_or.symm
    | some time =>
        simp only [reduceCtorEq, false_and, if_false]
        rw [bytePosition_publishPosition, h.bytePosition]
        exact Option.map_or.symm

theorem shows_prvProcessProtocolInfo {player : PlayerState}
    {reported : Reported} (h : Shows player reported) (sink : String) :
    Shows (prvProcessProtocolInfo sink player)
      (hear reported (.sinkChange sink)) where
  status := h.status
  tracks := h.tracks
  track := h.track
  metaData := h.metaData
  position := h.position
  bytePosition := h.bytePosition
  protocolInfo := AList.lookup_insert _
  schemes := by
    refine (AList.lookup_insert_ne (by decide)).trans ?_
    exact AList.lookup_insert _
  mimeTypes := AList.lookup_insert _

/-! ## Runs -/

theorem shows_plainEffect {info : DeviceInfo} {run : PlayerRun}
    {event : PlayerEvent} {player : PlayerState} {reported : Reported}
    (h : Shows run.player reported) (hreport : isReport event = true)
    (heffect : plainEffect info run event = some player) :
    Shows player (hear reported event) := by
  cases event with
  | lastChange event =>
      obtain rfl := Option.some.inj heffect
      exact shows_prvLastChangeCb info event h
  | sinkChange sink =>
      obtain rfl := Option.some.inj heffect
      exact shows_prvProcessProtocolInfo h sink
  | positionReply relTime =>
      obtain rfl := Option.some.inj heffect
      exact shows_prvGetPositionInfoCb h relTime
  | bytePositionReply relCnt =>
      obtain rfl := Option.some.inj heffect
      exact shows_prvGetBytePositionInfoCb h relCnt
  | allBytePositionReply relCnt =>
      obtain rfl := Option.some.inj heffect
      exact shows_prvGetAllBytePositionInfoCb h relCnt
  | allPositionReply relCnt relTime =>
      obtain rfl := Option.some.inj heffect
      exact shows_prvGetAllPositionInfoCb h relCnt relTime
  | _ => contradiction

theorem shows_playerStep {info : DeviceInfo} {run next : PlayerRun}
    {event : PlayerEvent} {reported : Reported} (h : Shows run.player reported)
    (hstep : playerStep info run event = some next) :
    Shows next.player (hear reported event) := by
  cases hreport : isReport event with
  | true => exact shows_plainEffect h hreport (plainEffect_of_report hreport hstep)
  | false =>
      rw [hear_of_not_report hreport]
      exact h.of_saysSame (saysSame_playerStep hreport hstep)

theorem shows_of_exec {info : DeviceInfo} {events : List PlayerEvent}
    {last : PlayerRun}
    (hrun : exec (playerStep info) playerRunNew events = some last) :
    Shows last.player (heard events) := by
  refine exec_history (fun past run => Shows run.player (heard past)) ?_
    shows_new hrun (meets_of_forall_mem (fun _ _ _ => trivial) _)
  intro past run event next h _ hstep
  rw [heard, List.foldl_concat]
  exact shows_playerStep h hstep

end DleynaRenderer.Player
