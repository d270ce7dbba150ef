import DleynaRenderer.Player.Speeds

/-!
# AV transport events

A LastChange event carries any subset of the track metadata, the duration, the
URI, the transport actions, the play speed, the transport state and the two
track counters.  What DIDL-Lite text contains is read by a library: an event
has the objects found in it and how the parsing ended.
-/

namespace DleynaRenderer.Player

open CString

structure DidlObject where
  trackNumber : Option Int
  title : Option String
  albumArt : Option String
  album : Option String
  genre : Option String
  artists : List (String × Option String)
  deriving DecidableEq, Repr

inductive DidlEnd where
  | parsed
  | emptyNode
  | failed
  deriving DecidableEq, Repr

structure Didl where
  objects : List DidlObject
  result : DidlEnd
  deriving DecidableEq, Repr

def gMaxUint : Nat := 2 ^ 32 - 1

/-- The fields an event does not have keep their defaults. -/
structure LastChange where
  metaData : Option Didl := none
  actions : Option String := none
  playSpeed : Option String := none
  state : Option String := none
  duration : Option String := none
  uri : Option String := none
  tracksNumber : Nat := gMaxUint
  currentTrack : Nat := gMaxUint
  deriving DecidableEq, Repr

def prvMapTransportState (upnpState : String) : String :=
  if upnpState = "PLAYING" then "Playing"
  else if upnpState = "PAUSED_PLAYBACK" ∨ upnpState = "PAUSED_RECORDING" then
    "Paused"
  else "Stopped"

/-- A speed that cannot be read is the normal one. -/
def prvMapTransportSpeed (upnpSpeed : String) : ℚ :=
  match gStrsplit upnpSpeed.toList '/' with
  | [num] => atoi (gStrstrip num)
  | [num, dom] =>
      if atoi (gStrstrip dom) = 0 then 1
      else atoi (gStrstrip num) / atoi (gStrstrip dom)
  | _ => 1

/-- Each field is multiplied in 32 unsigned bits before it is added. -/
def durationField (field : List Char) (i : Nat) : Int :=
  (atoi (gStrstrip field) * i) % 2 ^ 32

def prvDurationToInt64 (duration : String) : Int :=
  match gStrsplit duration.toList ':' with
  | [hours, minutes, seconds] =>
      (durationField seconds 1 + durationField minutes 60 +
        durationField hours 3600) * 1000000
  | _ => 0

def prvAddReltime (reltime : String) : Update → Update :=
  prvChangeProps "Position" (.int64 (prvDurationToInt64 reltime))

def prvAddRelcount (relcount : String) : Update → Update :=
  prvChangeProps "BytePosition"
    (.uint64 (strtol relcount.toList % 2 ^ 64).toNat)

def textEntry (key : String) (value : Option String) : MetaData :=
  match value with
  | none => []
  | some value => [(key, .string value)]

def prvFoundItem (object : DidlObject) : MetaData :=
  let number := (object.trackNumber.getD 0 % 2 ^ 32).toNat
  let artists := object.artists.filter fun artist => artist.2 = none
  let albumArtists :=
    object.artists.filter fun artist => artist.2 = some "AlbumArtist"
  [("mpris:trackid", .string s!"/com/intel/dLeynaRenderer/track/{number}")] ++
    (match object.trackNumber with
      | none => []
      | some number => [("mpris:trackNumber", .int32 number)]) ++
    textEntry "xesam:title" object.title ++
    textEntry "mpris:artUrl" object.albumArt ++
    textEntry "xesam:album" object.album ++
    textEntry "xesam:genre" object.genre ++
    (if object.artists = [] then []
     else
      [("xesam:artist", .strings (artists.map Prod.fst)),
       ("xesam:albumArtist", .strings (albumArtists.map Prod.fst))])

/-- Metadata that cannot be parsed leaves the property as it is. -/
def prvAddTrackMetaData (metaData : Didl) (duration uri : Option String)
    (update : Update) : Update :=
  let length : MetaData :=
    match duration with
    | none => []
    | some duration => [("mpris:length", .int64 (prvDurationToInt64 duration))]
  if metaData.result = .failed then update
  else
    prvChangeProps "Metadata"
      (.dict (length ++ textEntry "xesam:url" uri ++
        metaData.objects.flatMap prvFoundItem)) update

def mergeEntry (key : String) (value : MetaValue) (entries : MetaData) :
    MetaData :=
  let merged := entries.map fun entry =>
    if key = entry.1 then (entry.1, value) else entry
  if key ∈ entries.map Prod.fst then merged else merged ++ [(key, value)]

def currentMetaData (player : PlayerState) : MetaData :=
  match player.prop "Metadata" with
  | some (.dict entries) => entries
  | _ => []

def prvMergeMetaData (key : String) (value : MetaValue) (update : Update) :
    Update :=
  prvChangeProps "Metadata"
    (.dict (mergeEntry key value (currentMetaData update.player))) update

/-- A comma behind a backslash becomes a star together with the backslash. -/
def replaceEscapedCommas : List Char → List Char
  | [] => []
  | [c] => [c]
  | c :: d :: s =>
      if c = '\\' ∧ d = ',' then '*' :: replaceEscapedCommas s
      else c :: replaceEscapedCommas (d :: s)

def prvUpdatePropDlnaDeviceClasses (info : DeviceInfo) (props : Props) :
    Option (List String) × Props :=
  match props.lookup "DeviceClasses" with
  | some (.strings classes) => (some classes, props)
  | _ =>
      if info.dlnaClasses = [] then (none, props)
      else (some info.dlnaClasses,
        props.insert "DeviceClasses" (.strings info.dlnaClasses))

/-- A renderer of DLNA 1.5 or later names its class `DMR-1.5` or `M-DMR-1.5`. -/
def announcesSeekTime (dlnaDeviceClass : String) : Bool :=
  match gStrrstr ['D', 'M', 'R', '-'] dlnaDeviceClass.toList with
  | none => false
  | some pos => !(strtof (pos.drop 4)).lt (.finite (3 / 2))

structure Actions where
  play : Bool
  ppause : Bool
  seek : Bool
  timeseekMissing : Bool
  byteseek : Bool
  next : Bool
  previous : Bool
  deriving DecidableEq, Repr

def speedsAction : List Char := "X_DLNA_PS=".toList

def dlnaSpeeds (part : List Char) : Option (List (List Char)) :=
  if speedsAction.isPrefixOf part then
    some (gStrsplit (part.drop speedsAction.length) '*')
  else none

def readAction (actions : Actions) (part : List Char) : Actions :=
  if part = "Play".toList then { actions with play := true }
  else if part = "Pause".toList then { actions with ppause := true }
  else if part = "Seek".toList then { actions with seek := true }
  else if part = "Next".toList then { actions with next := true }
  else if part = "Previous".toList then { actions with previous := true }
  else if part = "X_DLNA_SeekTime".toList then
    { actions with timeseekMissing := false }
  else if part = "X_DLNA_SeekByte".toList then { actions with byteseek := true }
  else actions

def addSpeedsAction (update : Update) (part : List Char) : Update :=
  match dlnaSpeeds part with
  | none => update
  | some speeds => prvAddDlnaSpeeds speeds update

def actionParts (actions : String) : List (List Char) :=
  (gStrsplit (replaceEscapedCommas actions.toList) ',').map gStrstrip

def readActions (timeseekMissing : Bool) (parts : List (List Char)) : Actions :=
  parts.foldl readAction
    ⟨false, false, false, timeseekMissing, false, false, false⟩

def actionProps (actions : Actions) : List (String × Bool) :=
  [("CanControl", false),
   ("CanPlay", actions.play),
   ("CanPause", actions.ppause),
   ("CanSeek", actions.seek && !actions.timeseekMissing),
   ("CanByteSeek", actions.seek && actions.byteseek),
   ("CanGoNext", actions.next),
   ("CanGoPrevious", actions.previous)]

def changeBooleans (props : List (String × Bool)) (update : Update) : Update :=
  props.foldl (fun update prop =>
    prvChangeProps prop.1 (.boolean prop.2) update) update

/-- The update with the device classes looked up, and whether seeking by time
has to be announced. -/
def lookUpDlnaClasses (info : DeviceInfo) (update : Update) : Bool × Update :=
  let (classes, props) :=
    prvUpdatePropDlnaDeviceClasses info update.player.deviceProps
  ((classes.getD []).any announcesSeekTime,
    { update with player := { update.player with deviceProps := props } })

def prvAddActions (info : DeviceInfo) (actions : String) (update : Update) :
    Update :=
  let (timeseekMissing, update) := lookUpDlnaClasses info update
  let parts := actionParts actions
  changeBooleans (actionProps (readActions timeseekMissing parts))
    (parts.foldl addSpeedsAction update)

def allActions : List (String × Bool) :=
  [("CanPlay", true), ("CanPause", true), ("CanSeek", true),
   ("CanGoNext", true), ("CanGoPrevious", true), ("CanControl", true)]

def prvAddAllActions : Update → Update := changeBooleans allActions

theorem changesOnly_changeBooleans (props : List (String × Bool))
    (update : Update) :
    ChangesOnly (props.map Prod.fst) update.player
      (changeBooleans props update).player := by
  induction props generalizing update with
  | nil => exact .refl _ _
  | cons prop props ih =>
      have hrest := ih (prvChangeProps prop.1 (.boolean prop.2) update)
      exact (ChangesOnly.change (by simp) _ update).trans
        (hrest.mono (by simp))

/-! ## Events -/

def addMetaData (event : LastChange) (update : Update) : Update :=
  match event.metaData with
  | some metaData =>
      prvAddTrackMetaData metaData event.duration event.uri update
  | none =>
      let update :=
        match event.duration with
        | none => update
        | some duration =>
            prvMergeMetaData "mpris:length"
              (.int64 (prvDurationToInt64 duration)) update
      match event.uri with
      | none => update
      | some uri => prvMergeMetaData "xesam:url" (.string uri) update

def addActions (info : DeviceInfo) (event : LastChange) (update : Update) :
    Update :=
  match event.actions with
  | none => update
  | some actions => prvAddActions info actions update

def addPlaySpeed (event : LastChange) (update : Update) : Update :=
  match event.playSpeed with
  | none => update
  | some speed =>
      let update :=
        prvChangeProps "Rate" (.double (prvMapTransportSpeed speed)) update
      { update with player := { update.player with rate := speed } }

def addState (event : LastChange) (update : Update) : Update :=
  match event.state with
  | none => update
  | some state =>
      prvChangeProps "PlaybackStatus" (.string (prvMapTransportState state))
        update

def addCounter (key : String) (counter : Nat) (update : Update) : Update :=
  if counter ≠ gMaxUint then prvChangeProps key (.uint32 counter) update
  else update

def prvLastChangeCb (info : DeviceInfo) (event : LastChange)
    (player : PlayerState) : PlayerState :=
  let update := addMetaData event (.start player)
  let update := addActions info event update
  let update := addPlaySpeed event update
  let update := addState event update
  let update := addCounter "NumberOfTracks" event.tracksNumber update
  let update := addCounter "CurrentTrack" event.currentTrack update
  prvEmitSignalPropertiesChanged update

theorem changesOnly_addMetaData (event : LastChange) (update : Update) :
    ChangesOnly ["Metadata"] update.player
      (addMetaData event update).player := by
  have hset (value : Variant) (update : Update) :
      ChangesOnly ["Metadata"] update.player
        (prvChangeProps "Metadata" value update).player :=
    .change (by simp) value update
  unfold addMetaData
  cases event.metaData with
  | some metaData =>
      simp only [prvAddTrackMetaData]
      split_ifs
      · exact .refl _ _
      · exact hset _ _
  | none =>
      cases event.duration with
      | none =>
          cases event.uri with
          | none => exact .refl _ _
          | some uri => exact hset _ _
      | some duration =>
          cases event.uri with
          | none => exact hset _ _
          | some uri => exact (hset _ _).trans (hset _ _)

theorem changesOnly_addState (event : LastChange) (update : Update) :
    ChangesOnly ["PlaybackStatus"] update.player
      (addState event update).player := by
  unfold addState
  cases event.state with
  | none => exact .refl _ _
  | some state => exact .change (by simp) _ update

theorem changesOnly_addCounter (key : String) (counter : Nat)
    (update : Update) :
    ChangesOnly [key] update.player (addCounter key counter update).player := by
  unfold addCounter
  split_ifs
  · exact .change (by simp) _ update
  · exact .refl _ _

end DleynaRenderer.Player
