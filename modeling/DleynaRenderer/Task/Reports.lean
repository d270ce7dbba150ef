import DleynaRenderer.Player.Reports
import DleynaRenderer.Task.GetProps

/-!
# Requests answer what was reported

A client that asks for a property is answered with what the renderer reported
last, and a client that asks for all of them is sent this for each.  The
position is asked for anew, and the answer is a report like any other.
-/

namespace DleynaRenderer.Task

open DleynaRenderer.Player EventSystem HashTable

def reportedEntries (reported : Reported) :
    List (String × String × Option Variant) :=
  [(playerInterface, "PlaybackStatus", reported.status.map .string),
    (playerInterface, "NumberOfTracks", reported.tracks.map .uint32),
    (playerInterface, "CurrentTrack", reported.track.map .uint32),
    (playerInterface, "Metadata", reported.metaData.map .dict),
    (playerInterface, "Position", reported.position.map .int64),
    (playerInterface, "BytePosition", reported.bytePosition.map .uint64),
    (serverInterface, "SupportedUriSchemes", reported.sink.map fun sink =>
      .strings (stringSet ((protocolEntries sink).map Prod.fst)).keys),
    (serverInterface, "SupportedMimeTypes", reported.sink.map fun sink =>
      .strings (stringSet ((protocolEntries sink).map Prod.snd)).keys),
    (rendererDeviceInterface, "ProtocolInfo", reported.sink.map .string)]

def answerReported : Option Variant → Answer
  | some value => .formatted "(v)" (.property value)
  | none => .error ⟨.unknownProperty, "Property not defined for object"⟩

def queryReports (player : PlayerState) (interfaceName : String)
    (byte time : ActionReply) : List PlayerEvent :=
  if IsPlayerInterface interfaceName then
    if player.canGetBytePosition then
      [.allBytePositionReply byte.result,
        .allPositionReply byte.result time.result]
    else [.allPositionReply none time.result]
  else []

theorem lookUpProp_everywhere (player : PlayerState) (key : String) :
    lookUpProp player "" key =
      .ok (((player.rootProps.lookup key).or
        (player.playerProps.lookup key)).or
          (player.deviceProps.lookup key)) := rfl

theorem lookUpProp_player {player : PlayerState} (h : KnownNames player)
    {interfaceName key : String}
    (hinterface : interfaceName = playerInterface ∨ interfaceName = "")
    (hkey : key ∈ propertyNames playerProperties) :
    lookUpProp player interfaceName key = .ok (player.prop key) := by
  have hroot : player.rootProps.lookup key = none := by
    refine h.root key fun hmem => ?_
    exact serverNames_fresh key hmem (List.mem_append_left _ hkey)
  have hdevice : player.deviceProps.lookup key = none :=
    h.device key (playerNames_fresh key hkey)
  rcases hinterface with rfl | rfl
  · rfl
  · rw [lookUpProp_everywhere, hroot, hdevice, Option.none_or, Option.or_none]
    rfl

theorem lookUpProp_server {player : PlayerState} (h : KnownNames player)
    {interfaceName key : String}
    (hinterface : interfaceName = serverInterface ∨ interfaceName = "")
    (hkey : key ∈ propertyNames serverProperties) :
    lookUpProp player interfaceName key = .ok (player.rootProps.lookup key) := by
  have hfresh := serverNames_fresh key hkey
  simp only [List.mem_append, not_or] at hfresh
  have hprops : player.playerProps.lookup key = none := h.props key hfresh.1
  have hdevice : player.deviceProps.lookup key = none := h.device key hfresh.2
  rcases hinterface with rfl | rfl
  · rfl
  · rw [lookUpProp_everywhere, hprops, hdevice, Option.or_none, Option.or_none]

theorem lookUpProp_device {player : PlayerState} (h : KnownNames player)
    {interfaceName key : String}
    (hinterface : interfaceName = rendererDeviceInterface ∨ interfaceName = "")
    (hkey : key ∈ propertyNames rendererDeviceProperties) :
    lookUpProp player interfaceName key =
      .ok (player.deviceProps.lookup key) := by
  have hroot : player.rootProps.lookup key = none := by
    refine h.root key fun hmem => ?_
    exact serverNames_fresh key hmem (List.mem_append_right _ hkey)
  have hprops : player.playerProps.lookup key = none := by
    refine h.props key fun hmem => ?_
    exact playerNames_fresh key hmem hkey
  rcases hinterface with rfl | rfl
  · rfl
  · rw [lookUpProp_everywhere, hroot, hprops, Option.none_or, Option.none_or]

theorem lookUpProp_reported {player : PlayerState} {reported : Reported}
    (hshows : Shows player reported) (hknown : KnownNames player)
    {stored interfaceName key : String} {value : Option Variant}
    (hentry : (stored, key, value) ∈ reportedEntries reported)
    (hinterface : interfaceName = stored ∨ interfaceName = "") :
    lookUpProp player interfaceName key = .ok value := by
  simp only [reportedEntries, List.mem_cons, List.not_mem_nil, or_false,
    Prod.mk.injEq] at hentry
  rcases hentry with ⟨rfl, rfl, rfl⟩ | ⟨rfl, rfl, rfl⟩ | ⟨rfl, rfl, rfl⟩ |
    ⟨rfl, rfl, rfl⟩ | ⟨rfl, rfl, rfl⟩ | ⟨rfl, rfl, rfl⟩ | ⟨rfl, rfl, rfl⟩ |
    ⟨rfl, rfl, rfl⟩ | ⟨rfl, rfl, rfl⟩
  · rw [lookUpProp_player hknown hinterface (by decide), hshows.status]
  · rw [lookUpProp_player hknown hinterface (by decide), hshows.tracks]
  · rw [lookUpProp_player hknown hinterface (by decide), hshows.track]
  · rw [lookUpProp_player hknown hinterface (by decide), hshows.metaData]
  · rw [lookUpProp_player hknown hinterface (by decide), hshows.position]
  · rw [lookUpProp_player hknown hinterface (by decide), hshows.bytePosition]
  · rw [lookUpProp_server hknown hinterface (by decide), hshows.schemes]
  · rw [lookUpProp_server hknown hinterface (by decide), hshows.mimeTypes]
  · rw [lookUpProp_device hknown hinterface (by decide), hshows.protocolInfo]

theorem lookup_device_of_server {player : PlayerState} {reported : Reported}
    (hknown : KnownNames player) {key : String} {value : Option Variant}
    (hentry : (serverInterface, key, value) ∈ reportedEntries reported) :
    player.deviceProps.lookup key = none := by
  apply hknown.device
  simp only [reportedEntries, List.mem_cons, List.not_mem_nil, or_false,
    Prod.mk.injEq] at hentry
  have hplayer : serverInterface ≠ playerInterface := by decide
  have hdevice : serverInterface ≠ rendererDeviceInterface := by decide
  simp only [hplayer, hdevice, false_and, false_or, or_false, true_and]
    at hentry
  rcases hentry with ⟨rfl, -⟩ | ⟨rfl, -⟩
  · decide
  · decide

theorem shows_afterQueries {player : PlayerState} {reported : Reported}
    (h : Shows player reported) (interfaceName : String)
    (byte time : ActionReply) :
    Shows (afterQueries player interfaceName byte time)
      ((queryReports player interfaceName byte time).foldl hear reported) := by
  unfold afterQueries queryReports
  split_ifs
  · exact shows_prvGetAllPositionInfoCb
      (shows_prvGetAllBytePositionInfoCb h byte.result) byte.result time.result
  · exact shows_prvGetAllPositionInfoCb h none time.result
  · exact h

theorem lists_reported {player : PlayerState} {reported : Reported}
    (hshows : Shows player reported) (hknown : KnownNames player)
    {stored interfaceName key : String} {value : Option Variant}
    (hentry : (stored, key, value) ∈ reportedEntries reported)
    (hinterface : interfaceName = stored ∨ interfaceName = "")
    (found : Variant) :
    Lists player interfaceName key found ↔ value = some found := by
  rw [lists_iff hknown,
    lookUpProp_reported hshows hknown hentry hinterface, Except.ok.injEq]
  apply or_iff_left
  rintro ⟨rfl, hdevice⟩
  have hserver : serverInterface = stored :=
    hinterface.resolve_right (by decide)
  rw [← hserver] at hentry
  rw [lookup_device_of_server hknown hentry] at hdevice
  contradiction

/--
In every state that is reached and synced, Get answers what was reported last,
and GetAll lists it, after the reports that it asks for itself.
-/
theorem requests_answer_reports {info : DeviceInfo} {events : List PlayerEvent}
    {last : PlayerRun}
    (hrun : exec (playerStep info) playerRunNew events = some last)
    {around : Surroundings} {device : DeviceView}
    (hdevice : around.device = some device)
    (hplayer : device.player = last.player)
    (hsynced : device.player.synced = true) (interfaceName : String)
    (invocation : Nat) :
    (∀ propName stored value, strip propName ∉ positionKeys →
      (stored, strip propName, value) ∈ reportedEntries (heard events) →
      strip interfaceName = stored ∨ strip interfaceName = "" →
        Answers (getRun around interfaceName propName invocation) invocation
          (answerReported value)) ∧
    ∀ byte time, strip interfaceName ∈ knownInterfaces →
      (IsPlayerInterface (strip interfaceName) → device.avProxy = true) →
      ∃ values,
        ReturnsAll (getAllRun around device interfaceName invocation byte time)
          invocation values ∧
        ∀ stored key value, (stored, key, value) ∈
            reportedEntries (heard (events ++ queryReports device.player
              (strip interfaceName) byte time)) →
          strip interfaceName = stored ∨ strip interfaceName = "" →
            ∀ found, (key, found) ∈ values ↔ value = some found := by
  have hshows : Shows device.player (heard events) := by
    rw [hplayer]
    exact shows_of_exec hrun
  have hknown : KnownNames device.player := by
    rw [hplayer]
    exact knownNames_of_exec hrun
  constructor
  · intro propName stored value hprop hentry hinterface
    have hanswers := answers_getRun hdevice hsynced interfaceName hprop invocation
    rw [answerGet,
      lookUpProp_reported hshows hknown hentry hinterface] at hanswers
    cases value with
    | none => exact hanswers
    | some value => exact hanswers
  · intro byte time hinterfaces hproxy
    have hafter := shows_afterQueries hshows (strip interfaceName) byte time
    have hnames : KnownNames
        (afterQueries device.player (strip interfaceName) byte time) :=
      hknown.of_changesOnly (by decide)
        (changesOnly_afterQueries device.player (strip interfaceName) byte time)
    obtain ⟨values, hvalues⟩ := lookUpProps_of_known hinterfaces
      (afterQueries device.player (strip interfaceName) byte time)
    refine ⟨values, (returnsAll_getAllRun_iff hdevice hsynced hproxy invocation
      byte time values).mpr hvalues, ?_⟩
    intro stored key value hentry hinterface found
    rw [heard, List.foldl_append] at hentry
    rw [← lists_reported hafter hnames hentry hinterface found]
    unfold Lists
    simp only [hvalues, Except.ok.injEq, exists_eq_left']

def playedEvents : List PlayerEvent :=
  [.request false false, .lastChange { state := some "PLAYING" }, .openUri,
    .lastChange { uri := some "http://10.0.0.1/a" },
    .allPositionReply none (some "0:00:05"), .allPositionReply none none]

theorem requests_answer_reports_played :
    ∃ last, exec (playerStep rendererInfo) playerRunNew playedEvents =
        some last ∧
      Answers
        (getRun (surroundings (playerDevice last.player)) ""
          " PlaybackStatus" 3) 3
        (.formatted "(v)" (.property (.string "Playing"))) ∧
      ∃ values,
        ReturnsAll
          (getAllRun (surroundings (playerDevice last.player))
            (playerDevice last.player) "" 3 ⟨none, none⟩
            ⟨none, some "0:00:10"⟩) 3 values ∧
        ("Position", .int64 10000000) ∈ values := by
  obtain ⟨last, hrun⟩ : ∃ last, exec (playerStep rendererInfo) playerRunNew
      playedEvents = some last := ⟨_, rfl⟩
  have hlast := hrun
  obtain rfl := Option.some.inj hlast
  have hempty : strip "" = "" := by decide +kernel
  obtain ⟨hget, hgetAll⟩ := @requests_answer_reports _ _ _ hrun
    (surroundings (playerDevice _)) _ rfl rfl (by decide +kernel) "" 3
  refine ⟨_, hrun, ?_, ?_⟩
  · exact hget " PlaybackStatus" playerInterface (some (.string "Playing"))
      (by decide +kernel) (by decide +kernel) (.inr hempty)
  · obtain ⟨values, hvalues, hlisted⟩ := hgetAll ⟨none, none⟩
      ⟨none, some "0:00:10"⟩ (by decide +kernel) (fun _ => rfl)
    refine ⟨values, hvalues, ?_⟩
    exact (hlisted playerInterface "Position" (some (.int64 10000000))
      (by decide +kernel) (.inr hempty) _).mpr rfl

end DleynaRenderer.Task
