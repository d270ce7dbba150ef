import DleynaRenderer.Foundation.EventSystem
import DleynaRenderer.Player.LastChange

/-!
# Runs of a player

The properties are synchronised lazily, by the first request or rendering
control event.  The synchronisation reads the descriptions of two services, and
the main loop runs while it waits for each: other events, and further
synchronisations, happen in between.  `syncs` is the stack of the calls of
`prv_props_update` that have not returned, the innermost first.
-/

namespace DleynaRenderer.Player

open CString EventSystem

/-- A field that the event does not have is `gMaxUint`. -/
structure RcEvent where
  devVolume : Nat
  mute : Nat
  deriving DecidableEq, Repr

inductive SyncPhase where
  | av
  | rc
  deriving DecidableEq, Repr

/-- `trigger` is the event that waits for the call, `none` for a request. -/
structure SyncFrame where
  phase : SyncPhase
  rcProxy : Bool
  trigger : Option RcEvent
  deriving DecidableEq, Repr

structure PlayerRun where
  player : PlayerState
  syncs : List SyncFrame
  rcEvents : List RcEvent
  deriving DecidableEq

def playerRunNew : PlayerRun := ⟨playerNew, [], []⟩

inductive AvIntrospection where
  | lostDevice
  | failed
  | read (allowedSpeeds : List String) (bytePosition : Bool)
  deriving DecidableEq, Repr

inductive RcIntrospection where
  | lostDevice
  | failed
  | read (maxVolume : Option Nat)
  deriving DecidableEq, Repr

def insertText (key : String) (text : Option String) (props : Props) : Props :=
  match text with
  | none => props.erase key
  | some text => props.insert key (.string text)

def prvUpdateDeviceProps (info : DeviceInfo) (props : Props) : Props :=
  let props := (prvUpdatePropDlnaDeviceClasses info props).2
  [("DeviceType", info.deviceType), ("UDN", info.udn),
    ("FriendlyName", info.friendlyName), ("IconURL", info.iconUrl),
    ("Manufacturer", info.manufacturer),
    ("ManufacturerUrl", info.manufacturerUrl),
    ("ModelDescription", info.modelDescription), ("ModelName", info.modelName),
    ("ModelNumber", info.modelNumber), ("SerialNumber", info.serialNumber),
    ("PresentationURL", info.presentationUrl)].foldl
      (fun props text => insertText text.1 text.2 props) props

/-- The part of `prv_props_update` before the first description is read. -/
def beginUpdate (info : DeviceInfo) (player : PlayerState) : PlayerState :=
  let rootProps :=
    ["CanQuit", "CanRaise", "CanSetFullscreen", "HasTrackList"].foldl
      (fun props key => props.insert key (.boolean false)) player.rootProps
  { player with
    deviceProps := prvUpdateDeviceProps info player.deviceProps
    rootProps := insertText "Identity" info.friendlyName rootProps }

def prvGetAvServiceStatesValues (allowedSpeeds : List String)
    (bytePosition : Bool) (player : PlayerState) : PlayerState :=
  let player := { player with canGetBytePosition := bytePosition }
  match prvGetRatesValues (sortSpeeds allowedSpeeds) with
  | none => player
  | some rates =>
      { player with
        transportPlaySpeeds := some rates.upnpTpSpeeds
        mprisTransportPlaySpeeds := some rates.mprisTpSpeeds
        minRate := rates.minRate
        maxRate := rates.maxRate }

theorem prvGetAvServiceStatesValues_eq (allowedSpeeds : List String)
    (bytePosition : Bool) (player : PlayerState) :
    ∃ transport mpris minRate maxRate,
      prvGetAvServiceStatesValues allowedSpeeds bytePosition player =
        { player with
          canGetBytePosition := bytePosition
          transportPlaySpeeds := transport
          mprisTransportPlaySpeeds := mpris
          minRate := minRate
          maxRate := maxRate } := by
  unfold prvGetAvServiceStatesValues
  cases prvGetRatesValues (sortSpeeds allowedSpeeds) with
  | none => exact ⟨_, _, _, _, rfl⟩
  | some rates => exact ⟨_, _, _, _, rfl⟩

def prvGetRcServiceStatesValues (maxVolume : Option Nat)
    (player : PlayerState) : PlayerState :=
  { player with maxVolume := maxVolume.getD player.maxVolume }

/-- The part of `prv_props_update` after the descriptions have been read. -/
def finishUpdate (player : PlayerState) : PlayerState :=
  let update :=
    prvAddAllActions
      (prvAddPlayerSpeedProps player.minRate player.maxRate
        player.mprisTransportPlaySpeeds (.start player))
  prvEmitSignalPropertiesChanged
    { update with player := { update.player with synced := true } }

inductive SyncOutcome where
  | introspect (player : PlayerState) (frame : SyncFrame)
  | lostDevice
  | finish (player : PlayerState) (trigger : Option RcEvent)
  deriving DecidableEq

def nextIntrospection (rcProxy : Bool) (trigger : Option RcEvent)
    (player : PlayerState) : SyncOutcome :=
  if rcProxy then .introspect player ⟨.rc, rcProxy, trigger⟩
  else .finish player trigger

def startSync (info : DeviceInfo) (avProxy rcProxy : Bool)
    (trigger : Option RcEvent) (player : PlayerState) : SyncOutcome :=
  let player := beginUpdate info player
  if avProxy then .introspect player ⟨.av, rcProxy, trigger⟩
  else nextIntrospection rcProxy trigger player

def afterAvIntrospection (rcProxy : Bool) (trigger : Option RcEvent)
    (player : PlayerState) : AvIntrospection → SyncOutcome
  | .lostDevice => .lostDevice
  | .failed => nextIntrospection rcProxy trigger player
  | .read allowedSpeeds bytePosition =>
      nextIntrospection rcProxy trigger
        (prvGetAvServiceStatesValues allowedSpeeds bytePosition player)

def afterRcIntrospection (trigger : Option RcEvent) (player : PlayerState) :
    RcIntrospection → SyncOutcome
  | .lostDevice => .lostDevice
  | .failed => .finish player trigger
  | .read maxVolume =>
      .finish (prvGetRcServiceStatesValues maxVolume player) trigger

def SyncOutcome.player : SyncOutcome → Option PlayerState
  | .introspect player _ => some player
  | .lostDevice => none
  | .finish player _ => some player

@[simp] theorem player_nextIntrospection (rcProxy : Bool)
    (trigger : Option RcEvent) (player : PlayerState) :
    (nextIntrospection rcProxy trigger player).player = some player := by
  unfold nextIntrospection
  split <;> rfl

@[simp] theorem player_startSync (info : DeviceInfo) (avProxy rcProxy : Bool)
    (trigger : Option RcEvent) (player : PlayerState) :
    (startSync info avProxy rcProxy trigger player).player =
      some (beginUpdate info player) := by
  unfold startSync
  split
  · rfl
  · exact player_nextIntrospection rcProxy trigger _

/-! ## Rendering control events -/

def addVolume (event : RcEvent) (update : Update) : Update :=
  if event.devVolume ≠ gMaxUint then
    prvChangeProps "Volume"
      (.double (event.devVolume / update.player.maxVolume)) update
  else update

def addMute (event : RcEvent) (update : Update) : Update :=
  if event.mute ≠ gMaxUint then
    prvChangeProps "Mute" (.boolean (event.mute ≠ 0)) update
  else update

/-- The part of `prv_process_rc_last_change` that needs a synced device. -/
def prvProcessRcLastChange (event : RcEvent) (player : PlayerState) :
    PlayerState :=
  if player.maxVolume = 0 then player
  else
    prvEmitSignalPropertiesChanged (addMute event (addVolume event (.start player)))

def resume (trigger : Option RcEvent) (player : PlayerState) : PlayerState :=
  match trigger with
  | none => player
  | some event => prvProcessRcLastChange event player

theorem changesOnly_prvProcessRcLastChange (event : RcEvent)
    (player : PlayerState) :
    ChangesOnly ["Volume", "Mute"] player
      (prvProcessRcLastChange event player) := by
  have hvolume (update : Update) : ChangesOnly ["Volume", "Mute"] update.player
      (addVolume event update).player := by
    unfold addVolume
    split_ifs
    · exact .change (by simp) _ update
    · exact .refl _ _
  have hmute (update : Update) : ChangesOnly ["Volume", "Mute"] update.player
      (addMute event update).player := by
    unfold addMute
    split_ifs
    · exact .change (by simp) _ update
    · exact .refl _ _
  unfold prvProcessRcLastChange
  split_ifs
  · exact .refl _ _
  · exact ((hvolume (.start player)).trans (hmute _)).trans (.emit _ _)

theorem changesOnly_resume (trigger : Option RcEvent) (player : PlayerState) :
    ChangesOnly ["Volume", "Mute"] player (resume trigger player) := by
  cases trigger with
  | none => exact .refl _ _
  | some event => exact changesOnly_prvProcessRcLastChange event player

def rateToReset (key : String) (rate : ℚ) (player : PlayerState) : ℚ :=
  if player.prop key = some (.double rate) then 0 else rate

def speedsPublished (player : PlayerState) : Prop :=
  ∃ speeds, player.mprisTransportPlaySpeeds = some speeds ∧
    player.prop "TransportPlaySpeeds" = some (.doubles speeds)

instance (player : PlayerState) : Decidable (speedsPublished player) :=
  match h : player.mprisTransportPlaySpeeds with
  | none => isFalse (by rintro ⟨speeds, hsome, -⟩; simp [h] at hsome)
  | some speeds =>
      decidable_of_iff
        (player.prop "TransportPlaySpeeds" = some (.doubles speeds))
        (by simp [speedsPublished, h])

def resetSpeeds (update : Update) : Update :=
  let player := update.player
  prvAddPlayerSpeedProps (rateToReset "MinimumRate" player.minRate player)
    (rateToReset "MaximumRate" player.maxRate player)
    player.mprisTransportPlaySpeeds update

def resetRate (update : Update) : Update :=
  prvChangeProps "Rate" (.double (prvMapTransportSpeed "1"))
    { update with player := { update.player with rate := "1" } }

def prvResetTransportSpeedProps (player : PlayerState) : PlayerState :=
  let update := Update.start { player with dlnaTransportPlaySpeeds := none }
  let resetsSpeeds : Bool := ¬speedsPublished player
  let resetsRate : Bool := player.rate ≠ "1"
  let update := if resetsSpeeds then resetSpeeds update else update
  let update := if resetsRate then resetRate update else update
  if resetsSpeeds || resetsRate then prvEmitSignalPropertiesChanged update
  else update.player

theorem prvResetTransportSpeedProps_rule {motive : PlayerState → Prop}
    {player : PlayerState}
    (hstart : motive { player with dlnaTransportPlaySpeeds := none })
    (hspeeds : motive (resetSpeeds (.start
      { player with dlnaTransportPlaySpeeds := none })).player)
    (hrate : ∀ update : Update, motive update.player →
      motive (resetRate update).player)
    (hemit : ∀ update : Update, motive update.player →
      motive (prvEmitSignalPropertiesChanged update)) :
    motive (prvResetTransportSpeedProps player) := by
  have hcond (resets : Bool) {reset update : Update}
      (hreset : motive reset.player) (hkeep : motive update.player) :
      motive (if resets then reset else update).player := by
    cases resets with
    | false => exact hkeep
    | true => exact hreset
  have hfirst : motive (if (¬speedsPublished player : Bool) then resetSpeeds (.start
      { player with dlnaTransportPlaySpeeds := none }) else .start
      { player with dlnaTransportPlaySpeeds := none }).player :=
    hcond _ hspeeds hstart
  have hboth := hcond (player.rate ≠ "1" : Bool) (hrate _ hfirst) hfirst
  unfold prvResetTransportSpeedProps
  simp only
  split
  · exact hemit _ hboth
  · exact hboth

def publishPosition (relTime relCnt : Option String) (player : PlayerState) :
    PlayerState :=
  let update := Update.start player
  let update :=
    match relTime with
    | none => update
    | some time =>
        prvAddReltime (String.ofList (gStrstrip time.toList)) update
  let update :=
    match relCnt with
    | none => update
    | some count =>
        prvAddRelcount (String.ofList (gStrstrip count.toList)) update
  prvEmitSignalPropertiesChanged update

def removeProp (key : String) (player : PlayerState) : PlayerState :=
  { player with playerProps := player.playerProps.erase key }

/-- A reply without a result fails the request. -/
def prvGetPositionInfoCb (result : Option String) (player : PlayerState) :
    PlayerState :=
  if result = none then player else publishPosition result none player

def prvGetBytePositionInfoCb (result : Option String) (player : PlayerState) :
    PlayerState :=
  if result = none then player else publishPosition none result player

/-- The result is kept for the reply to the second query. -/
def prvGetAllBytePositionInfoCb (result : Option String)
    (player : PlayerState) : PlayerState :=
  if result = none then removeProp "BytePosition" player else player

def prvGetAllPositionInfoCb (relCnt result : Option String)
    (player : PlayerState) : PlayerState :=
  let player := if result = none then removeProp "Position" player else player
  if result = none ∧ relCnt = none then player
  else publishPosition result relCnt player

def positionKeys : List String := ["Position", "BytePosition"]

theorem changesOnly_publishPosition (relTime relCnt : Option String)
    (player : PlayerState) :
    ChangesOnly positionKeys player (publishPosition relTime relCnt player) := by
  have htime (time : String) (update : Update) :
      ChangesOnly positionKeys update.player
        (prvAddReltime time update).player :=
    .change (by decide) _ update
  have hcount (count : String) (update : Update) :
      ChangesOnly positionKeys update.player
        (prvAddRelcount count update).player :=
    .change (by decide) _ update
  refine ChangesOnly.trans ?_ (.emit _ _)
  cases relTime with
  | none =>
      cases relCnt with
      | none => exact .refl _ _
      | some count => exact hcount _ (.start player)
  | some time =>
      cases relCnt with
      | none => exact htime _ (.start player)
      | some count => exact (htime _ (.start player)).trans (hcount _ _)

theorem changesOnly_removeProp {key : String} (hkey : key ∈ positionKeys)
    (player : PlayerState) :
    ChangesOnly positionKeys player (removeProp key player) where
  fields := rfl
  props other hother := by
    have hne : other ≠ key := fun heq => hother (heq ▸ hkey)
    simp [removeProp, PlayerState.prop, hne]

theorem changesOnly_prvGetPositionInfoCb (result : Option String)
    (player : PlayerState) :
    ChangesOnly positionKeys player (prvGetPositionInfoCb result player) := by
  unfold prvGetPositionInfoCb
  split
  · exact .refl _ _
  · exact changesOnly_publishPosition _ _ _

theorem changesOnly_prvGetBytePositionInfoCb (result : Option String)
    (player : PlayerState) :
    ChangesOnly positionKeys player
      (prvGetBytePositionInfoCb result player) := by
  unfold prvGetBytePositionInfoCb
  split
  · exact .refl _ _
  · exact changesOnly_publishPosition _ _ _

theorem changesOnly_prvGetAllBytePositionInfoCb (result : Option String)
    (player : PlayerState) :
    ChangesOnly positionKeys player
      (prvGetAllBytePositionInfoCb result player) := by
  unfold prvGetAllBytePositionInfoCb
  split
  · exact changesOnly_removeProp (by decide) player
  · exact .refl _ _

theorem changesOnly_prvGetAllPositionInfoCb (relCnt result : Option String)
    (player : PlayerState) :
    ChangesOnly positionKeys player
      (prvGetAllPositionInfoCb relCnt result player) := by
  have hremove : ChangesOnly positionKeys player
      (removeProp "Position" player) :=
    changesOnly_removeProp (by decide) player
  unfold prvGetAllPositionInfoCb
  split_ifs
  · exact hremove
  · exact hremove.trans (changesOnly_publishPosition _ _ _)
  · exact .refl _ _
  · exact changesOnly_publishPosition _ _ _

/-! ## The system -/

/-- `avProxy` and `rcProxy` tell which services the chosen context has. -/
inductive PlayerEvent where
  | lastChange (event : LastChange)
  | rcLastChange (event : RcEvent)
  | sinkChange (sink : String)
  | request (avProxy rcProxy : Bool)
  | rcIdle (avProxy rcProxy : Bool)
  | avIntrospection (result : AvIntrospection)
  | rcIntrospection (result : RcIntrospection)
  | openUri
  | setRate (value : Variant)
  | positionReply (result : Option String)
  | bytePositionReply (result : Option String)
  | allBytePositionReply (result : Option String)
  | allPositionReply (relCnt result : Option String)
  deriving DecidableEq, Repr

/-- What `prv_props_update` does at the event, if it is called or continued. -/
def syncOutcome (info : DeviceInfo) (run : PlayerRun) :
    PlayerEvent → Option SyncOutcome
  | .request avProxy rcProxy =>
      if run.player.synced then none
      else some (startSync info avProxy rcProxy none run.player)
  | .rcIdle avProxy rcProxy =>
      match run.rcEvents with
      | [] => none
      | event :: _ =>
          if run.player.synced then none
          else some (startSync info avProxy rcProxy (some event) run.player)
  | .avIntrospection result =>
      match run.syncs with
      | ⟨.av, rcProxy, trigger⟩ :: _ =>
          some (afterAvIntrospection rcProxy trigger run.player result)
      | _ => none
  | .rcIntrospection result =>
      match run.syncs with
      | ⟨.rc, _, trigger⟩ :: _ =>
          some (afterRcIntrospection trigger run.player result)
      | _ => none
  | _ => none

theorem syncOutcome_cases {motive : PlayerState → Prop} {info : DeviceInfo}
    {run : PlayerRun} {event : PlayerEvent} {outcome : SyncOutcome}
    {player : PlayerState} (hsame : motive run.player)
    (hbegin : motive (beginUpdate info run.player))
    (hav : ∀ allowedSpeeds bytePosition,
      event = .avIntrospection (.read allowedSpeeds bytePosition) → motive
        (prvGetAvServiceStatesValues allowedSpeeds bytePosition run.player))
    (hrc : ∀ maxVolume, motive
      (prvGetRcServiceStatesValues maxVolume run.player))
    (houtcome : syncOutcome info run event = some outcome)
    (hplayer : outcome.player = some player) : motive player := by
  unfold syncOutcome at houtcome
  split at houtcome
  case h_1 avProxy rcProxy =>
    split_ifs at houtcome
    obtain rfl := Option.some.inj houtcome
    obtain rfl := by simpa using hplayer
    exact hbegin
  case h_2 avProxy rcProxy =>
    split at houtcome
    · contradiction
    · split_ifs at houtcome
      obtain rfl := Option.some.inj houtcome
      obtain rfl := by simpa using hplayer
      exact hbegin
  case h_3 result =>
    split at houtcome
    · obtain rfl := Option.some.inj houtcome
      cases result with
      | lostDevice => simp [afterAvIntrospection, SyncOutcome.player] at hplayer
      | failed =>
          obtain rfl := by simpa [afterAvIntrospection] using hplayer
          exact hsame
      | read allowedSpeeds bytePosition =>
          obtain rfl := by simpa [afterAvIntrospection] using hplayer
          exact hav allowedSpeeds bytePosition rfl
    · contradiction
  case h_4 result =>
    split at houtcome
    · obtain rfl := Option.some.inj houtcome
      cases result with
      | lostDevice => simp [afterRcIntrospection, SyncOutcome.player] at hplayer
      | failed =>
          obtain rfl : run.player = player := Option.some.inj hplayer
          exact hsame
      | read maxVolume =>
          obtain rfl : prvGetRcServiceStatesValues maxVolume run.player =
            player := Option.some.inj hplayer
          exact hrc maxVolume
    · contradiction
  case h_5 => contradiction

def takeEvent (run : PlayerRun) : PlayerEvent → PlayerRun
  | .rcIdle _ _ => { run with rcEvents := run.rcEvents.tail }
  | .avIntrospection _ => { run with syncs := run.syncs.tail }
  | .rcIntrospection _ => { run with syncs := run.syncs.tail }
  | _ => run

def proceed (run : PlayerRun) : SyncOutcome → PlayerRun
  | .introspect player frame =>
      { run with player := player, syncs := frame :: run.syncs }
  | .lostDevice => run
  | .finish player trigger =>
      { run with player := resume trigger (finishUpdate player) }

theorem takeEvent_player (run : PlayerRun) (event : PlayerEvent) :
    (takeEvent run event).player = run.player := by
  cases event <;> rfl

def plainEffect (info : DeviceInfo) (run : PlayerRun) :
    PlayerEvent → Option PlayerState
  | .lastChange event => some (prvLastChangeCb info event run.player)
  | .rcLastChange _ => some run.player
  | .sinkChange sink => some (prvProcessProtocolInfo sink run.player)
  | .request _ _ => some run.player
  | .rcIdle _ _ =>
      run.rcEvents.head?.map fun event => prvProcessRcLastChange event run.player
  | .avIntrospection _ => none
  | .rcIntrospection _ => none
  | .openUri => some (prvResetTransportSpeedProps run.player)
  | .setRate value =>
      match prvSetRate run.player value with
      | .error _ => some run.player
      | .outOfRange => none
      | .ok player => some player
  | .positionReply result => some (prvGetPositionInfoCb result run.player)
  | .bytePositionReply result =>
      some (prvGetBytePositionInfoCb result run.player)
  | .allBytePositionReply result =>
      some (prvGetAllBytePositionInfoCb result run.player)
  | .allPositionReply relCnt result =>
      some (prvGetAllPositionInfoCb relCnt result run.player)

def queueEvent (run : PlayerRun) : PlayerEvent → PlayerRun
  | .rcLastChange event => { run with rcEvents := run.rcEvents ++ [event] }
  | _ => run

/-- There is no next state when the rate is read outside its table. -/
def playerStep (info : DeviceInfo) (run : PlayerRun) (event : PlayerEvent) :
    Option PlayerRun :=
  match syncOutcome info run event with
  | some outcome => some (proceed (takeEvent run event) outcome)
  | none =>
      (plainEffect info run event).map fun player =>
        { queueEvent (takeEvent run event) event with player := player }

/-- What the parts of a synchronisation and the other events keep, a step keeps. -/
theorem playerStep_invariant {motive : PlayerState → Prop} {info : DeviceInfo}
    {run next : PlayerRun} {event : PlayerEvent} (hsame : motive run.player)
    (hbegin : motive (beginUpdate info run.player))
    (hav : ∀ allowedSpeeds bytePosition,
      event = .avIntrospection (.read allowedSpeeds bytePosition) → motive
        (prvGetAvServiceStatesValues allowedSpeeds bytePosition run.player))
    (hrc : ∀ maxVolume, motive (prvGetRcServiceStatesValues maxVolume run.player))
    (hfinish : ∀ player trigger,
      syncOutcome info run event = some (.finish player trigger) →
      motive player → motive (resume trigger (finishUpdate player)))
    (hplain : ∀ player, plainEffect info run event = some player → motive player)
    (hstep : playerStep info run event = some next) : motive next.player := by
  unfold playerStep at hstep
  cases houtcome : syncOutcome info run event with
  | none =>
      simp only [houtcome] at hstep
      obtain ⟨player, heffect, rfl⟩ := Option.map_eq_some_iff.mp hstep
      exact hplain player heffect
  | some outcome =>
      simp only [houtcome, Option.some.injEq] at hstep
      subst hstep
      have hplayer : ∀ player, outcome.player = some player → motive player :=
        fun player => syncOutcome_cases hsame hbegin hav hrc houtcome
      cases outcome with
      | introspect player frame => exact hplayer player rfl
      | lostDevice =>
          rw [proceed, takeEvent_player]
          exact hsame
      | finish player trigger =>
          exact hfinish player trigger houtcome (hplayer player rfl)

theorem plainEffect_setRate {info : DeviceInfo} {run : PlayerRun}
    {value : Variant} {player : PlayerState}
    (heffect : plainEffect info run (.setRate value) = some player) :
    player = run.player ∨ prvSetRate run.player value = .ok player := by
  simp only [plainEffect] at heffect
  split at heffect
  case h_1 => exact .inl (Option.some.inj heffect).symm
  case h_2 => contradiction
  case h_3 next hset =>
    obtain rfl := Option.some.inj heffect
    exact .inr hset

def replyKeys : List String := ["Volume", "Mute"] ++ positionKeys

theorem plainEffect_cases {info : DeviceInfo} {run : PlayerRun}
    {event : PlayerEvent} {player : PlayerState}
    (heffect : plainEffect info run event = some player) :
    (∃ change, event = .lastChange change ∧
        player = prvLastChangeCb info change run.player) ∨
      (∃ sink, event = .sinkChange sink ∧
        player = prvProcessProtocolInfo sink run.player) ∨
      (event = .openUri ∧ player = prvResetTransportSpeedProps run.player) ∨
      (∃ value, event = .setRate value ∧
        prvSetRate run.player value = .ok player) ∨
      ChangesOnly replyKeys run.player player := by
  have hvolume : ["Volume", "Mute"] ⊆ replyKeys := by decide
  have hposition : positionKeys ⊆ replyKeys := by decide
  cases event with
  | lastChange change =>
      exact .inl ⟨change, rfl, (Option.some.inj heffect).symm⟩
  | sinkChange sink =>
      exact .inr (.inl ⟨sink, rfl, (Option.some.inj heffect).symm⟩)
  | openUri =>
      exact .inr (.inr (.inl ⟨rfl, (Option.some.inj heffect).symm⟩))
  | avIntrospection | rcIntrospection => contradiction
  | rcLastChange | request =>
      obtain rfl := Option.some.inj heffect
      exact .inr (.inr (.inr (.inr (.refl _ _))))
  | setRate value =>
      rcases plainEffect_setRate heffect with rfl | hset
      · exact .inr (.inr (.inr (.inr (.refl _ _))))
      · exact .inr (.inr (.inr (.inl ⟨value, rfl, hset⟩)))
  | rcIdle =>
      obtain ⟨event, -, rfl⟩ := Option.map_eq_some_iff.mp heffect
      exact .inr (.inr (.inr (.inr
        ((changesOnly_prvProcessRcLastChange event _).mono hvolume))))
  | positionReply result =>
      obtain rfl := Option.some.inj heffect
      exact .inr (.inr (.inr (.inr
        ((changesOnly_prvGetPositionInfoCb result _).mono hposition))))
  | bytePositionReply result =>
      obtain rfl := Option.some.inj heffect
      exact .inr (.inr (.inr (.inr
        ((changesOnly_prvGetBytePositionInfoCb result _).mono hposition))))
  | allBytePositionReply result =>
      obtain rfl := Option.some.inj heffect
      exact .inr (.inr (.inr (.inr
        ((changesOnly_prvGetAllBytePositionInfoCb result _).mono hposition))))
  | allPositionReply relCnt result =>
      obtain rfl := Option.some.inj heffect
      exact .inr (.inr (.inr (.inr
        ((changesOnly_prvGetAllPositionInfoCb relCnt result _).mono hposition))))

end DleynaRenderer.Player
