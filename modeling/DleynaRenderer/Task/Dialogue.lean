import DleynaRenderer.Foundation.Script
import DleynaRenderer.Task.Actions

/-!
# What a call is for

The dialogue of a call is what it asks the renderer and what it makes of the
replies, as one script.  An action that fails ends it with an error; the
position queries of `GetAll` are allowed to fail.
-/

namespace DleynaRenderer.Task

open DleynaRenderer.Player CString

abbrev Heard := ActionReply × PlayerState

abbrev Outcome := Except GError (Option TaskResult)

abbrev Dialogue := Script UpnpAction Heard Outcome

def operationFailed (message : String) : Outcome :=
  .error ⟨.operationFailed, "Operation failed: " ++ message⟩

namespace Dialogue

def confirmed : Dialogue := .done (.ok none)

def require (action : UpnpAction) (rest : Dialogue) : Dialogue :=
  .ask action fun heard =>
    match heard.1.failure with
    | none => rest
    | some message => .done (operationFailed message)

def query (action : String) (rest : String → PlayerState → Dialogue) :
    Dialogue :=
  .ask (simpleAction action) fun heard =>
    match heard.1.failure, heard.1.result with
    | none, some result => rest result heard.2
    | failure, _ => .done (.error ⟨.operationFailed,
        action ++ " operation failed: " ++ failure.getD "Invalid result"⟩)

def propOutcome (player : PlayerState) (interfaceName propName : String) :
    Outcome :=
  match lookUpProp player interfaceName propName with
  | .ok (some value) => .ok (some (.property value))
  | .ok none => .error ⟨.unknownProperty, "Property not defined for object"⟩
  | .error error => .error error

def propsOutcome (player : PlayerState) (interfaceName : String) : Outcome :=
  match lookUpProps player interfaceName with
  | .ok values => .ok (some (.properties values))
  | .error error => .error error

def getProp (device : DeviceView) (interfaceName propName : String) :
    Dialogue :=
  if IsPlayerInterface interfaceName ∧ propName = "Position" then
    query "GetPositionInfo" fun result player =>
      .done (propOutcome (Player.prvGetPositionInfoCb (some result) player)
        interfaceName propName)
  else if IsPlayerInterface interfaceName ∧ propName = "BytePosition" then
    query "X_DLNA_GetBytePositionInfo" fun result player =>
      .done (propOutcome (Player.prvGetBytePositionInfoCb (some result) player)
        interfaceName propName)
  else .done (propOutcome device.player interfaceName propName)

def getAllProps (device : DeviceView) (interfaceName : String) : Dialogue :=
  let position (relCnt : Option String) : Dialogue :=
    .ask (simpleAction "GetPositionInfo") fun heard =>
      .done (propsOutcome
        (Player.prvGetAllPositionInfoCb relCnt heard.1.result heard.2)
        interfaceName)
  if IsPlayerInterface interfaceName then
    if device.player.canGetBytePosition then
      .ask (simpleAction "X_DLNA_GetBytePositionInfo") fun heard =>
        position heard.1.result
    else position none
  else .done (propsOutcome device.player interfaceName)

def settled (error : Option GError) : Outcome :=
  match error with
  | none => .ok none
  | some error => .error error

/-- A rate that is refused is answered with the reason, after playing. -/
def setRate (device : DeviceView) (params : Variant) : Dialogue :=
  let error := setRateError device.player (some params)
  if isPlaying device.player then
    .ask (playAction (rateSent device.player (some params))) fun heard =>
      match heard.1.failure with
      | none => .done (settled error)
      | some message => .done (operationFailed message)
  else .done (settled error)

def setProp (device : DeviceView) (interfaceName propName : String)
    (params : Variant) : Dialogue :=
  if interfaceName ≠ playerInterface ∧ interfaceName ≠ "" then
    .done (.error ⟨.unknownInterface,
      s!"Interface {interfaceName} not managed for property setting"⟩)
  else if propName = "Rate" then setRate device params
  else if propName ≠ "Volume" ∧ propName ≠ "Mute" then
    .done (.error ⟨.unknownProperty,
      s!"Property {propName} not managed for setting"⟩)
  else require (controlAction (rcAction device.player propName params)) confirmed

def seekTo (unit target : String) : Dialogue :=
  require (seekAction ⟨unit, target⟩) confirmed

/-- A URI is opened at normal speed, whatever the speed was. -/
def openUri (data : DlrTaskOpenUri) : Dialogue :=
  require (openUriAction data)
    (require (playAction (.string "1")) confirmed)

def of (device : DeviceView) : Call → Dialogue
  | .play => require (playAction (.string device.player.rate)) confirmed
  | .pause => require (simpleAction "Pause") confirmed
  | .playPause =>
      if isPlaying device.player then
        require (simpleAction "Pause") confirmed
      else require (playAction (.string device.player.rate)) confirmed
  | .stop => require (simpleAction "Stop") confirmed
  | .next => require (simpleAction "Next") confirmed
  | .previous => require (simpleAction "Previous") confirmed
  | .openUri uri => openUri (openUriData uri)
  | .openUriEx uri metadata => openUri (setUriData uri metadata)
  | .openNextUri uri metadata =>
      require (openUriAction (openNextUriData uri metadata)) confirmed
  | .setUri uri metadata =>
      require (openUriAction (setUriData uri metadata)) confirmed
  | .seek offset =>
      query "GetPositionInfo" fun relTime _ =>
        seekTo "REL_TIME" (prvInt64ToDuration (Int.bmod
          (offset.toInt + prvDurationToInt64 (strip relTime)) (2 ^ 64)))
  | .byteSeek offset =>
      query "X_DLNA_GetBytePositionInfo" fun relByte _ =>
        seekTo "X_DLNA_REL_BYTE" (toString (((offset.toInt % 2 ^ 64).toNat +
          strtoull (strip relByte).toList) % 2 ^ 64))
  | .setPosition position =>
      seekTo "REL_TIME" (prvInt64ToDuration position.toInt)
  | .setBytePosition position =>
      seekTo "X_DLNA_REL_BYTE" (toString (position.toInt % 2 ^ 64).toNat)
  | .gotoTrack track => seekTo "TRACK_NR" (toString track.toNat)
  | .setProp interfaceName propName params =>
      setProp device (strip interfaceName) (strip propName) params
  | .getProp interfaceName propName =>
      getProp device (strip interfaceName) (strip propName)
  | .getAllProps interfaceName => getAllProps device (strip interfaceName)

def asksPosition (interfaceName propName : String) : Bool :=
  IsPlayerInterface interfaceName ∧
    (propName = "Position" ∨ propName = "BytePosition")

def readsStored : Call → Bool
  | .getProp interfaceName propName =>
      !asksPosition (strip interfaceName) (strip propName)
  | .getAllProps _ => true
  | _ => false

def waitsForSync (device : DeviceView) (call : Call) : Bool :=
  readsStored call && !device.player.synced

def cannotLocateDevice : Outcome :=
  .error ⟨.objectNotFound, "Cannot locate a device for the specified object"⟩

def opening (call : Call) (around : Surroundings) : Option Dialogue :=
  match around.device with
  | none => some (.done cannotLocateDevice)
  | some device =>
      if waitsForSync device call then none else some (of device call)

def resuming (call : Call) : Option DeviceView → Dialogue
  | none => .done (.error ⟨.operationFailed, "Lost Device"⟩)
  | some device => of device call

def law (call : Call) (script : Option Dialogue) (event : TaskEvent) :
    Option Dialogue :=
  match script, event with
  | none, .process around => opening call around
  | none, .propsUpdated device => some (resuming call device)
  | script, _ => script

end Dialogue

def answerTo (call : Call) (invocation : Nat) : Outcome → Answer
  | .ok result => { call.task invocation with result := result }.success
  | .error error => .error error

end DleynaRenderer.Task
