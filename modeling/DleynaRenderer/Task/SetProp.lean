import DleynaRenderer.Player.SelectRate
import DleynaRenderer.Task.GetProps

/-!
# Setting a property

The checks of a request are made in three functions, and an error is recorded in
the task while control goes on.  A mute state and a volume are read whatever the
type of the value is, and a rate is sent to a renderer that plays even when it
has been refused.
-/

namespace DleynaRenderer.Task

open DleynaRenderer.Player EventSystem

/-- A value of another type is read as zero, with a warning. -/
def gVariantGetDouble : Variant → ℚ
  | .double r => r
  | _ => 0

/-- A value of another type is read as false, with a warning. -/
def gVariantGetBoolean : Variant → Bool
  | .boolean b => b
  | _ => false

/-- The cast of a double to `guint`, which is undefined out of range. -/
def toGuint (r : ℚ) : Option Nat :=
  if -1 < r ∧ r < 2 ^ 32 then some ⌊r⌋.toNat else none

inductive ControlAction where
  | setVolume (desiredVolume : Option Nat)
  | setMute (desiredMute : Bool)
  | play (speed : String)
  deriving DecidableEq, Repr

def prvSetVolume (player : PlayerState) (params : Variant) : ControlAction :=
  .setVolume (toGuint (gVariantGetDouble params * player.maxVolume))

def prvSetMute (params : Variant) : ControlAction :=
  .setMute (gVariantGetBoolean params)

def rcAction (player : PlayerState) (propName : String) (params : Variant) :
    ControlAction :=
  if propName = "Mute" then prvSetMute params else prvSetVolume player params

def send (proxy : Bool) (action : ControlAction) : Option ControlAction :=
  if proxy then some action else none

theorem IsPlayerInterface.managed {interfaceName : String}
    (h : IsPlayerInterface interfaceName) :
    ¬(interfaceName ≠ playerInterface ∧ interfaceName ≠ "") := by
  rw [← not_or]
  exact not_not.mpr h

structure SetPropEffect where
  task : DlrAsyncTask
  player : PlayerState
  action : Option ControlAction

def DlrAsyncTask.recordError (error : Option GError) (task : DlrAsyncTask) :
    DlrAsyncTask :=
  { task with error := error.or task.error }

/-- The player is set to the new rate first, which playing then sends. -/
def setRateEffect (device : DeviceView) (task : DlrAsyncTask)
    (player : PlayerState) (error : Option GError) : SetPropEffect :=
  let task := task.recordError error
  if isPlaying player then
    ⟨dlrDevicePlay device task, player,
      send device.avProxy (.play player.rate)⟩
  else ⟨scheduleComplete task, player, none⟩

/--
`dlr_device_set_prop` with the player and the action that is sent; `none` where
a string is read outside the table of the speeds.
-/
def setPropEffect (device : DeviceView) (params : Variant)
    (task : DlrAsyncTask) : Option SetPropEffect :=
  if task.task.interfaceName ≠ playerInterface ∧
      task.task.interfaceName ≠ "" then
    some ⟨scheduleComplete (task.fail .unknownInterface
      s!"Interface {task.task.interfaceName} not managed for property setting"),
      device.player, none⟩
  else if task.task.propName = "Rate" then
    match prvSetRate device.player params with
    | .error error =>
        some (setRateEffect device task device.player (some error))
    | .outOfRange => none
    | .ok player => some (setRateEffect device task player none)
  else if task.task.propName ≠ "Volume" ∧ task.task.propName ≠ "Mute" then
    some ⟨scheduleComplete (task.fail .unknownProperty
      s!"Property {task.task.propName} not managed for setting"),
      device.player, none⟩
  else
    some ⟨connectAndBegin device.rcProxy .simpleCall task, device.player,
      send device.rcProxy (rcAction device.player task.task.propName params)⟩

theorem isPlaying_prvSetRate {player next : PlayerState} {params : Variant}
    (hok : prvSetRate player params = .ok next) :
    isPlaying next = isPlaying player := by
  have hother : "PlaybackStatus" ≠ "Rate" := by decide
  rcases prvSetRate_cases hok with rfl | ⟨published, rate, rfl⟩
  · rfl
  · have hprop := prop_prvChangeProps "Rate" "PlaybackStatus" (.double published)
      (.start { player with rate := rate })
    rw [if_neg hother] at hprop
    exact congrArg (fun status => decide (status = some (.string "Playing"))) hprop

/-- The task is treated as it is where the effect on the player is left out. -/
theorem setPropEffect_task {device : DeviceView} {params : Variant}
    {task : DlrAsyncTask} {effect : SetPropEffect}
    (hparams : task.task.params = some params)
    (heffect : setPropEffect device params task = some effect) :
    effect.task = dlrDeviceSetProp device task := by
  unfold setPropEffect at heffect
  unfold dlrDeviceSetProp
  split_ifs at heffect with hinterface hrate hprop
  · obtain rfl := Option.some.inj heffect
    rw [if_pos hinterface]
  · rw [if_neg hinterface, if_pos hrate, setRateError, hparams, Option.map_some]
    cases hset : prvSetRate device.player params with
    | error error =>
        simp only [hset] at heffect
        obtain rfl := Option.some.inj heffect
        unfold setRateEffect
        split <;> rfl
    | outOfRange => simp [hset] at heffect
    | ok player =>
        simp only [hset] at heffect
        obtain rfl := Option.some.inj heffect
        unfold setRateEffect
        rw [isPlaying_prvSetRate hset]
        split <;> rfl
  · obtain rfl := Option.some.inj heffect
    rw [if_neg hinterface, if_neg hrate, if_pos hprop]
  · obtain rfl := Option.some.inj heffect
    rw [if_neg hinterface, if_neg hrate, if_neg hprop]

theorem setPropEffect_rate {device : DeviceView} (params : Variant)
    {task : DlrAsyncTask}
    (hinterface : IsPlayerInterface task.task.interfaceName)
    (hprop : task.task.propName = "Rate") (info : DeviceInfo) {run : PlayerRun}
    (hrun : run.player = device.player) :
    (setPropEffect device params task).map SetPropEffect.player =
      plainEffect info run (.setRate params) := by
  have hplayer (player : PlayerState) (error : Option GError) :
      (setRateEffect device task player error).player = player := by
    unfold setRateEffect
    split <;> rfl
  rw [setPropEffect, if_neg hinterface.managed, if_pos hprop]
  simp only [plainEffect, hrun]
  cases prvSetRate device.player params with
  | error error => exact congrArg some (hplayer _ _)
  | outOfRange => rfl
  | ok player => exact congrArg some (hplayer _ _)

def setPropStarted (interfaceName propName : String) (params : Variant)
    (invocation : Nat) : DlrAsyncTask :=
  { queuedTask { dlrTaskSetPropNew "" "" params invocation with
      interfaceName := interfaceName
      propName := propName } with
    cancellable := some false
    stage := .running }

theorem process_setProp {around : Surroundings} {device : DeviceView}
    (hdevice : around.device = some device) (interfaceName propName : String)
    (params : Variant) (invocation : Nat) :
    taskStep (queuedTask
        (dlrTaskSetPropNew interfaceName propName params invocation))
      (.process around) =
      some (dlrDeviceSetProp device (setPropStarted (strip interfaceName)
        (strip propName) params invocation)) :=
  prvProcessTask_device hdevice rfl setProp_not_manager

section Answers

variable (interfaceName propName : String) (params : Variant) (invocation : Nat)

end Answers

/-! ## Rejection -/

section Verdicts

variable {device : DeviceView} {interfaceName propName : String}
  {params : Variant} {invocation : Nat}

end Verdicts

/-! ## The exact condition -/

section Cases

variable {device : DeviceView} {interfaceName propName : String}
  {params : Variant} {invocation : Nat}

theorem setPropEffect_of_managed (device : DeviceView) (params : Variant)
    (invocation : Nat) (hinterface : IsPlayerInterface interfaceName)
    (hrate : propName ≠ "Rate") :
    setPropEffect device params
        (setPropStarted interfaceName propName params invocation) =
      if propName ≠ "Volume" ∧ propName ≠ "Mute" then
        some ⟨scheduleComplete ((setPropStarted interfaceName propName params
          invocation).recordError (some ⟨.unknownProperty,
            s!"Property {propName} not managed for setting"⟩)),
          device.player, none⟩
      else some ⟨connectAndBegin device.rcProxy .simpleCall
          (setPropStarted interfaceName propName params invocation),
        device.player, send device.rcProxy
          (rcAction device.player propName params)⟩ := by
  exact (if_neg hinterface.managed).trans (if_neg hrate)

end Cases

end DleynaRenderer.Task
