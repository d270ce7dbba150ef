import DleynaRenderer.Foundation.EventSystem
import DleynaRenderer.Task.Dialogue
import DleynaRenderer.Task.Replies

/-!
# Conversations follow their dialogues

In every order of replies, cancellations and losses a task asks its renderer no
more than the dialogue of its call, in the same order.  It is answered with
what the dialogue comes to when all of it has been said, unless it was cancelled
or deleted before.
-/

namespace DleynaRenderer.Task

open DleynaRenderer.Player EventSystem

def DlrAsyncTask.outcome (task : DlrAsyncTask) : Outcome :=
  match task.error with
  | some error => .error error
  | none => .ok task.task.result

def acknowledged (error : Option GError) (heard : Heard) : Outcome :=
  match heard.1.failure with
  | none => Dialogue.settled error
  | some message => operationFailed message

def queryError (action : String) (reply : ActionReply) : Outcome :=
  .error ⟨.operationFailed,
    action ++ " operation failed: " ++ reply.failure.getD "Invalid result"⟩

def continuation (task : DlrTask) (data : TaskData) (relCnt : Option String)
    (error : Option GError) : ActionCallback → Heard → Dialogue
  | .simpleCall, heard => .done (acknowledged error heard)
  | .openUri, heard =>
      match heard.1.failure with
      | some message => .done (operationFailed message)
      | none =>
          if task.type = .openUri then
            .ask (playAction (.string "1")) fun heard =>
              .done (acknowledged none heard)
          else Dialogue.confirmed
  | .getPositionInfo, heard =>
      .done (if heard.1.succeeds then
        Dialogue.propOutcome
          (Player.prvGetPositionInfoCb heard.1.result heard.2)
          task.interfaceName task.propName
      else queryError "GetPositionInfo" heard.1)
  | .getBytePositionInfo, heard =>
      .done (if heard.1.succeeds then
        Dialogue.propOutcome
          (Player.prvGetBytePositionInfoCb heard.1.result heard.2)
          task.interfaceName task.propName
      else queryError "X_DLNA_GetBytePositionInfo" heard.1)
  | .getAllPositionInfo, heard =>
      .done (Dialogue.propsOutcome
        (Player.prvGetAllPositionInfoCb relCnt heard.1.result heard.2)
        task.interfaceName)
  | .getAllBytePositionInfo, heard =>
      .ask (simpleAction "GetPositionInfo") fun next =>
        .done (Dialogue.propsOutcome
          (Player.prvGetAllPositionInfoCb heard.1.result next.1.result next.2)
          task.interfaceName)
  | .completeSeekGetPosition, heard =>
      match heard.1.failure, heard.1.result with
      | none, some result =>
          .ask (seekAction
              (seekSent task.type (Seek.addPosition task.type result data.seek)))
            fun heard => .done (acknowledged none heard)
      | _, _ => .done (queryError (positionAction task.type) heard.1)

theorem require_confirmed (action : UpnpAction) :
    Dialogue.require action Dialogue.confirmed =
      .ask action fun heard => .done (acknowledged none heard) := by
  unfold Dialogue.require
  congr 1
  funext heard
  unfold acknowledged
  cases heard.1.failure <;> rfl

theorem outcome_of_prvGetProp {player : PlayerState} {task : DlrAsyncTask}
    (herror : task.error = none) :
    (prvGetProp player task).outcome =
      Dialogue.propOutcome player task.task.interfaceName
        task.task.propName := by
  unfold prvGetProp Dialogue.propOutcome
  cases lookUpProp player task.task.interfaceName task.task.propName with
  | ok found =>
      cases found with
      | some value => simp [DlrAsyncTask.outcome, herror]
      | none => simp [DlrAsyncTask.outcome, DlrAsyncTask.fail, herror]
  | error error => rfl

theorem outcome_of_prvGetProps {player : PlayerState} {task : DlrAsyncTask}
    (herror : task.error = none) :
    (prvGetProps player task).outcome =
      Dialogue.propsOutcome player task.task.interfaceName := by
  rw [prvGetProps_eq]
  unfold Dialogue.propsOutcome
  cases lookUpProps player task.task.interfaceName with
  | ok values => simp [DlrAsyncTask.outcome, herror]
  | error error => rfl

theorem outcome_callBack (task : DlrAsyncTask) {callback : ActionCallback}
    {heard : Heard} {data : TaskData} {outcome : Outcome}
    (hresult : task.task.result = none)
    (herror : callback ≠ .simpleCall → task.error = none)
    (hdone : continuation task.task data task.relCnt task.error callback heard =
      .done outcome) :
    (callBack heard.1 heard.2 callback task).outcome = outcome := by
  obtain ⟨⟨failure, result⟩, player⟩ := heard
  have hfinish (task : DlrAsyncTask) : (finish task).outcome = task.outcome :=
    rfl
  cases callback with
  | simpleCall =>
      obtain rfl := Script.done.inj hdone
      simp only [callBack, prvSimpleCallCb, acknowledged]
      cases failure with
      | none =>
          rw [hfinish, DlrAsyncTask.outcome, hresult]
          cases task.error <;> rfl
      | some message => rfl
  | openUri =>
      have hnone := herror (by simp)
      simp only [continuation] at hdone
      simp only [callBack, prvOpenUriCb]
      cases failure with
      | none =>
          simp only at hdone
          split_ifs at hdone with htype
          obtain rfl := Script.done.inj hdone
          simp only [if_neg htype]
          rw [hfinish, DlrAsyncTask.outcome, hnone, hresult]
      | some message =>
          obtain rfl := Script.done.inj hdone
          rfl
  | getPositionInfo =>
      have hnone := herror (by simp)
      obtain rfl := Script.done.inj hdone
      simp only [callBack, prvGetPositionInfoCb]
      split_ifs
      · rw [hfinish, outcome_of_prvGetProp hnone]
      · rfl
  | getBytePositionInfo =>
      have hnone := herror (by simp)
      obtain rfl := Script.done.inj hdone
      simp only [callBack, prvGetBytePositionInfoCb]
      split_ifs
      · rw [hfinish, outcome_of_prvGetProp hnone]
      · rfl
  | getAllPositionInfo =>
      have hnone := herror (by simp)
      obtain rfl := Script.done.inj hdone
      simp only [callBack, prvGetAllPositionInfoCb]
      rw [hfinish, outcome_of_prvGetProps hnone]
  | getAllBytePositionInfo => cases hdone
  | completeSeekGetPosition =>
      have hnone := herror (by simp)
      simp only [continuation] at hdone
      simp only [callBack, prvCompleteSeekGetPosition]
      cases failure with
      | none =>
          cases result with
          | none =>
              obtain rfl := Script.done.inj hdone
              rfl
          | some result => cases hdone
      | some message =>
          obtain rfl := Script.done.inj hdone
          rfl

/-! ## The invariant -/

def diedError : GError := ⟨.died, "Unable to complete command."⟩

/--
Where a conversation stands.  `lossy` allows it to be cut short, by a lost
proxy or a cancellation.
-/
inductive Talks (lossy : Prop) (script : Option Dialogue) (c : Conversation) :
    Prop where
  | silent (hscript : script = none) (hsent : c.sent = []) (hheard : c.heard = [])
      (haction : c.task.action = none)
  | waiting {dialogue : Dialogue} {error : Option GError}
      {callback : ActionCallback} (hscript : script = some dialogue)
      (haction : c.task.action = some callback) (hproxy : c.task.proxy = true)
      (hwaits : dialogue.Waits c.heard c.sent
        (continuation c.task.task c.data c.task.relCnt error callback))
      (hlive : c.task.task.invocation ≠ none →
        error = c.task.error ∧ (callback ≠ .simpleCall → error = none) ∧
          c.task.task.result = none)
  | ended {dialogue : Dialogue} {outcome : Outcome}
      (hscript : script = some dialogue) (haction : c.task.action = none)
      (hends : dialogue.Ends c.heard c.sent outcome)
      (hlive : c.task.task.invocation ≠ none →
        outcome = c.task.outcome ∧ c.task.idleSources ≠ 0)
  | cut {dialogue : Dialogue} (hlossy : lossy) (hscript : script = some dialogue)
      (haction : c.task.action = none)
      (hasked : c.sent <+: dialogue.asked c.heard)

inductive Justified (lossy : Prop) (call : Call) (invocation : Nat)
    (script : Option Dialogue) (c : Conversation) : Answer → Prop where
  | cancelled (hlossy : lossy) :
      Justified lossy call invocation script c (.error cancelledError)
  | died (hlossy : lossy) :
      Justified lossy call invocation script c (.error diedError)
  | outcome {dialogue : Dialogue} {outcome : Outcome}
      (hscript : script = some dialogue)
      (hends : dialogue.Ends c.heard c.sent outcome)
      (haction : c.task.action = none)
      (hstage : c.task.stage = .finished ∨ c.task.stage = .deleted) :
      Justified lossy call invocation script c (answerTo call invocation outcome)

structure Pristine (task : DlrAsyncTask) : Prop where
  error : task.error = none
  result : task.task.result = none
  relCnt : task.relCnt = none
  idleSources : task.idleSources = 0
  handler : task.handler = none
  proxy : task.proxy = false

def IsTaskOf (call : Call) (invocation : Nat) (task : DlrTask) : Prop :=
  { task with invocation := some invocation, result := none } =
    call.task invocation

theorem IsTaskOf.type_eq {call : Call} {invocation : Nat} {task : DlrTask}
    (h : IsTaskOf call invocation task) :
    task.type = (call.task invocation).type :=
  have hsame := congrArg DlrTask.type h
  hsame

theorem IsTaskOf.synchronous_eq {call : Call} {invocation : Nat} {task : DlrTask}
    (h : IsTaskOf call invocation task) :
    task.synchronous = (call.task invocation).synchronous :=
  have hsame := congrArg DlrTask.synchronous h
  hsame

structure Conversing (lossy : Prop) (call : Call) (invocation : Nat)
    (script : Option Dialogue) (c : Conversation) : Prop where
  isTask : IsTaskOf call invocation c.task.task
  talks : Talks lossy script c
  early : c.task.stage = .queued ∨ c.task.stage = .updatingProps →
    script = none ∧ c.data = call.data ∧ Pristine c.task
  reads : c.task.stage = .updatingProps → Dialogue.readsStored call
  download : c.task.download = none
  live : c.task.task.invocation ≠ none → c.task.cancellable ≠ some true ∧
    (c.task.idleSources ≠ 0 → ∃ dialogue, script = some dialogue ∧
      dialogue.Ends c.heard c.sent c.task.outcome)
  justified : ∀ answer, (invocation, answer) ∈ c.task.replies →
    Justified lossy call invocation script c answer

theorem conversing_conversationNew (lossy : Prop) (call : Call)
    (invocation : Nat) :
    Conversing lossy call invocation none (conversationNew call invocation) where
  isTask := by cases call <;> rfl
  talks := .silent rfl rfl rfl rfl
  early _ := ⟨rfl, rfl, rfl, by cases call <;> rfl, rfl, rfl, rfl, rfl⟩
  reads := by simp [conversationNew, queuedTask]
  download := rfl
  live _ := ⟨by simp [conversationNew, queuedTask],
    by simp [conversationNew, queuedTask]⟩
  justified := by simp [conversationNew, queuedTask]

structure Ready (lossy : Prop) (call : Call) (invocation : Nat)
    (c : Conversation) : Prop where
  isTask : IsTaskOf call invocation c.task.task
  sent : c.sent = []
  heard : c.heard = []
  action : c.task.action = none
  data : c.data = call.data
  pristine : Pristine c.task
  download : c.task.download = none
  stage : c.task.stage = .running
  live : c.task.task.invocation ≠ none → c.task.cancellable ≠ some true
  justified : ∀ answer, (invocation, answer) ∈ c.task.replies →
    lossy ∧ (answer = .error cancelledError ∨ answer = .error diedError)

theorem gCancellableConnect_eq (task : DlrAsyncTask) :
    ∃ action error idleSources completions handler,
      gCancellableConnect .asyncTaskCancelled task =
        { task with
          action := action
          error := error
          idleSources := idleSources
          completions := completions
          handler := handler } := by
  unfold gCancellableConnect
  split_ifs
  · rw [callHandler, dlrAsyncTaskCancelled_eq]
    exact ⟨_, _, _, _, _, rfl⟩
  · exact ⟨_, _, _, _, _, rfl⟩

section Ready

variable {lossy : Prop} {call : Call} {invocation : Nat} {c : Conversation}

theorem Ready.cut_justified (h : Ready lossy call invocation c)
    {script : Option Dialogue} {next : Conversation} {answer : Answer}
    (hmem : (invocation, answer) ∈ c.task.replies) :
    Justified lossy call invocation script next answer := by
  obtain ⟨hlossy, rfl | rfl⟩ := h.justified answer hmem
  · exact .cancelled hlossy
  · exact .died hlossy

theorem Ready.begin (h : Ready lossy call invocation c) {proxy : Bool}
    {action : UpnpAction} {callback : ActionCallback} {error : Option GError}
    (hproxy : proxy = false → lossy)
    (herror : callback ≠ .simpleCall → error = none) :
    Conversing lossy call invocation
      (some (.ask action
        (continuation c.task.task c.data c.task.relCnt error callback)))
      (Conversation.connectAndBegin proxy action callback
        (c.silently fun task => task.recordError error)) := by
  have herror' : (c.task.recordError error).error = error := by
    simp [DlrAsyncTask.recordError, h.pristine.error]
  obtain ⟨pending, error', idleSources, completions, handler, hconnect⟩ :=
    gCancellableConnect_eq (c.task.recordError error)
  have hlive (hinvocation : c.task.task.invocation ≠ none) :
      error' = error ∧ idleSources = 0 := by
    have hproxied : gCancellableConnect .asyncTaskCancelled
        (c.task.recordError error) =
          { c.task.recordError error with handler := some .asyncTaskCancelled } :=
      if_neg (h.live hinvocation)
    rw [hproxied] at hconnect
    have herrors := congrArg DlrAsyncTask.error hconnect
    have hidles := congrArg DlrAsyncTask.idleSources hconnect
    exact ⟨herrors.symm.trans herror', hidles.symm.trans h.pristine.idleSources⟩
  have hnext : Conversation.connectAndBegin proxy action callback
      (c.silently fun task => task.recordError error) =
        { c with
          task := { c.task with
            error := error'
            idleSources := idleSources
            completions := completions
            handler := handler
            proxy := proxy
            action := if proxy then some callback else none }
          sent := if proxy then [action] else [] } := by
    simp only [Conversation.connectAndBegin, Conversation.beginAction,
      Conversation.silently, Task.beginAction, hconnect, h.sent, List.nil_append]
    rfl
  rw [hnext]
  refine ⟨h.isTask, ?_, ?_, ?_, h.download, ?_, fun answer => h.cut_justified⟩
  · cases proxy with
    | true =>
        have hwaits := Script.waits_start action
          (continuation c.task.task c.data c.task.relCnt error callback)
        rw [← h.heard] at hwaits
        apply Talks.waiting rfl rfl rfl hwaits
        intro hinvocation
        exact ⟨(hlive hinvocation).1.symm, herror, h.pristine.result⟩
    | false =>
        exact .cut (hproxy rfl) rfl rfl List.nil_prefix
  · intro hearly
    simp [h.stage] at hearly
  · intro hupdating
    simp [h.stage] at hupdating
  · intro hinvocation
    exact ⟨h.live hinvocation, fun hidle => absurd (hlive hinvocation).2 hidle⟩

theorem Ready.begin_plain (h : Ready lossy call invocation c) {proxy : Bool}
    {action : UpnpAction} {callback : ActionCallback} {dialogue : Dialogue}
    (hproxy : proxy = false → lossy)
    (hdialogue : dialogue = .ask action
      (continuation c.task.task c.data c.task.relCnt none callback)) :
    Conversing lossy call invocation (some dialogue)
      (Conversation.connectAndBegin proxy action callback c) := by
  rw [hdialogue]
  exact h.begin hproxy fun _ => rfl

theorem Ready.finish (h : Ready lossy call invocation c)
    {function : DlrAsyncTask → DlrAsyncTask} {data : DlrAsyncTask}
    {outcome : Outcome} (hfunction : function c.task = scheduleComplete data)
    (hdata : SameButData c.task data) (houtcome : data.outcome = outcome) :
    Conversing lossy call invocation (some (.done outcome))
      (c.silently function) := by
  have hnext : c.silently function = { c with task := scheduleComplete data } :=
    congrArg (fun task => { c with task := task }) hfunction
  have hends : Script.Ends (.done outcome : Dialogue) c.heard c.sent outcome := by
    rw [h.heard, h.sent]
    exact Script.ends_start outcome
  rw [hnext]
  obtain ⟨error, result, relCnt, rfl⟩ := hdata
  refine ⟨h.isTask, ?_, ?_, ?_, h.download, ?_, fun answer => h.cut_justified⟩
  · exact .ended rfl h.action hends fun _ => ⟨houtcome.symm, Nat.succ_ne_zero _⟩
  · intro hearly
    simp [scheduleComplete, h.stage] at hearly
  · intro hupdating
    simp [scheduleComplete, h.stage] at hupdating
  · intro hinvocation
    exact ⟨h.live hinvocation, fun _ => ⟨_, rfl, houtcome ▸ hends⟩⟩

theorem Ready.wait (h : Ready lossy call invocation c)
    (hreads : Dialogue.readsStored call) :
    Conversing lossy call invocation none
      (c.silently fun task => { task with stage := .updatingProps }) where
  isTask := h.isTask
  talks := .silent rfl h.sent h.heard h.action
  early _ := ⟨rfl, h.data, h.pristine.error, h.pristine.result,
    h.pristine.relCnt, h.pristine.idleSources, h.pristine.handler,
    h.pristine.proxy⟩
  reads _ := hreads
  download := h.download
  live hinvocation :=
    ⟨h.live hinvocation, fun hidle => absurd h.pristine.idleSources hidle⟩
  justified _ := h.cut_justified

/-! ## Openings -/

theorem Ready.require (h : Ready lossy call invocation c) {proxy : Bool}
    (hproxy : proxy = false → lossy) (action : UpnpAction) :
    Conversing lossy call invocation
      (some (Dialogue.require action Dialogue.confirmed))
      (Conversation.connectAndBegin proxy action .simpleCall c) :=
  h.begin_plain hproxy (require_confirmed action)

theorem query_eq (action : String)
    (outcome : Option String → PlayerState → Outcome) :
    (Dialogue.query action fun result player =>
        .done (outcome (some result) player)) =
      .ask (simpleAction action) fun heard =>
        .done (if heard.1.succeeds then outcome heard.1.result heard.2
          else queryError action heard.1) := by
  unfold Dialogue.query
  congr 1
  funext heard
  obtain ⟨⟨failure, result⟩, player⟩ := heard
  cases failure <;> cases result <;> rfl

structure Proxied (lossy : Prop) (device : DeviceView) : Prop where
  av : device.avProxy = false → lossy
  rc : device.rcProxy = false → lossy

variable {device : DeviceView}

theorem Ready.play (h : Ready lossy call invocation c)
    (hproxied : Proxied lossy device) :
    Conversing lossy call invocation
      (some (Dialogue.require (playAction (.string device.player.rate))
        Dialogue.confirmed))
      (Conversation.dlrDevicePlay device c) :=
  h.require hproxied.av _

theorem Ready.playPause (h : Ready lossy call invocation c)
    (hproxied : Proxied lossy device) :
    Conversing lossy call invocation (some (Dialogue.of device .playPause))
      (Conversation.dlrDevicePlayPause device c) := by
  unfold Conversation.dlrDevicePlayPause
  simp only [Dialogue.of]
  split_ifs
  · exact h.require hproxied.av _
  · exact h.play hproxied

theorem Ready.openUri (h : Ready lossy call invocation c)
    (hproxied : Proxied lossy device) {data : DlrTaskOpenUri}
    (hdata : c.data.openUri = data) {dialogue : Dialogue}
    (hdialogue : dialogue = if c.task.task.type = .openUri then
        Dialogue.openUri data
      else Dialogue.require (openUriAction data) Dialogue.confirmed) :
    Conversing lossy call invocation (some dialogue)
      (Conversation.dlrDeviceOpenUri device c) := by
  apply h.begin_plain hproxied.av
  rw [hdata, hdialogue]
  unfold Dialogue.openUri
  rw [require_confirmed]
  split_ifs with htype
  · unfold Dialogue.require
    congr 1
    funext heard
    cases hfailure : heard.1.failure <;> simp [continuation, hfailure, htype]
  · rw [require_confirmed]
    congr 1
    funext heard
    cases hfailure : heard.1.failure <;>
      simp [continuation, acknowledged, hfailure, htype, Dialogue.confirmed,
        Dialogue.settled]

theorem Ready.seekTo (h : Ready lossy call invocation c)
    (hproxied : Proxied lossy device) {action : Seek.SeekAction}
    {unit target : String} (haction : action = ⟨unit, target⟩) :
    Conversing lossy call invocation (some (Dialogue.seekTo unit target))
      (Conversation.connectAndBegin device.avProxy (seekAction action)
        .simpleCall c) := by
  rw [haction]
  exact h.require hproxied.av _

theorem seekSent_addPosition_seek (offset : Int64) (relTime : String) :
    seekSent .seek (Seek.addPosition .seek relTime
        (Seek.dlrTaskSeekNew .seek offset)) =
      ⟨"REL_TIME", prvInt64ToDuration (Int.bmod
        (offset.toInt + prvDurationToInt64 (strip relTime)) (2 ^ 64))⟩ :=
  Option.some.inj (Seek.action_seek offset relTime)

theorem seekSent_addPosition_byteSeek (offset : Int64) (relByte : String) :
    seekSent .byteSeek (Seek.addPosition .byteSeek relByte
        (Seek.dlrTaskSeekNew .byteSeek offset)) =
      ⟨"X_DLNA_REL_BYTE", toString (((offset.toInt % 2 ^ 64).toNat +
        CString.strtoull (strip relByte).toList) % 2 ^ 64)⟩ :=
  Option.some.inj (Seek.action_byteSeek offset relByte)

theorem Ready.seek (h : Ready lossy call invocation c)
    (hproxied : Proxied lossy device) {type : DlrTaskType}
    (htype : c.task.task.type = type) {target : String → Seek.SeekAction}
    (htarget : ∀ result,
      seekSent type (Seek.addPosition type result c.data.seek) = target result) :
    Conversing lossy call invocation
      (some (Dialogue.query (positionAction type) fun result _ =>
        Dialogue.require (seekAction (target result)) Dialogue.confirmed))
      (Conversation.dlrDeviceSeek device c) := by
  unfold Conversation.dlrDeviceSeek
  rw [htype]
  apply h.begin_plain hproxied.av
  unfold Dialogue.query
  congr 1
  funext heard
  obtain ⟨⟨failure, result⟩, player⟩ := heard
  simp only [continuation, htype]
  cases failure with
  | none =>
      cases result with
      | none => rfl
      | some result =>
          simp only []
          rw [require_confirmed, htarget]
  | some message => rfl

theorem setRate_eq (device : DeviceView) (params : Variant) :
    Dialogue.setRate device params =
      if isPlaying device.player then
        .ask (playAction (rateSent device.player (some params))) fun heard =>
          .done (acknowledged (setRateError device.player (some params)) heard)
      else .done (Dialogue.settled (setRateError device.player (some params))) := by
  unfold Dialogue.setRate
  simp only []
  split_ifs
  · congr 1
    funext heard
    unfold acknowledged
    cases heard.1.failure <;> rfl
  · rfl

theorem Ready.setRate {params : Variant} (h : Ready lossy call invocation c)
    (hproxied : Proxied lossy device)
    (hinterface : ¬(c.task.task.interfaceName ≠ playerInterface ∧
      c.task.task.interfaceName ≠ ""))
    (hprop : c.task.task.propName = "Rate")
    (hparams : c.task.task.params = some params) :
    Conversing lossy call invocation (some (Dialogue.setRate device params))
      (Conversation.dlrDeviceSetProp device c) := by
  unfold Conversation.dlrDeviceSetProp
  simp only []
  rw [if_neg hinterface, if_pos hprop, hparams, setRate_eq]
  split_ifs with hplaying
  · exact h.begin hproxied.av fun hother => absurd rfl hother
  · have hfunction : Task.dlrDeviceSetProp device c.task = scheduleComplete
        (c.task.recordError (setRateError device.player (some params))) := by
      simp only [Task.dlrDeviceSetProp, if_neg hinterface, if_pos hprop,
        if_neg hplaying, hparams]
      cases setRateError device.player (some params) <;> rfl
    refine h.finish hfunction ⟨_, _, _, rfl⟩ ?_
    simp only [DlrAsyncTask.outcome, DlrAsyncTask.recordError, h.pristine.error,
      h.pristine.result, Option.or_none]
    cases setRateError device.player (some params) <;> rfl

theorem Ready.setProp {interfaceName propName : String} {params : Variant}
    (h : Ready lossy (.setProp interfaceName propName params) invocation c)
    (hproxied : Proxied lossy device) :
    Conversing lossy (.setProp interfaceName propName params) invocation
      (some (Dialogue.setProp device (strip interfaceName) (strip propName)
        params))
      (Conversation.dlrDeviceSetProp device c) := by
  have hinterface : c.task.task.interfaceName = strip interfaceName :=
    congrArg DlrTask.interfaceName h.isTask
  have hprop : c.task.task.propName = strip propName :=
    congrArg DlrTask.propName h.isTask
  have hparams : c.task.task.params = some params :=
    congrArg DlrTask.params h.isTask
  unfold Dialogue.setProp
  simp only [← hinterface, ← hprop]
  split_ifs with hunknown hrate hother
  · unfold Conversation.dlrDeviceSetProp
    simp only []
    rw [if_pos hunknown]
    exact h.finish (if_pos hunknown) (.fail _ _ c.task) rfl
  · exact h.setRate hproxied hunknown hrate hparams
  · unfold Conversation.dlrDeviceSetProp
    simp only []
    rw [if_neg hunknown, if_neg hrate, if_pos hother]
    refine h.finish ?_ (.fail _ _ c.task) rfl
    simp only [Task.dlrDeviceSetProp, if_neg hunknown, if_neg hrate,
      if_pos hother]
  · unfold Conversation.dlrDeviceSetProp
    simp only []
    rw [if_neg hunknown, if_neg hrate, if_neg hother, controlSent, hparams]
    exact h.require hproxied.rc _

theorem asksPosition_eq_false {interfaceName propName : String}
    (hposition : ¬(IsPlayerInterface interfaceName ∧ propName = "Position"))
    (hbyte : ¬(IsPlayerInterface interfaceName ∧ propName = "BytePosition")) :
    Dialogue.asksPosition interfaceName propName = false := by
  apply decide_eq_false
  rintro ⟨hplayer, hprop | hprop⟩
  · exact hposition ⟨hplayer, hprop⟩
  · exact hbyte ⟨hplayer, hprop⟩

theorem getProp_of_not_asksPosition {interfaceName propName : String}
    (hasks : Dialogue.asksPosition interfaceName propName = false) :
    Dialogue.getProp device interfaceName propName =
      .done (Dialogue.propOutcome device.player interfaceName propName) := by
  have hnone := of_decide_eq_false hasks
  unfold Dialogue.getProp
  rw [if_neg, if_neg]
  · exact fun hbyte => hnone ⟨hbyte.1, .inr hbyte.2⟩
  · exact fun hposition => hnone ⟨hposition.1, .inl hposition.2⟩

theorem Ready.getPropStored {interfaceName propName : String}
    (h : Ready lossy (.getProp interfaceName propName) invocation c)
    (device : DeviceView) (hasks : Dialogue.asksPosition (strip interfaceName)
      (strip propName) = false) :
    Conversing lossy (.getProp interfaceName propName) invocation
      (some (Dialogue.getProp device (strip interfaceName) (strip propName)))
      (c.silently (getPropSynced device.player)) := by
  have hinterface : c.task.task.interfaceName = strip interfaceName :=
    congrArg DlrTask.interfaceName h.isTask
  have hprop : c.task.task.propName = strip propName :=
    congrArg DlrTask.propName h.isTask
  rw [getProp_of_not_asksPosition hasks, ← hinterface, ← hprop]
  exact h.finish rfl (sameButData_prvGetProp device.player c.task)
    (outcome_of_prvGetProp h.pristine.error)

theorem Ready.getProp {interfaceName propName : String}
    (h : Ready lossy (.getProp interfaceName propName) invocation c)
    (hproxied : Proxied lossy device) :
    Conversing lossy (.getProp interfaceName propName) invocation
      (if Dialogue.waitsForSync device (.getProp interfaceName propName) then none
      else some (Dialogue.getProp device (strip interfaceName)
        (strip propName)))
      (Conversation.dlrDeviceGetProp device c) := by
  have hinterface : c.task.task.interfaceName = strip interfaceName :=
    congrArg DlrTask.interfaceName h.isTask
  have hprop : c.task.task.propName = strip propName :=
    congrArg DlrTask.propName h.isTask
  have hwaits : Dialogue.waitsForSync device (.getProp interfaceName propName) =
      (!Dialogue.asksPosition c.task.task.interfaceName c.task.task.propName &&
        !device.player.synced) := by
    rw [hinterface, hprop]
    rfl
  by_cases hposition : (c.task.task.interfaceName = playerInterface ∨
      c.task.task.interfaceName = "") ∧ c.task.task.propName = "Position"
  · have hasks : Dialogue.asksPosition c.task.task.interfaceName
        c.task.task.propName = true :=
      decide_eq_true ⟨hposition.1, .inl hposition.2⟩
    rw [hwaits, hasks, ← hinterface, ← hprop]
    unfold Conversation.dlrDeviceGetProp Dialogue.getProp IsPlayerInterface
    simp only []
    rw [if_pos hposition, if_pos hposition]
    exact h.begin_plain hproxied.av (query_eq _ fun result player =>
      Dialogue.propOutcome (Player.prvGetPositionInfoCb result player) _ _)
  · by_cases hbyte : (c.task.task.interfaceName = playerInterface ∨
        c.task.task.interfaceName = "") ∧ c.task.task.propName = "BytePosition"
    · have hasks : Dialogue.asksPosition c.task.task.interfaceName
          c.task.task.propName = true :=
        decide_eq_true ⟨hbyte.1, .inr hbyte.2⟩
      rw [hwaits, hasks, ← hinterface, ← hprop]
      unfold Conversation.dlrDeviceGetProp Dialogue.getProp IsPlayerInterface
      simp only []
      rw [if_neg hposition, if_neg hposition, if_pos hbyte, if_pos hbyte]
      exact h.begin_plain hproxied.av (query_eq _ fun result player =>
        Dialogue.propOutcome (Player.prvGetBytePositionInfoCb result player) _ _)
    · have hasks := asksPosition_eq_false hposition hbyte
      have hfunction : Task.dlrDeviceGetProp device c.task =
          if device.player.synced then getPropSynced device.player c.task
          else { c.task with stage := .updatingProps } := by
        unfold Task.dlrDeviceGetProp
        rw [if_neg hposition, if_neg hbyte]
      unfold Conversation.dlrDeviceGetProp Conversation.silently
      simp only []
      rw [hwaits, hasks, if_neg hposition, if_neg hbyte, hfunction]
      rw [hinterface, hprop] at hasks
      cases hsynced : device.player.synced with
      | true => exact h.getPropStored device hasks
      | false => exact h.wait (by simp [Dialogue.readsStored, hasks])

theorem Ready.getAllPropsSynced {interfaceName : String}
    (h : Ready lossy (.getAllProps interfaceName) invocation c)
    (hproxied : Proxied lossy device) :
    Conversing lossy (.getAllProps interfaceName) invocation
      (some (Dialogue.getAllProps device (strip interfaceName)))
      (Conversation.getAllPropsSynced device c) := by
  have hinterface : c.task.task.interfaceName = strip interfaceName :=
    congrArg DlrTask.interfaceName h.isTask
  rw [← hinterface]
  unfold Conversation.getAllPropsSynced Dialogue.getAllProps IsPlayerInterface
  simp only []
  by_cases hplayer : c.task.task.interfaceName = playerInterface ∨
      c.task.task.interfaceName = ""
  · rw [if_pos hplayer, if_pos hplayer]
    split_ifs
    · exact h.begin_plain hproxied.av rfl
    · apply h.begin_plain hproxied.av
      rw [h.pristine.relCnt]
      rfl
  · rw [if_neg hplayer, if_neg hplayer]
    have hfunction : Task.getAllPropsSynced device c.task =
        scheduleComplete (prvGetProps device.player c.task) := if_neg hplayer
    exact h.finish hfunction (sameButData_prvGetProps device.player c.task)
      (outcome_of_prvGetProps h.pristine.error)

theorem Ready.getAllProps {interfaceName : String}
    (h : Ready lossy (.getAllProps interfaceName) invocation c)
    (hproxied : Proxied lossy device) :
    Conversing lossy (.getAllProps interfaceName) invocation
      (if Dialogue.waitsForSync device (.getAllProps interfaceName) then none
      else some (Dialogue.getAllProps device (strip interfaceName)))
      (Conversation.dlrDeviceGetAllProps device c) := by
  have hwaits : Dialogue.waitsForSync device (.getAllProps interfaceName) =
      !device.player.synced := rfl
  rw [hwaits]
  unfold Conversation.dlrDeviceGetAllProps
  by_cases hsynced : device.player.synced = true
  · rw [if_pos hsynced, hsynced]
    exact h.getAllPropsSynced hproxied
  · have hunsynced : device.player.synced = false := by simpa using hsynced
    have hnext : c.silently (Task.dlrDeviceGetAllProps device) =
        c.silently fun task => { task with stage := .updatingProps } :=
      congrArg (fun task => { c with task := task }) (if_neg hsynced)
    rw [if_neg hsynced, hunsynced, hnext]
    exact h.wait rfl

/-- Each call is opened with its dialogue. -/
theorem Ready.processDeviceTask (h : Ready lossy call invocation c)
    (hproxied : Proxied lossy device) (around : Surroundings) :
    Conversing lossy call invocation
      (if Dialogue.waitsForSync device call then none
      else some (Dialogue.of device call))
      (Conversation.processDeviceTask device around c) := by
  have htype := h.isTask.type_eq
  unfold Conversation.processDeviceTask
  rw [htype]
  cases call with
  | play => exact h.play hproxied
  | pause => exact h.require hproxied.av _
  | playPause => exact h.playPause hproxied
  | stop => exact h.require hproxied.av _
  | next => exact h.require hproxied.av _
  | previous => exact h.require hproxied.av _
  | openUri uri =>
      refine h.openUri hproxied (congrArg TaskData.openUri h.data) ?_
      exact (if_pos htype).symm
  | openUriEx uri metadata =>
      refine h.openUri hproxied (congrArg TaskData.openUri h.data) ?_
      exact (if_pos htype).symm
  | openNextUri uri metadata =>
      refine h.openUri hproxied (congrArg TaskData.openUri h.data) ?_
      rw [htype]
      rfl
  | setUri uri metadata =>
      refine h.openUri hproxied (congrArg TaskData.openUri h.data) ?_
      rw [htype]
      rfl
  | seek offset =>
      refine h.seek hproxied htype fun relTime => ?_
      rw [h.data]
      exact seekSent_addPosition_seek offset relTime
  | byteSeek offset =>
      refine h.seek hproxied htype fun relByte => ?_
      rw [h.data]
      exact seekSent_addPosition_byteSeek offset relByte
  | setPosition position =>
      refine h.seekTo hproxied ?_
      rw [htype, h.data]
      exact Option.some.inj (Seek.action_setPosition position)
  | setBytePosition position =>
      refine h.seekTo hproxied ?_
      rw [htype, h.data]
      exact Option.some.inj (Seek.action_setBytePosition position)
  | gotoTrack track =>
      refine h.seekTo hproxied ?_
      rw [h.data]
      rfl
  | setProp interfaceName propName params => exact h.setProp hproxied
  | getProp interfaceName propName => exact h.getProp hproxied
  | getAllProps interfaceName => exact h.getAllProps hproxied

end Ready

end DleynaRenderer.Task
