import DleynaRenderer.Foundation.EventSystem
import DleynaRenderer.Player.Tables
import DleynaRenderer.Task.Device

/-!
# Get and GetAll

Both choose among the three tables of a device by the name of the interface,
each in its own way.  They agree but for the interface of the server, where
GetAll adds the properties of the device.
-/

namespace DleynaRenderer.Task

open DleynaRenderer.Player EventSystem HashTable

def getRun (around : Surroundings) (interfaceName propName : String)
    (invocation : Nat) : Option DlrAsyncTask :=
  exec taskStep
    (queuedTask (dlrTaskGetPropNew interfaceName propName invocation))
    [.process around, .runIdle]

def IsPlayerInterface (interfaceName : String) : Prop :=
  interfaceName = playerInterface ∨ interfaceName = ""

instance (interfaceName : String) : Decidable (IsPlayerInterface interfaceName) :=
  inferInstanceAs (Decidable (_ ∨ _))

theorem IsPlayerInterface.ne_serverInterface {interfaceName : String}
    (h : IsPlayerInterface interfaceName) : interfaceName ≠ serverInterface := by
  rcases h with rfl | rfl
  · decide
  · decide

def positionReplies (player : PlayerState) (interfaceName : String)
    (byte time : ActionReply) : List TaskEvent :=
  if IsPlayerInterface interfaceName then
    if player.canGetBytePosition then
      [.reply byte player,
       .reply time (Player.prvGetAllBytePositionInfoCb byte.result player)]
    else [.reply time player]
  else []

def getAllRun (around : Surroundings) (device : DeviceView)
    (interfaceName : String) (invocation : Nat) (byte time : ActionReply) :
    Option DlrAsyncTask :=
  exec taskStep (queuedTask (dlrTaskGetPropsNew interfaceName invocation))
    (.process around ::
      (positionReplies device.player (strip interfaceName) byte time ++
        [.runIdle]))

def afterQueries (player : PlayerState) (interfaceName : String)
    (byte time : ActionReply) : PlayerState :=
  if IsPlayerInterface interfaceName then
    if player.canGetBytePosition then
      Player.prvGetAllPositionInfoCb byte.result time.result
        (Player.prvGetAllBytePositionInfoCb byte.result player)
    else Player.prvGetAllPositionInfoCb none time.result player
  else player

theorem changesOnly_afterQueries (player : PlayerState) (interfaceName : String)
    (byte time : ActionReply) :
    ChangesOnly positionKeys player
      (afterQueries player interfaceName byte time) := by
  unfold afterQueries
  split_ifs
  · exact (changesOnly_prvGetAllBytePositionInfoCb _ _).trans
      (changesOnly_prvGetAllPositionInfoCb _ _ _)
  · exact changesOnly_prvGetAllPositionInfoCb _ _ _
  · exact .refl _ _

def answerGet (player : PlayerState) (interfaceName propName : String) :
    Answer :=
  match lookUpProp player interfaceName propName with
  | .ok (some value) => .formatted "(v)" (.property value)
  | .ok none =>
      .error ⟨.unknownProperty, "Property not defined for object"⟩
  | .error error => .error error

def lookUpProps (player : PlayerState) (interfaceName : String) :
    Except GError (List (String × Variant)) :=
  if interfaceName = rendererDeviceInterface then
    .ok (entries player.deviceProps)
  else if interfaceName = serverInterface then
    .ok (entries player.rootProps ++ entries player.deviceProps)
  else if interfaceName = playerInterface then
    .ok (entries player.playerProps)
  else if interfaceName = "" then
    .ok (entries player.rootProps ++ entries player.playerProps ++
      entries player.deviceProps)
  else .error ⟨.unknownInterface, "Unknown Interface"⟩

theorem prvGetProps_eq (player : PlayerState) (task : DlrAsyncTask) :
    prvGetProps player task =
      match lookUpProps player task.task.interfaceName with
      | .ok values =>
          { task with
            task := { task.task with result := some (.properties values) } }
      | .error error => { task with error := some error } := by
  unfold prvGetProps lookUpProps
  split_ifs <;> rfl

def answerGetAll (player : PlayerState) (interfaceName : String) : Answer :=
  match lookUpProps player interfaceName with
  | .ok values => .formatted "(@a\x7bsv\x7d)" (.properties values)
  | .error error => .error error

def Answers (run : Option DlrAsyncTask) (invocation : Nat) (answer : Answer) :
    Prop :=
  run.map DlrAsyncTask.replies = some [(invocation, answer)]

instance (run : Option DlrAsyncTask) (invocation : Nat) (answer : Answer) :
    Decidable (Answers run invocation answer) :=
  inferInstanceAs (Decidable (_ = _))

theorem prvProcessTask_device {around : Surroundings} {device : DeviceView}
    (hdevice : around.device = some device) {task : DlrTask}
    (hasync : task.synchronous = false)
    (hmanager : task.type ∉
      [.managerGetProp, .managerGetAllProps, .managerSetProp]) :
    taskStep (queuedTask task) (.process around) =
      some (processDeviceTask device around
        { queuedTask task with cancellable := some false, stage := .running }) := by
  have hstep : taskStep (queuedTask task) (.process around) =
      some (prvProcessTask around (queuedTask task)) := rfl
  have hsync : ¬(queuedTask task).task.synchronous = true := by
    rw [Bool.not_eq_true]
    exact hasync
  rw [hstep, prvProcessTask, if_neg hsync]
  exact congrArg some ((if_neg hmanager).trans (by rw [processUpnpTask, hdevice]))

theorem getProp_not_manager : DlrTaskType.getProp ∉
    [.managerGetProp, .managerGetAllProps, .managerSetProp] := by
  decide

theorem getAllProps_not_manager : DlrTaskType.getAllProps ∉
    [.managerGetProp, .managerGetAllProps, .managerSetProp] := by
  decide

theorem setProp_not_manager : DlrTaskType.setProp ∉
    [.managerGetProp, .managerGetAllProps, .managerSetProp] := by
  decide

theorem answers_getRun {around : Surroundings} {device : DeviceView}
    (hdevice : around.device = some device)
    (hsynced : device.player.synced = true) (interfaceName : String)
    {propName : String} (hprop : strip propName ∉ positionKeys)
    (invocation : Nat) :
    Answers (getRun around interfaceName propName invocation) invocation
      (answerGet device.player (strip interfaceName) (strip propName)) := by
  simp only [positionKeys, List.mem_cons, List.not_mem_nil, or_false, not_or]
    at hprop
  unfold Answers getRun
  rw [exec_cons, prvProcessTask_device hdevice rfl getProp_not_manager, Option.bind_some,
    processDeviceTask]
  simp only [dlrTaskGetPropNew, propTaskNew, prvDeviceTaskNew, syncTaskNew,
    queuedTask, dlrDeviceGetProp, hprop, and_false, if_false, hsynced, if_true,
    getPropSynced, prvGetProp]
  unfold answerGet
  cases hfound : lookUpProp device.player (strip interfaceName)
      (strip propName) with
  | error error => rfl
  | ok found =>
      cases found with
      | none => rfl
      | some value => rfl

theorem dlrDeviceGetAllProps_of_player {device : DeviceView}
    (hsynced : device.player.synced = true) (task : DlrAsyncTask)
    (hplayer : IsPlayerInterface task.task.interfaceName) :
    dlrDeviceGetAllProps device task =
      if device.player.canGetBytePosition then
        prvGetPositionInfo device .getAllBytePositionInfo task
      else prvGetPositionInfo device .getAllPositionInfo task := by
  rw [dlrDeviceGetAllProps, if_pos hsynced, getAllPropsSynced]
  exact if_pos hplayer

theorem dlrDeviceGetAllProps_of_other {device : DeviceView}
    (hsynced : device.player.synced = true) (task : DlrAsyncTask)
    (hother : ¬IsPlayerInterface task.task.interfaceName) :
    dlrDeviceGetAllProps device task =
      scheduleComplete (prvGetProps device.player task) := by
  rw [dlrDeviceGetAllProps, if_pos hsynced, getAllPropsSynced]
  exact if_neg hother

def getAllStarted (interfaceName : String) (invocation : Nat) : DlrAsyncTask :=
  { queuedTask (dlrTaskGetPropsNew interfaceName invocation) with
    cancellable := some false, stage := .running }

def getAllQueried (interfaceName : String) (invocation : Nat)
    (callback : ActionCallback) (relCnt : Option String) : DlrAsyncTask :=
  { getAllStarted interfaceName invocation with
    action := some callback
    proxy := true
    handler := some .asyncTaskCancelled
    relCnt := relCnt }

theorem answers_getAllQueried (interfaceName : String) (invocation : Nat)
    (relCnt : Option String) (time : ActionReply) (player : PlayerState) :
    Answers
      (exec taskStep
        (getAllQueried interfaceName invocation .getAllPositionInfo relCnt)
        [.reply time player, .runIdle])
      invocation
      (answerGetAll (Player.prvGetAllPositionInfoCb relCnt time.result player)
        (strip interfaceName)) := by
  have hreply : taskStep
      (getAllQueried interfaceName invocation .getAllPositionInfo relCnt)
      (.reply time player) =
      some (finish (prvGetProps
        (Player.prvGetAllPositionInfoCb relCnt time.result player)
        { getAllQueried interfaceName invocation .getAllPositionInfo relCnt with
          action := none })) := rfl
  have hname : (getAllQueried interfaceName invocation .getAllPositionInfo
      relCnt).task.interfaceName = strip interfaceName := rfl
  rw [Answers, exec_cons, hreply, Option.bind_some, prvGetProps_eq, answerGetAll]
  simp only [hname]
  cases lookUpProps (Player.prvGetAllPositionInfoCb relCnt time.result player)
    (strip interfaceName) <;> rfl

theorem answers_getAllRun {around : Surroundings} {device : DeviceView}
    (hdevice : around.device = some device)
    (hsynced : device.player.synced = true) {interfaceName : String}
    (hproxy : IsPlayerInterface (strip interfaceName) → device.avProxy = true)
    (invocation : Nat) (byte time : ActionReply) :
    Answers (getAllRun around device interfaceName invocation byte time)
      invocation
      (answerGetAll
        (afterQueries device.player (strip interfaceName) byte time)
        (strip interfaceName)) := by
  have hprocess : taskStep (queuedTask (dlrTaskGetPropsNew interfaceName invocation))
      (.process around) =
      some (dlrDeviceGetAllProps device
        (getAllStarted interfaceName invocation)) :=
    prvProcessTask_device hdevice rfl getAllProps_not_manager
  rw [getAllRun, exec_cons, hprocess, Option.bind_some]
  unfold positionReplies afterQueries
  by_cases hplayer : IsPlayerInterface (strip interfaceName)
  · have hbegun (callback : ActionCallback) :
        prvGetPositionInfo device callback
            (getAllStarted interfaceName invocation) =
          getAllQueried interfaceName invocation callback none := by
      rw [prvGetPositionInfo, hproxy hplayer]
      rfl
    rw [if_pos hplayer, if_pos hplayer,
      dlrDeviceGetAllProps_of_player hsynced (getAllStarted _ _) hplayer, hbegun,
      hbegun]
    cases hbytes : device.player.canGetBytePosition with
    | true =>
        have hreply : taskStep (getAllQueried interfaceName invocation
            .getAllBytePositionInfo none) (.reply byte device.player) =
            some (getAllQueried interfaceName invocation .getAllPositionInfo
              byte.result) := rfl
        rw [if_pos rfl, if_pos rfl, if_pos rfl, List.cons_append, exec_cons,
          hreply, Option.bind_some]
        exact answers_getAllQueried interfaceName invocation _ time _
    | false =>
        rw [if_neg (by decide), if_neg (by decide), if_neg (by decide)]
        exact answers_getAllQueried interfaceName invocation none time _
  · have hname : (getAllStarted interfaceName invocation).task.interfaceName =
        strip interfaceName := rfl
    rw [if_neg hplayer, if_neg hplayer,
      dlrDeviceGetAllProps_of_other hsynced (getAllStarted _ _) hplayer,
      prvGetProps_eq, answerGetAll]
    simp only [hname]
    cases lookUpProps device.player (strip interfaceName) <;> rfl

theorem getAllRun_eq_none {around : Surroundings} {device : DeviceView}
    (hdevice : around.device = some device)
    (hsynced : device.player.synced = true) {interfaceName : String}
    (hproxy : device.avProxy = false)
    (hplayer : IsPlayerInterface (strip interfaceName)) (invocation : Nat)
    (byte time : ActionReply) :
    getAllRun around device interfaceName invocation byte time = none := by
  have hprocess : taskStep (queuedTask (dlrTaskGetPropsNew interfaceName invocation))
      (.process around) =
      some (dlrDeviceGetAllProps device
        (getAllStarted interfaceName invocation)) :=
    prvProcessTask_device hdevice rfl getAllProps_not_manager
  rw [getAllRun, exec_cons, hprocess, Option.bind_some, positionReplies,
    if_pos hplayer,
    dlrDeviceGetAllProps_of_player hsynced (getAllStarted _ _) hplayer,
    prvGetPositionInfo, prvGetPositionInfo, hproxy]
  cases device.player.canGetBytePosition <;> rfl

/-! ## Tables and entries -/

theorem mem_entries {props : Props} {key : String} {value : Variant} :
    (key, value) ∈ entries props ↔ props.lookup key = some value := by
  rw [lookup_eq_some_iff, entries, List.mem_map]
  constructor
  · rintro ⟨⟨name, stored⟩, hmem, heq⟩
    obtain ⟨rfl, rfl⟩ := Prod.mk.inj heq
    exact hmem
  · intro hmem
    exact ⟨_, hmem, rfl⟩

theorem keys_entries (props : Props) :
    (entries props).map Prod.fst = props.keys := by
  rw [entries, List.map_map]
  rfl

theorem nodup_keys_entries (props : Props) :
    ((entries props).map Prod.fst).Nodup := by
  rw [keys_entries]
  exact props.keys_nodup

theorem keys_entries_subset {names : List String} {props : Props}
    (h : StoresOnly names props) : (entries props).map Prod.fst ⊆ names := by
  intro key hmem
  obtain ⟨⟨name, value⟩, hentry, rfl⟩ := List.mem_map.mp hmem
  by_contra hfresh
  have hnone := h name hfresh
  rw [mem_entries.mp hentry] at hnone
  contradiction

theorem lookup_eq_none_of_known {player : PlayerState} (h : KnownNames player)
    (key : String) :
    (player.rootProps.lookup key = none ∨
        player.playerProps.lookup key = none ∧
          player.deviceProps.lookup key = none) ∧
      (player.playerProps.lookup key = none ∨
        player.deviceProps.lookup key = none) := by
  constructor
  · by_cases hmem : key ∈ propertyNames serverProperties
    · have hfresh := serverNames_fresh key hmem
      simp only [List.mem_append, not_or] at hfresh
      exact .inr ⟨h.props key hfresh.1, h.device key hfresh.2⟩
    · exact .inl (h.root key hmem)
  · by_cases hmem : key ∈ propertyNames playerProperties
    · exact .inr (h.device key (playerNames_fresh key hmem))
    · exact .inl (h.props key hmem)

theorem lookUpProps_nodup {player : PlayerState} (h : KnownNames player)
    {interfaceName : String} {values : List (String × Variant)}
    (hvalues : lookUpProps player interfaceName = .ok values) :
    (values.map Prod.fst).Nodup := by
  have hroot := keys_entries_subset h.root
  have hprops := keys_entries_subset h.props
  have hdevice := keys_entries_subset h.device
  have hfresh := serverNames_fresh
  simp only [List.mem_append, not_or] at hfresh
  unfold lookUpProps at hvalues
  split_ifs at hvalues
  · obtain rfl := Except.ok.inj hvalues
    exact nodup_keys_entries _
  · obtain rfl := Except.ok.inj hvalues
    rw [List.map_append, nodup_append_of_pools hroot hdevice
      fun key hmem => (hfresh key hmem).2]
    exact ⟨nodup_keys_entries _, nodup_keys_entries _⟩
  · obtain rfl := Except.ok.inj hvalues
    exact nodup_keys_entries _
  · obtain rfl := Except.ok.inj hvalues
    have hboth : ∀ key ∈ propertyNames serverProperties ++
        propertyNames playerProperties,
        key ∉ propertyNames rendererDeviceProperties := by
      intro key hmem
      rcases List.mem_append.mp hmem with hserver | hplayer
      · exact (hfresh key hserver).2
      · exact playerNames_fresh key hplayer
    rw [List.map_append, List.map_append,
      nodup_append_of_pools (List.append_subset.mpr
        ⟨List.Subset.trans hroot (List.subset_append_left _ _),
          List.Subset.trans hprops (List.subset_append_right _ _)⟩) hdevice hboth,
      nodup_append_of_pools hroot hprops fun key hmem => (hfresh key hmem).1]
    exact ⟨⟨nodup_keys_entries _, nodup_keys_entries _⟩, nodup_keys_entries _⟩

def Lists (player : PlayerState) (interfaceName key : String)
    (value : Variant) : Prop :=
  ∃ values, lookUpProps player interfaceName = .ok values ∧
    (key, value) ∈ values

def Stored (player : PlayerState) (interfaceName key : String) : Prop :=
  key ∈ player.playerProps ∨
    interfaceName = "" ∧ (key ∈ player.rootProps ∨ key ∈ player.deviceProps)

theorem IsPlayerInterface.lookUpProp_eq_none_iff {interfaceName : String}
    (h : IsPlayerInterface interfaceName) (player : PlayerState) (key : String) :
    lookUpProp player interfaceName key = .ok none ↔
      ¬Stored player interfaceName key := by
  have hnames : playerInterface ≠ "" := by decide
  have hlookup (props : Props) : key ∉ props ↔ props.lookup key = none :=
    AList.lookup_eq_none.symm
  unfold Stored
  rcases h with rfl | rfl
  · have hfound : lookUpProp player playerInterface key =
        .ok (player.playerProps.lookup key) := rfl
    simp [hfound, hnames, hlookup]
  · have hfound : lookUpProp player "" key =
        .ok (((player.rootProps.lookup key).or
          (player.playerProps.lookup key)).or
            (player.deviceProps.lookup key)) := rfl
    simp only [hfound, not_or, hlookup, true_and, Except.ok.injEq,
      Option.or_eq_none_iff]
    tauto

theorem lists_iff {player : PlayerState} (h : KnownNames player)
    (interfaceName key : String) (value : Variant) :
    Lists player interfaceName key value ↔
      lookUpProp player interfaceName key = .ok (some value) ∨
        interfaceName = serverInterface ∧
          player.deviceProps.lookup key = some value := by
  obtain ⟨hroot, hplayer⟩ := lookup_eq_none_of_known h key
  have hnames : serverInterface ≠ rendererDeviceInterface := by decide
  unfold Lists lookUpProps lookUpProp
  by_cases hdevice : interfaceName = rendererDeviceInterface
  · subst hdevice
    simp [mem_entries, Ne.symm hnames]
  by_cases hserver : interfaceName = serverInterface
  · subst hserver
    simp [mem_entries, hnames]
  by_cases hplayerName : interfaceName = playerInterface
  · subst hplayerName
    simp [mem_entries, hdevice, hserver]
  by_cases hempty : interfaceName = ""
  · subst hempty
    simp only [hdevice, hserver, hplayerName, if_true, if_false, false_and,
      or_false, Except.ok.injEq, exists_eq_left', List.mem_append, mem_entries]
    cases hr : player.rootProps.lookup key with
    | none =>
        cases hp : player.playerProps.lookup key with
        | none => simp
        | some value' => simp [hplayer.resolve_left (by simp [hp])]
    | some value' =>
        have hothers := hroot.resolve_left (by simp [hr])
        simp [hothers.1, hothers.2]
  · simp [hdevice, hserver, hplayerName, hempty]

theorem lookUpProp_congr {player other : PlayerState} {key : String}
    (hkey : key ∉ positionKeys) (h : ChangesOnly positionKeys player other)
    (interfaceName : String) :
    lookUpProp other interfaceName key = lookUpProp player interfaceName key := by
  have hprops : other.playerProps.lookup key = player.playerProps.lookup key :=
    h.props key hkey
  have htables := h.sameTables
  unfold lookUpProp
  rw [hprops, htables.root, htables.device]

theorem Answers.iff_eq {run : Option DlrAsyncTask} {invocation : Nat}
    {answer : Answer} (h : Answers run invocation answer) (other : Answer) :
    Answers run invocation other ↔ answer = other := by
  unfold Answers at h ⊢
  rw [h]
  simp

def Returns (run : Option DlrAsyncTask) (invocation : Nat) (value : Variant) :
    Prop :=
  Answers run invocation (.formatted "(v)" (.property value))

def ReturnsAll (run : Option DlrAsyncTask) (invocation : Nat)
    (values : List (String × Variant)) : Prop :=
  Answers run invocation (.formatted "(@a\x7bsv\x7d)" (.properties values))

def FailsUnknown (run : Option DlrAsyncTask) (invocation : Nat) : Prop :=
  ∃ message, Answers run invocation (.error ⟨.unknownInterface, message⟩)

/-- What the two requests have in common on an interface and a name. -/
structure Agree (get getAll : Option DlrAsyncTask) (invocation : Nat)
    (key : String) : Prop where
  value : ∀ value, Returns get invocation value ↔
    ∃ values, ReturnsAll getAll invocation values ∧ (key, value) ∈ values
  once : ∀ values, ReturnsAll getAll invocation values →
    (values.map Prod.fst).Nodup
  unknown : FailsUnknown get invocation ↔ FailsUnknown getAll invocation

theorem answerGet_eq_iff (player : PlayerState) (interfaceName key : String)
    (value : Variant) :
    answerGet player interfaceName key = .formatted "(v)" (.property value) ↔
      lookUpProp player interfaceName key = .ok (some value) := by
  unfold answerGet
  cases lookUpProp player interfaceName key with
  | error error => simp
  | ok found => cases found <;> simp

theorem answerGetAll_eq_iff (player : PlayerState) (interfaceName : String)
    (values : List (String × Variant)) :
    answerGetAll player interfaceName =
        .formatted "(@a\x7bsv\x7d)" (.properties values) ↔
      lookUpProps player interfaceName = .ok values := by
  unfold answerGetAll
  cases lookUpProps player interfaceName <;> simp

def knownInterfaces : List String :=
  [rendererDeviceInterface, serverInterface, playerInterface, ""]

theorem IsPlayerInterface.known {interfaceName : String}
    (h : IsPlayerInterface interfaceName) : interfaceName ∈ knownInterfaces := by
  rcases h with rfl | rfl
  · decide
  · decide

theorem lookUpProp_of_known {interfaceName : String}
    (h : interfaceName ∈ knownInterfaces) (player : PlayerState) (key : String) :
    ∃ found, lookUpProp player interfaceName key = .ok found := by
  simp only [knownInterfaces, List.mem_cons, List.not_mem_nil, or_false] at h
  rcases h with rfl | rfl | rfl | rfl <;> exact ⟨_, rfl⟩

theorem lookUpProps_of_known {interfaceName : String}
    (h : interfaceName ∈ knownInterfaces) (player : PlayerState) :
    ∃ values, lookUpProps player interfaceName = .ok values := by
  simp only [knownInterfaces, List.mem_cons, List.not_mem_nil, or_false] at h
  rcases h with rfl | rfl | rfl | rfl <;> exact ⟨_, rfl⟩

theorem lookUp_of_unknown {interfaceName : String}
    (h : interfaceName ∉ knownInterfaces) (player : PlayerState) (key : String) :
    lookUpProp player interfaceName key =
        .error ⟨.unknownInterface, "Unknown Interface"⟩ ∧
      lookUpProps player interfaceName =
        .error ⟨.unknownInterface, "Unknown Interface"⟩ := by
  simp only [knownInterfaces, List.mem_cons, List.not_mem_nil, or_false, not_or]
    at h
  obtain ⟨hdevice, hserver, hplayer, hempty⟩ := h
  constructor
  · rw [lookUpProp, if_neg hdevice, if_neg hserver, if_neg hplayer,
      if_neg hempty]
  · rw [lookUpProps, if_neg hdevice, if_neg hserver, if_neg hplayer,
      if_neg hempty]

theorem answerGet_unknown_iff (player : PlayerState)
    (interfaceName key : String) :
    (∃ message, answerGet player interfaceName key =
        .error ⟨.unknownInterface, message⟩) ↔
      interfaceName ∉ knownInterfaces := by
  unfold answerGet
  by_cases h : interfaceName ∈ knownInterfaces
  · obtain ⟨found, hfound⟩ := lookUpProp_of_known h player key
    rw [hfound]
    cases found <;> simp [h]
  · rw [(lookUp_of_unknown h player key).1]
    simp [h]

theorem answerGetAll_unknown_iff (player : PlayerState)
    (interfaceName : String) :
    (∃ message, answerGetAll player interfaceName =
        .error ⟨.unknownInterface, message⟩) ↔
      interfaceName ∉ knownInterfaces := by
  unfold answerGetAll
  by_cases h : interfaceName ∈ knownInterfaces
  · obtain ⟨values, hvalues⟩ := lookUpProps_of_known h player
    rw [hvalues]
    simp [h]
  · rw [(lookUp_of_unknown h player "").2]
    simp [h]

section Agreement

variable {around : Surroundings} {device : DeviceView}
  {interfaceName propName : String}

theorem returns_getRun_iff (hdevice : around.device = some device)
    (hsynced : device.player.synced = true)
    (hprop : strip propName ∉ positionKeys) (interfaceName : String)
    (invocation : Nat) (value : Variant) :
    Returns (getRun around interfaceName propName invocation) invocation value ↔
      lookUpProp device.player (strip interfaceName) (strip propName) =
        .ok (some value) := by
  have hget := answers_getRun hdevice hsynced interfaceName hprop invocation
  exact (hget.iff_eq _).trans (answerGet_eq_iff _ _ _ value)

theorem failsUnknown_getRun_iff (hdevice : around.device = some device)
    (hsynced : device.player.synced = true)
    (hprop : strip propName ∉ positionKeys) (invocation : Nat) :
    FailsUnknown (getRun around interfaceName propName invocation) invocation ↔
      strip interfaceName ∉ knownInterfaces := by
  have hget := answers_getRun hdevice hsynced interfaceName hprop invocation
  unfold FailsUnknown
  simp only [hget.iff_eq]
  exact answerGet_unknown_iff _ _ _

theorem returnsAll_getAllRun_iff (hdevice : around.device = some device)
    (hsynced : device.player.synced = true)
    (hproxy : IsPlayerInterface (strip interfaceName) → device.avProxy = true)
    (invocation : Nat) (byte time : ActionReply)
    (values : List (String × Variant)) :
    ReturnsAll (getAllRun around device interfaceName invocation byte time)
        invocation values ↔
      lookUpProps (afterQueries device.player (strip interfaceName) byte time)
        (strip interfaceName) = .ok values := by
  have hgetAll := answers_getAllRun hdevice hsynced hproxy invocation byte time
  exact (hgetAll.iff_eq _).trans (answerGetAll_eq_iff _ _ values)

theorem failsUnknown_getAllRun_iff (hdevice : around.device = some device)
    (hsynced : device.player.synced = true)
    (hproxy : IsPlayerInterface (strip interfaceName) → device.avProxy = true)
    (invocation : Nat) (byte time : ActionReply) :
    FailsUnknown (getAllRun around device interfaceName invocation byte time)
        invocation ↔
      strip interfaceName ∉ knownInterfaces := by
  have hgetAll := answers_getAllRun hdevice hsynced hproxy invocation byte time
  unfold FailsUnknown
  simp only [hgetAll.iff_eq]
  exact answerGetAll_unknown_iff _ _

theorem lists_afterQueries_iff (hknown : KnownNames device.player)
    (hprop : strip propName ∉ positionKeys) (interfaceName : String)
    (byte time : ActionReply) (value : Variant) :
    Lists (afterQueries device.player (strip interfaceName) byte time)
        (strip interfaceName) (strip propName) value ↔
      lookUpProp device.player (strip interfaceName) (strip propName) =
          .ok (some value) ∨
        strip interfaceName = serverInterface ∧
          device.player.deviceProps.lookup (strip propName) = some value := by
  have hchanges := changesOnly_afterQueries device.player (strip interfaceName)
    byte time
  have hafter := hknown.of_changesOnly (by decide) hchanges
  rw [lists_iff hafter, lookUpProp_congr hprop hchanges, hchanges.deviceProps_eq]

theorem lookUpProp_ne_device {player : PlayerState} (hknown : KnownNames player)
    {key : String} {value : Variant}
    (hvalue : player.deviceProps.lookup key = some value) :
    lookUpProp player serverInterface key ≠ .ok (some value) := by
  intro hfound
  have hroot : player.rootProps.lookup key = some value := Except.ok.inj hfound
  rcases (lookup_eq_none_of_known hknown key).1 with hnone | hnone
  · exact Option.some_ne_none value (hroot.symm.trans hnone)
  · exact Option.some_ne_none value (hvalue.symm.trans hnone.2)

theorem agree_of_proxy (hknown : KnownNames device.player)
    (hdevice : around.device = some device)
    (hsynced : device.player.synced = true)
    (hprop : strip propName ∉ positionKeys)
    (hproxy : IsPlayerInterface (strip interfaceName) → device.avProxy = true)
    (invocation : Nat) (byte time : ActionReply) :
    Agree (getRun around interfaceName propName invocation)
        (getAllRun around device interfaceName invocation byte time)
        invocation (strip propName) ↔
      strip interfaceName ≠ serverInterface ∨
        device.player.deviceProps.lookup (strip propName) = none := by
  have hreturns := returns_getRun_iff hdevice hsynced hprop interfaceName
    invocation
  have hall := returnsAll_getAllRun_iff hdevice hsynced hproxy invocation byte time
  have hlists := lists_afterQueries_iff hknown hprop interfaceName byte time
  simp only [Lists, ← hall, ← hreturns] at hlists
  constructor
  · intro hagree
    by_contra hboth
    obtain ⟨hserver, hstored⟩ := not_or.mp hboth
    obtain ⟨value, hvalue⟩ := Option.ne_none_iff_exists'.mp hstored
    have hserver := not_not.mp hserver
    have hreturned := (hagree.value value).mpr
      ((hlists value).mpr (.inr ⟨hserver, hvalue⟩))
    have hfound := (hreturns value).mp hreturned
    rw [hserver] at hfound
    exact lookUpProp_ne_device hknown hvalue hfound
  · intro hcond
    refine ⟨fun value => ?_, fun values hvalues => ?_, ?_⟩
    · rw [hlists value]
      refine (or_iff_left ?_).symm
      rintro ⟨hserver, hvalue⟩
      have hnone := hcond.resolve_left (not_not.mpr hserver)
      exact Option.some_ne_none value (hvalue.symm.trans hnone)
    · have hchanges := changesOnly_afterQueries device.player
        (strip interfaceName) byte time
      exact lookUpProps_nodup (hknown.of_changesOnly (by decide) hchanges)
        ((hall values).mp hvalues)
    · rw [failsUnknown_getRun_iff hdevice hsynced hprop,
        failsUnknown_getAllRun_iff hdevice hsynced hproxy]

theorem agree_of_no_proxy (hdevice : around.device = some device)
    (hsynced : device.player.synced = true)
    (hprop : strip propName ∉ positionKeys)
    (hplayer : IsPlayerInterface (strip interfaceName))
    (hproxy : device.avProxy = false) (invocation : Nat)
    (byte time : ActionReply) :
    Agree (getRun around interfaceName propName invocation)
        (getAllRun around device interfaceName invocation byte time)
        invocation (strip propName) ↔
      lookUpProp device.player (strip interfaceName) (strip propName) =
        .ok none := by
  have hno (answer : Answer) : ¬Answers
      (getAllRun around device interfaceName invocation byte time)
      invocation answer := by
    rw [getAllRun_eq_none hdevice hsynced hproxy hplayer]
    simp [Answers]
  obtain ⟨found, hfound⟩ := lookUpProp_of_known hplayer.known device.player
    (strip propName)
  have hreturns (value : Variant) :
      Returns (getRun around interfaceName propName invocation) invocation value ↔
        found = some value := by
    rw [returns_getRun_iff hdevice hsynced hprop, hfound, Except.ok.injEq]
  rw [hfound, Except.ok.injEq]
  constructor
  · intro hagree
    by_contra hne
    obtain ⟨value, hvalue⟩ := Option.ne_none_iff_exists'.mp hne
    obtain ⟨values, hvalues, -⟩ :=
      (hagree.value value).mp ((hreturns value).mpr hvalue)
    exact hno _ hvalues
  · rintro rfl
    refine ⟨fun value => ?_, fun values hvalues => absurd hvalues (hno _), ?_⟩
    · refine iff_of_false ?_ fun ⟨values, hvalues, _⟩ => hno _ hvalues
      rw [hreturns]
      exact (Option.some_ne_none value).symm
    · refine iff_of_false ?_ fun ⟨message, hfails⟩ => hno _ hfails
      rw [failsUnknown_getRun_iff hdevice hsynced hprop]
      exact not_not.mpr hplayer.known

/--
In a state that is reached and synced the two requests agree exactly when the
name is not one of the device that is asked for at the interface of the server,
and there is a service to ask for the position or nothing to return.
-/
theorem get_agrees_getAll_iff {info : DeviceInfo} {events : List PlayerEvent}
    {last : PlayerRun}
    (hrun : exec (playerStep info) playerRunNew events = some last)
    (hplayer : device.player = last.player)
    (hdevice : around.device = some device)
    (hsynced : device.player.synced = true)
    (hprop : strip propName ∉ positionKeys) (invocation : Nat)
    (byte time : ActionReply) :
    Agree (getRun around interfaceName propName invocation)
        (getAllRun around device interfaceName invocation byte time)
        invocation (strip propName) ↔
      (strip interfaceName ≠ serverInterface ∨
        device.player.deviceProps.lookup (strip propName) = none) ∧
      (device.avProxy = true ∨ ¬IsPlayerInterface (strip interfaceName) ∨
        ¬Stored device.player (strip interfaceName) (strip propName)) := by
  have hknown : KnownNames device.player := by
    rw [hplayer]
    exact knownNames_of_exec hrun
  by_cases hasks : IsPlayerInterface (strip interfaceName) →
      device.avProxy = true
  · rw [agree_of_proxy hknown hdevice hsynced hprop hasks]
    refine (and_iff_left ?_).symm
    by_cases hname : IsPlayerInterface (strip interfaceName)
    · exact .inl (hasks hname)
    · exact .inr (.inl hname)
  · obtain ⟨hname, hproxy⟩ := Classical.not_imp.mp hasks
    rw [Bool.not_eq_true] at hproxy
    have hserver : strip interfaceName ≠ serverInterface :=
      hname.ne_serverInterface
    have hno : ¬device.avProxy = true := by
      rw [hproxy]
      decide
    rw [agree_of_no_proxy hdevice hsynced hprop hname hproxy,
      hname.lookUpProp_eq_none_iff]
    constructor
    · intro hnone
      exact ⟨.inl hserver, .inr (.inr hnone)⟩
    · intro hcond
      exact (hcond.2.resolve_left hno).resolve_left (not_not.mpr hname)

end Agreement

def rendererInfo : DeviceInfo :=
  { bareDescription with friendlyName := some "Renderer" }

def firstRequest : List PlayerEvent := [.request false false]

theorem get_agrees_getAll_identity :
    ∃ last, exec (playerStep rendererInfo) playerRunNew firstRequest =
        some last ∧
      Agree
        (getRun (surroundings (playerDevice last.player)) "" " Identity " 3)
        (getAllRun (surroundings (playerDevice last.player))
          (playerDevice last.player) "" 3 ⟨none, none⟩ ⟨none, some "0:00:10"⟩)
        3 (strip " Identity ") := by
  obtain ⟨last, hrun⟩ : ∃ last, exec (playerStep rendererInfo) playerRunNew
      firstRequest = some last := ⟨_, rfl⟩
  refine ⟨last, hrun, ?_⟩
  have hlast := hrun
  obtain rfl := Option.some.inj hlast
  refine (get_agrees_getAll_iff hrun rfl rfl (by decide +kernel)
    (by decide +kernel) 3 _ _).mpr ⟨.inl ?_, .inl rfl⟩
  decide +kernel

/-- The server lists the name of the device, and does not know it. -/
theorem getAll_lists_unknown :
    ∃ last, exec (playerStep rendererInfo) playerRunNew firstRequest =
        some last ∧
      last.player.synced = true ∧
      Answers
        (getRun (surroundings (playerDevice last.player)) serverInterface
          "FriendlyName" 3) 3
        (.error ⟨.unknownProperty, "Property not defined for object"⟩) ∧
      ¬Agree
        (getRun (surroundings (playerDevice last.player)) serverInterface
          "FriendlyName" 3)
        (getAllRun (surroundings (playerDevice last.player))
          (playerDevice last.player) serverInterface 3 ⟨none, none⟩ ⟨none, none⟩)
        3 (strip "FriendlyName") := by
  obtain ⟨last, hrun⟩ : ∃ last, exec (playerStep rendererInfo) playerRunNew
      firstRequest = some last := ⟨_, rfl⟩
  have hlast := hrun
  obtain rfl := Option.some.inj hlast
  have hinterface : strip serverInterface = serverInterface := by decide +kernel
  refine ⟨_, hrun, by decide +kernel, by decide +kernel, ?_⟩
  rw [agree_of_proxy (knownNames_of_exec hrun) rfl (by decide +kernel)
    (by decide +kernel) (fun _ => rfl)]
  rintro (hother | hnone)
  · exact hother hinterface
  · revert hnone
    decide +kernel

end DleynaRenderer.Task
