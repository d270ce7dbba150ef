import DleynaRenderer.Foundation.NestedCallbacks
import DleynaRenderer.Player.Signals

/-!
# Rendering control events in order

The idle callbacks of rendering control events start in the order in which the
events came, but one that has to synchronise the player first waits in the main
loop, where the callbacks of newer events run.  An update is lost where an older
callback ends after a newer one, where it ends while the maximum volume is zero
or its context is lost, and where the maximum is read anew after the volume has
been divided by it.
-/

namespace DleynaRenderer.Player

open CString EventSystem NestedCallbacks

def carriedVolume (event : RcEvent) : Option Nat :=
  if event.devVolume ≠ gMaxUint then some event.devVolume else none

def carriedMute (event : RcEvent) : Option Nat :=
  if event.mute ≠ gMaxUint then some event.mute else none

structure RcView where
  volume : Option Variant
  mute : Option Variant
  maxVolume : Nat

def rcView (player : PlayerState) : RcView where
  volume := player.prop "Volume"
  mute := player.prop "Mute"
  maxVolume := player.maxVolume

def RcView.apply (event : RcEvent) (view : RcView) : RcView :=
  if view.maxVolume = 0 then view
  else
    { view with
      volume := ((carriedVolume event).map fun volume =>
        Variant.double (volume / view.maxVolume)).or view.volume
      mute := ((carriedMute event).map fun mute =>
        Variant.boolean (mute ≠ 0)).or view.mute }

theorem rcView_prvProcessRcLastChange (event : RcEvent) (player : PlayerState) :
    rcView (prvProcessRcLastChange event player) =
      (rcView player).apply event := by
  have hmax := (changesOnly_prvProcessRcLastChange event player).maxVolume_eq
  unfold RcView.apply
  by_cases hzero : player.maxVolume = 0
  · simp [rcView, prvProcessRcLastChange, hzero]
  · simp only [rcView, hmax, hzero, if_false, RcView.mk.injEq, and_true]
    simp only [prvProcessRcLastChange, hzero, if_false, prop_emit]
    constructor
    · unfold addMute addVolume carriedVolume
      split_ifs <;> simp [Update.start]
    · unfold addMute addVolume carriedMute
      split_ifs <;> simp [Update.start]

def applyEvent (trigger : Option RcEvent) (view : RcView) : RcView :=
  match trigger with
  | none => view
  | some event => view.apply event

theorem rcView_resume (trigger : Option RcEvent) (player : PlayerState) :
    rcView (resume trigger player) = applyEvent trigger (rcView player) := by
  cases trigger with
  | none => rfl
  | some event => exact rcView_prvProcessRcLastChange event player

theorem rcView_of_changesOnly {keys : List String}
    {player other : PlayerState} (h : ChangesOnly keys player other)
    (hvolume : "Volume" ∉ keys) (hmute : "Mute" ∉ keys) :
    rcView other = rcView player := by
  simp only [rcView, h.props _ hvolume, h.props _ hmute, h.maxVolume_eq]

theorem rcView_of_emits {keys : List String} {player next : PlayerState}
    (h : Emits keys player next) (hvolume : "Volume" ∉ keys)
    (hmute : "Mute" ∉ keys) (hmax : next.maxVolume = player.maxVolume) :
    rcView next = rcView player := by
  simp only [rcView, h.prop_eq hvolume, h.prop_eq hmute, hmax]

theorem maxVolume_foldl_addSpeedsAction (parts : List (List Char))
    (update : Update) :
    (parts.foldl addSpeedsAction update).player.maxVolume =
      update.player.maxVolume := by
  induction parts generalizing update with
  | nil => rfl
  | cons part parts ih =>
      rw [List.foldl_cons, ih, addSpeedsAction]
      cases dlnaSpeeds part with
      | none => rfl
      | some speeds =>
          simp only [prvAddDlnaSpeeds]
          split
          · rfl
          · exact (changesOnly_prvAddPlayerSpeedProps _ _ _ _).maxVolume_eq

theorem maxVolume_prvLastChangeCb (info : DeviceInfo) (event : LastChange)
    (player : PlayerState) :
    (prvLastChangeCb info event player).maxVolume = player.maxVolume := by
  have hmeta := (changesOnly_addMetaData event (.start player)).maxVolume_eq
  have hactions (update : Update) :
      (addActions info event update).player.maxVolume =
        update.player.maxVolume := by
    unfold addActions
    cases event.actions with
    | none => rfl
    | some actions =>
        have hbooleans (props : List (String × Bool)) (update : Update) :=
          (changesOnly_changeBooleans props update).maxVolume_eq
        simp only [prvAddActions, hbooleans, maxVolume_foldl_addSpeedsAction]
        rfl
  have hspeed (update : Update) :
      (addPlaySpeed event update).player.maxVolume =
        update.player.maxVolume := by
    unfold addPlaySpeed
    cases event.playSpeed <;> rfl
  have hstate (update : Update) :=
    (changesOnly_addState event update).maxVolume_eq
  have hcounter (key : String) (counter : Nat) (update : Update) :=
    (changesOnly_addCounter key counter update).maxVolume_eq
  simp only [prvLastChangeCb, prvEmitSignalPropertiesChanged, hcounter, hstate,
    hspeed, hactions, hmeta]
  rfl

theorem rcView_prvLastChangeCb (info : DeviceInfo) (event : LastChange)
    (player : PlayerState) :
    rcView (prvLastChangeCb info event player) = rcView player := by
  have hkeys : lastChangeKeys event ⊆ ["Metadata"] ++
      ((speedKeys ++ actionPropKeys) ++
        ["Rate", "PlaybackStatus", "NumberOfTracks", "CurrentTrack"]) :=
    lastChangeKeys_subset (by decide) (by decide) (by decide) event
  exact rcView_of_emits (emits_prvLastChangeCb info event player)
    (fun hmem => absurd (hkeys hmem) (by decide))
    (fun hmem => absurd (hkeys hmem) (by decide))
    (maxVolume_prvLastChangeCb info event player)

theorem rcView_prvResetTransportSpeedProps (player : PlayerState) :
    rcView (prvResetTransportSpeedProps player) = rcView player := by
  have hsubset : resetKeys player ⊆ speedKeys ++ ["Rate"] := by
    refine List.append_subset.mpr ⟨?_, ?_⟩
    · split
      · exact List.nil_subset _
      · exact List.Subset.trans (speedPropKeys_sublist _ _ _).subset
          (List.subset_append_left _ _)
    · exact List.Subset.trans (optionalKey_sublist _ _).subset
        (List.subset_append_right _ _)
  have hspeeds (update : Update) :
      (resetSpeeds update).player.maxVolume = update.player.maxVolume :=
    (changesOnly_prvAddPlayerSpeedProps _ _ _ update).maxVolume_eq
  rcases emits_prvResetTransportSpeedProps player with hsame | hemits
  · rw [hsame]
    rfl
  · refine rcView_of_emits hemits (fun hmem => absurd (hsubset hmem) (by decide))
      (fun hmem => absurd (hsubset hmem) (by decide)) ?_
    unfold prvResetTransportSpeedProps
    simp only
    split_ifs <;> simp [prvEmitSignalPropertiesChanged, resetRate,
      prvChangeProps, hspeeds, Update.start]

theorem rcView_prvSetRate {player next : PlayerState} {value : Variant}
    (hok : prvSetRate player value = .ok next) :
    rcView next = rcView player := by
  rcases prvSetRate_cases hok with rfl | ⟨published, rate, rfl⟩
  · rfl
  · simp [rcView, prvEmitSignalPropertiesChanged, prvChangeProps,
      PlayerState.prop, Update.start]

theorem rcView_finishUpdate (player : PlayerState) :
    rcView (finishUpdate player) = rcView player := by
  have hspeeds := rcView_of_changesOnly
    (changesOnly_prvAddPlayerSpeedProps player.minRate player.maxRate
      player.mprisTransportPlaySpeeds (.start player)) (by decide) (by decide)
  have hactions := rcView_of_changesOnly
    (changesOnly_changeBooleans allActions
      (prvAddPlayerSpeedProps player.minRate player.maxRate
        player.mprisTransportPlaySpeeds (.start player))) (by decide) (by decide)
  exact hactions.trans hspeeds

theorem rcView_prvGetAvServiceStatesValues (allowedSpeeds : List String)
    (bytePosition : Bool) (player : PlayerState) :
    rcView (prvGetAvServiceStatesValues allowedSpeeds bytePosition player) =
      rcView player := by
  obtain ⟨transport, mpris, minRate, maxRate, hread⟩ :=
    prvGetAvServiceStatesValues_eq allowedSpeeds bytePosition player
  rw [hread]
  rfl

/-! ## The callback that ends at an event -/

def endedCallback (info : DeviceInfo) (run : PlayerRun) (event : PlayerEvent) :
    Option RcEvent :=
  match syncOutcome info run event with
  | some (.introspect _ _) => none
  | some .lostDevice => run.syncs.head?.bind SyncFrame.trigger
  | some (.finish _ trigger) => trigger
  | none =>
      match event with
      | .rcIdle _ _ => run.rcEvents.head?
      | _ => none

def lostAt (info : DeviceInfo) (run : PlayerRun) (event : PlayerEvent) : Bool :=
  syncOutcome info run event = some .lostDevice

def nextMaximum (info : DeviceInfo) (run : PlayerRun) (event : PlayerEvent) :
    Nat :=
  match syncOutcome info run event with
  | some (.finish player _) => player.maxVolume
  | _ => run.player.maxVolume

/-- The maximum volume an ended callback is applied with, zero if it is not. -/
def appliedMaximum (info : DeviceInfo) (run : PlayerRun) (event : PlayerEvent) :
    Nat :=
  if lostAt info run event then 0 else nextMaximum info run event

theorem rcView_plainEffect {info : DeviceInfo} {run : PlayerRun}
    {event : PlayerEvent} {player : PlayerState}
    (hplain : syncOutcome info run event = none)
    (heffect : plainEffect info run event = some player) :
    rcView player =
      applyEvent (endedCallback info run event) (rcView run.player) := by
  simp only [endedCallback, hplain]
  cases event with
  | lastChange change =>
      obtain rfl := Option.some.inj heffect
      exact rcView_prvLastChangeCb info change _
  | rcLastChange | request | sinkChange =>
      obtain rfl := Option.some.inj heffect
      rfl
  | rcIdle =>
      obtain ⟨change, hhead, rfl⟩ := Option.map_eq_some_iff.mp heffect
      rw [rcView_prvProcessRcLastChange]
      simp [hhead, applyEvent]
  | avIntrospection | rcIntrospection => contradiction
  | openUri =>
      obtain rfl := Option.some.inj heffect
      exact rcView_prvResetTransportSpeedProps _
  | setRate value =>
      rcases plainEffect_setRate heffect with rfl | hset
      · rfl
      · exact rcView_prvSetRate hset
  | positionReply result =>
      obtain rfl := Option.some.inj heffect
      exact rcView_of_changesOnly (changesOnly_prvGetPositionInfoCb result _)
        (by decide) (by decide)
  | bytePositionReply result =>
      obtain rfl := Option.some.inj heffect
      exact rcView_of_changesOnly
        (changesOnly_prvGetBytePositionInfoCb result _) (by decide) (by decide)
  | allBytePositionReply result =>
      obtain rfl := Option.some.inj heffect
      exact rcView_of_changesOnly
        (changesOnly_prvGetAllBytePositionInfoCb result _) (by decide)
        (by decide)
  | allPositionReply relCnt result =>
      obtain rfl := Option.some.inj heffect
      exact rcView_of_changesOnly
        (changesOnly_prvGetAllPositionInfoCb relCnt result _) (by decide)
        (by decide)

def callbacks (run : PlayerRun) : Callbacks RcEvent where
  queue := run.rcEvents
  waiting := run.syncs.map SyncFrame.trigger

def SyncOutcome.For (trigger : Option RcEvent) : SyncOutcome → Prop
  | .introspect _ frame => frame.trigger = trigger
  | .lostDevice => False
  | .finish _ other => other = trigger

theorem for_nextIntrospection (rcProxy : Bool) (trigger : Option RcEvent)
    (player : PlayerState) :
    (nextIntrospection rcProxy trigger player).For trigger := by
  unfold nextIntrospection
  split <;> rfl

theorem for_startSync (info : DeviceInfo) (avProxy rcProxy : Bool)
    (trigger : Option RcEvent) (player : PlayerState) :
    (startSync info avProxy rcProxy trigger player).For trigger := by
  unfold startSync
  split
  · rfl
  · exact for_nextIntrospection _ _ _

def returns : PlayerEvent → Bool
  | .avIntrospection _ => true
  | .rcIntrospection _ => true
  | _ => false

theorem syncOutcome_for {info : DeviceInfo} {run : PlayerRun}
    {event : PlayerEvent} {outcome : SyncOutcome}
    (h : syncOutcome info run event = some outcome) :
    (∃ avProxy rcProxy, event = .request avProxy rcProxy ∧ outcome.For none) ∨
      (∃ avProxy rcProxy change rest, event = .rcIdle avProxy rcProxy ∧
        run.rcEvents = change :: rest ∧ outcome.For (some change)) ∨
      (returns event = true ∧ ∃ frame rest, run.syncs = frame :: rest ∧
        (outcome = .lostDevice ∨ outcome.For frame.trigger)) := by
  unfold syncOutcome at h
  split at h
  case h_1 avProxy rcProxy =>
    split_ifs at h
    obtain rfl := Option.some.inj h
    exact .inl ⟨_, _, rfl, for_startSync _ _ _ _ _⟩
  case h_2 avProxy rcProxy =>
    split at h
    · contradiction
    case h_2 change rest hqueue =>
      split_ifs at h
      obtain rfl := Option.some.inj h
      exact .inr (.inl ⟨_, _, change, rest, rfl, hqueue,
        for_startSync _ _ _ _ _⟩)
  case h_3 result =>
    split at h
    case h_1 rcProxy trigger rest hsyncs =>
      obtain rfl := Option.some.inj h
      refine .inr (.inr ⟨rfl, _, rest, hsyncs, ?_⟩)
      cases result with
      | lostDevice => exact .inl rfl
      | failed | read => exact .inr (for_nextIntrospection _ _ _)
    · contradiction
  case h_4 result =>
    split at h
    case h_1 rcProxy trigger rest hsyncs =>
      obtain rfl := Option.some.inj h
      refine .inr (.inr ⟨rfl, _, rest, hsyncs, ?_⟩)
      cases result with
      | lostDevice => exact .inl rfl
      | failed | read => exact .inr rfl
    · contradiction
  case h_5 => contradiction

theorem maxVolume_nextIntrospection {rcProxy : Bool}
    {trigger : Option RcEvent} {player next : PlayerState} {frame : SyncFrame}
    (h : nextIntrospection rcProxy trigger player = .introspect next frame) :
    next.maxVolume = player.maxVolume := by
  unfold nextIntrospection at h
  split_ifs at h
  obtain ⟨rfl, -⟩ := SyncOutcome.introspect.inj h
  rfl

theorem maxVolume_of_introspect {info : DeviceInfo} {run : PlayerRun}
    {event : PlayerEvent} {player : PlayerState} {frame : SyncFrame}
    (h : syncOutcome info run event = some (.introspect player frame)) :
    player.maxVolume = run.player.maxVolume := by
  have hstart {avProxy rcProxy : Bool} {trigger : Option RcEvent}
      (hstart : startSync info avProxy rcProxy trigger run.player =
        .introspect player frame) :
      player.maxVolume = run.player.maxVolume := by
    unfold startSync at hstart
    split at hstart
    · obtain ⟨rfl, -⟩ := SyncOutcome.introspect.inj hstart
      rfl
    · exact (maxVolume_nextIntrospection hstart).trans rfl
  unfold syncOutcome at h
  split at h
  case h_1 =>
    split_ifs at h
    exact hstart (Option.some.inj h)
  case h_2 =>
    split at h
    · contradiction
    · split_ifs at h
      exact hstart (Option.some.inj h)
  case h_3 result =>
    split at h
    · cases result with
      | lostDevice => simp [afterAvIntrospection] at h
      | failed => exact maxVolume_nextIntrospection (Option.some.inj h)
      | read allowedSpeeds bytePosition =>
          have hmax := maxVolume_nextIntrospection (Option.some.inj h)
          have hview := rcView_prvGetAvServiceStatesValues allowedSpeeds
            bytePosition run.player
          exact hmax.trans (congrArg RcView.maxVolume hview)
    · contradiction
  case h_4 result =>
    split at h
    · cases result <;> simp [afterRcIntrospection] at h
    · contradiction
  case h_5 => contradiction

theorem rcView_of_outcome {info : DeviceInfo} {run : PlayerRun}
    {event : PlayerEvent} {outcome : SyncOutcome} {player : PlayerState}
    (houtcome : syncOutcome info run event = some outcome)
    (hplayer : outcome.player = some player) :
    rcView player = { rcView run.player with maxVolume := player.maxVolume } :=
  syncOutcome_cases
    (motive := fun player => rcView player =
      { rcView run.player with maxVolume := player.maxVolume }) rfl rfl
    (fun allowedSpeeds bytePosition _ => by
      have hview := rcView_prvGetAvServiceStatesValues allowedSpeeds
        bytePosition run.player
      have hmax := congrArg RcView.maxVolume hview
      rw [hview, show (prvGetAvServiceStatesValues allowedSpeeds bytePosition
        run.player).maxVolume = run.player.maxVolume from hmax]
      rfl)
    (fun _ => rfl) houtcome hplayer

/-- The view after an event: the maximum is read, then the callback applied. -/
theorem rcView_playerStep {info : DeviceInfo} {run next : PlayerRun}
    {event : PlayerEvent} (hstep : playerStep info run event = some next) :
    rcView next.player =
      if lostAt info run event then rcView run.player
      else applyEvent (endedCallback info run event)
        { rcView run.player with maxVolume := nextMaximum info run event } := by
  unfold playerStep at hstep
  cases houtcome : syncOutcome info run event with
  | none =>
      simp only [houtcome] at hstep
      obtain ⟨player, heffect, rfl⟩ := Option.map_eq_some_iff.mp hstep
      simp only [lostAt, nextMaximum, houtcome]
      exact rcView_plainEffect houtcome heffect
  | some outcome =>
      simp only [houtcome, Option.some.injEq] at hstep
      subst hstep
      cases outcome with
      | introspect player frame =>
          have hview := rcView_of_outcome houtcome rfl
          have hmax := maxVolume_of_introspect houtcome
          simp only [lostAt, nextMaximum, endedCallback, houtcome, proceed,
            applyEvent]
          rw [hview, hmax]
          rfl
      | lostDevice =>
          simp [lostAt, houtcome, proceed, takeEvent_player]
      | finish player trigger =>
          have hview := rcView_of_outcome houtcome rfl
          simp only [lostAt, nextMaximum, endedCallback, houtcome, proceed,
            rcView_resume, rcView_finishUpdate]
          rw [hview]
          rfl

theorem takeEvent_of_returns {run : PlayerRun} {event : PlayerEvent}
    (hreturns : returns event = true) :
    takeEvent run event = { run with syncs := run.syncs.tail } := by
  cases event <;> first | rfl | contradiction

def CallbacksMove (info : DeviceInfo) (run next : PlayerRun)
    (event : PlayerEvent) : Prop :=
  Moves (callbacks run) (endedCallback info run event) (callbacks next) ∧
    (endedCallback info run event ≠ none →
      (returns event = true ↔ next.syncs.length < run.syncs.length))

theorem callbacks_move_of_plain {info : DeviceInfo} {run : PlayerRun}
    {event : PlayerEvent} {player : PlayerState}
    (hplain : syncOutcome info run event = none)
    (heffect : plainEffect info run event = some player)
    (hevent : ∀ change, event ≠ .rcLastChange change) :
    CallbacksMove info run
      { queueEvent (takeEvent run event) event with player := player } event := by
  simp only [CallbacksMove, endedCallback, hplain]
  cases event with
  | rcIdle avProxy rcProxy =>
      obtain ⟨change, hhead, -⟩ := Option.map_eq_some_iff.mp heffect
      obtain ⟨rest, hqueue⟩ := List.head?_eq_some_iff.mp hhead
      simp only [callbacks, queueEvent, takeEvent, hqueue, List.head?_cons,
        List.tail_cons, returns]
      exact ⟨.run change rest _, by simp⟩
  | rcLastChange change => exact absurd rfl (hevent change)
  | avIntrospection | rcIntrospection => contradiction
  | _ => exact ⟨.stay _, by simp⟩

theorem callbacks_move_of_outcome {info : DeviceInfo} {run : PlayerRun}
    {event : PlayerEvent} {outcome : SyncOutcome}
    (houtcome : syncOutcome info run event = some outcome) :
    CallbacksMove info run (proceed (takeEvent run event) outcome) event := by
  unfold CallbacksMove
  rcases syncOutcome_for houtcome with ⟨avProxy, rcProxy, rfl, hfor⟩ |
    ⟨avProxy, rcProxy, change, rest, rfl, hqueue, hfor⟩ |
    ⟨hreturns, frame, rest, hsyncs, hfor⟩
  · cases outcome with
    | lostDevice => contradiction
    | introspect player frame =>
        simp only [endedCallback, houtcome, callbacks, proceed, takeEvent,
          List.map_cons, show frame.trigger = none from hfor]
        exact ⟨.call _ _, by simp⟩
    | finish player trigger =>
        obtain rfl : trigger = none := hfor
        simp only [endedCallback, houtcome]
        exact ⟨.stay _, by simp⟩
  · cases outcome with
    | lostDevice => contradiction
    | introspect player frame =>
        simp only [endedCallback, houtcome, callbacks, proceed, takeEvent,
          hqueue, List.tail_cons, List.map_cons,
          show frame.trigger = some change from hfor]
        exact ⟨.start _ _ _, by simp⟩
    | finish player trigger =>
        obtain rfl : trigger = some change := hfor
        simp only [endedCallback, houtcome, callbacks, proceed, takeEvent,
          hqueue, List.tail_cons, returns]
        exact ⟨.run _ _ _, by simp⟩
  · rw [takeEvent_of_returns hreturns]
    cases outcome with
    | lostDevice =>
        simp only [endedCallback, houtcome, callbacks, proceed, hsyncs,
          List.head?_cons, Option.bind_some, List.tail_cons, List.map_cons,
          List.length_cons, hreturns]
        exact ⟨.leave _ _ _, by simp⟩
    | introspect player other =>
        have htrigger : other.trigger = frame.trigger := by
          simpa [SyncOutcome.For] using hfor
        simp only [endedCallback, houtcome, callbacks, proceed, hsyncs,
          List.tail_cons, List.map_cons, htrigger]
        exact ⟨.stay _, by simp⟩
    | finish player trigger =>
        obtain rfl : trigger = frame.trigger := by
          simpa [SyncOutcome.For] using hfor
        simp only [endedCallback, houtcome, callbacks, proceed, hsyncs,
          List.tail_cons, List.map_cons, List.length_cons, hreturns]
        exact ⟨.leave _ _ _, by simp⟩

theorem callbacks_move {info : DeviceInfo} {run next : PlayerRun}
    {event : PlayerEvent} (hstep : playerStep info run event = some next)
    (hevent : ∀ change, event ≠ .rcLastChange change) :
    CallbacksMove info run next event := by
  unfold playerStep at hstep
  cases houtcome : syncOutcome info run event with
  | none =>
      simp only [houtcome] at hstep
      obtain ⟨player, heffect, rfl⟩ := Option.map_eq_some_iff.mp hstep
      exact callbacks_move_of_plain houtcome heffect hevent
  | some outcome =>
      simp only [houtcome, Option.some.injEq] at hstep
      subst hstep
      exact callbacks_move_of_outcome houtcome

/-! ## The run with what has been heard -/

/-- `divisor` is the maximum that the latest volume has been divided by. -/
structure RcRun where
  run : PlayerRun
  volume : Track Nat
  mute : Track Nat
  divisor : Nat
  deriving DecidableEq

def rcRunNew : RcRun := ⟨playerRunNew, .new, .new, 0⟩

/-- The call that returns is that of a callback whose value is stale. -/
def overtaken (stale : Nat) (run : PlayerRun) (event : PlayerEvent) : Bool :=
  returns event && run.syncs.length ≤ stale

def volumeEnds (info : DeviceInfo) (s : RcRun) (event : PlayerEvent) : Bool :=
  ((endedCallback info s.run event).bind carriedVolume).isSome &&
    !overtaken s.volume.stale s.run event

def rcStep (info : DeviceInfo) (s : RcRun) (event : PlayerEvent) :
    Option RcRun :=
  (playerStep info s.run event).map fun next =>
    match event with
    | .rcLastChange change =>
        { s with
          run := next
          volume := s.volume.receive carriedVolume change
          mute := s.mute.receive carriedMute change }
    | _ =>
        let ended := endedCallback info s.run event
        { run := next
          volume := s.volume.advance carriedVolume ended next.syncs.length
          mute := s.mute.advance carriedMute ended next.syncs.length
          divisor :=
            if volumeEnds info s event then appliedMaximum info s.run event
            else s.divisor }

def Settled (run : PlayerRun) : Prop :=
  run.rcEvents = [] ∧ ∀ frame ∈ run.syncs, frame.trigger = none

def LatestPublished (s : RcRun) : Prop :=
  Settled s.run →
    (∀ mute, s.mute.latest = some mute →
      s.run.player.prop "Mute" = some (.boolean (mute ≠ 0))) ∧
    (0 < s.run.player.maxVolume → ∀ volume, s.volume.latest = some volume →
      s.run.player.prop "Volume" =
        some (.double (volume / s.run.player.maxVolume)))

/-- A mute state is applied unless a newer one has been. -/
def MuteInOrder (info : DeviceInfo) (s : RcRun) (event : PlayerEvent) : Prop :=
  ((endedCallback info s.run event).bind carriedMute).isSome →
    (appliedMaximum info s.run event = 0 ↔
      overtaken s.mute.stale s.run event = true)

/-- A volume is applied unless a newer one has been, or there is no maximum. -/
def VolumeInOrder (info : DeviceInfo) (s : RcRun) (event : PlayerEvent) :
    Prop :=
  ((endedCallback info s.run event).bind carriedVolume).isSome →
    appliedMaximum info s.run event =
      if overtaken s.volume.stale s.run event then 0
      else nextMaximum info s.run event

/-- The maximum does not change once the latest volume has been divided by it. -/
def MaximumKept (info : DeviceInfo) (s : RcRun) (event : PlayerEvent) : Prop :=
  s.volume.latest = none ∨
    upcoming carriedVolume s.volume.stale (callbacks s.run) ≠ none ∨
    nextMaximum info s.run event ∈ [s.run.player.maxVolume, 0, s.divisor]

def RcInOrder (info : DeviceInfo) (s : RcRun) (event : PlayerEvent) : Prop :=
  MuteInOrder info s event ∧ VolumeInOrder info s event ∧
    MaximumKept info s event

instance (info : DeviceInfo) (s : RcRun) (event : PlayerEvent) :
    Decidable (RcInOrder info s event) := by
  unfold RcInOrder MuteInOrder VolumeInOrder MaximumKept
  infer_instance

theorem maxVolume_playerStep {info : DeviceInfo} {run next : PlayerRun}
    {event : PlayerEvent} (hstep : playerStep info run event = some next) :
    next.player.maxVolume = nextMaximum info run event := by
  have hview := congrArg RcView.maxVolume (rcView_playerStep hstep)
  rw [show next.player.maxVolume = (rcView next.player).maxVolume from rfl,
    hview]
  split_ifs with hlost
  · have hlost : syncOutcome info run event = some .lostDevice := by
      simpa [lostAt] using hlost
    simp [nextMaximum, hlost, rcView]
  · cases endedCallback info run event with
    | none => rfl
    | some change =>
        simp only [applyEvent, RcView.apply]
        split_ifs <;> rfl

def ShowsAs (field : RcView → Option Variant) (carried : RcEvent → Option Nat)
    (shown : Nat → Nat → Variant) : Prop :=
  ∀ change view, field (view.apply change) =
    if view.maxVolume = 0 then field view
    else ((carried change).map (shown view.maxVolume)).or (field view)

theorem showsAs_volume :
    ShowsAs RcView.volume carriedVolume fun maximum volume =>
      .double (volume / maximum) := by
  intro change view
  unfold RcView.apply
  cases carriedVolume change <;> split_ifs <;> rfl

theorem showsAs_mute :
    ShowsAs RcView.mute carriedMute fun _ mute => .boolean (mute ≠ 0) := by
  intro change view
  unfold RcView.apply
  split_ifs <;> rfl

/-- A property is that of the callback that ends, if it is applied. -/
theorem rcView_field_playerStep {info : DeviceInfo} {run next : PlayerRun}
    {event : PlayerEvent} (hstep : playerStep info run event = some next)
    {field : RcView → Option Variant} {carried : RcEvent → Option Nat}
    {shown : Nat → Nat → Variant} (hshows : ShowsAs field carried shown)
    (hfield : ∀ view maximum, field { view with maxVolume := maximum } =
      field view) :
    field (rcView next.player) =
      if appliedMaximum info run event = 0 then field (rcView run.player)
      else (((endedCallback info run event).bind carried).map
        (shown (appliedMaximum info run event))).or
          (field (rcView run.player)) := by
  rw [rcView_playerStep hstep]
  unfold appliedMaximum
  by_cases hlost : lostAt info run event = true
  · simp [hlost]
  · simp only [hlost, Bool.false_eq_true, if_false]
    cases endedCallback info run event with
    | none => simp [applyEvent, hfield]
    | some change => simp [applyEvent, hshows change, hfield]

def MutePublished (player : PlayerState) (mute : Nat) : Prop :=
  player.prop "Mute" = some (.boolean (mute ≠ 0))

/-- While there is no maximum the published volume may be an older one. -/
def VolumePublished (divisor : Nat) (player : PlayerState) (volume : Nat) :
    Prop :=
  player.maxVolume ∈ [0, divisor] ∧
    (divisor ≠ 0 →
      player.prop "Volume" = some (.double (volume / divisor)))

structure RcInv (s : RcRun) : Prop where
  mute : Tracks carriedMute (MutePublished s.run.player) (callbacks s.run)
    s.mute
  volume : Tracks carriedVolume (VolumePublished s.divisor s.run.player)
    (callbacks s.run) s.volume

theorem rcInv_new : RcInv rcRunNew := ⟨tracks_new, tracks_new⟩

theorem RcInv.latestPublished {s : RcRun} (hinv : RcInv s) :
    LatestPublished s := by
  rintro ⟨hqueue, hframes⟩
  have hwaiting : ∀ trigger ∈ (callbacks s.run).waiting, trigger = none := by
    intro trigger hmem
    obtain ⟨frame, hframe, rfl⟩ := List.mem_map.mp hmem
    exact hframes frame hframe
  constructor
  · intro mute hlatest
    exact hinv.mute.effective_of_settled hqueue hwaiting hlatest
  · intro hmax volume hlatest
    obtain ⟨hkept, hvolume⟩ :=
      hinv.volume.effective_of_settled hqueue hwaiting hlatest
    have hdivisor : s.run.player.maxVolume = s.divisor := by
      rcases List.mem_cons.mp hkept with hzero | hsame
      · omega
      · exact List.mem_singleton.mp hsame
    rw [hdivisor]
    exact hvolume (by omega)

theorem overtaken_iff_superseded {info : DeviceInfo} {run next : PlayerRun}
    {event : PlayerEvent} (hstep : playerStep info run event = some next)
    (hevent : ∀ change, event ≠ .rcLastChange change)
    (hended : endedCallback info run event ≠ none) (stale : Nat) :
    overtaken stale run event = true ↔
      Superseded stale (callbacks run) (callbacks next) := by
  have hreturns := (callbacks_move hstep hevent).2 hended
  simp [overtaken, Superseded, callbacks, hreturns]

theorem overtaken_of_superseded {info : DeviceInfo} {run next : PlayerRun}
    {event : PlayerEvent} {carried : RcEvent → Option Nat} {stale ending : Nat}
    (hstep : playerStep info run event = some next)
    (hevent : ∀ change, event ≠ .rcLastChange change)
    (hstale : ∀ change ending, endedCallback info run event = some change →
      carried change = some ending →
        Superseded stale (callbacks run) (callbacks next))
    (hcarried : (endedCallback info run event).bind carried = some ending) :
    overtaken stale run event = true := by
  obtain ⟨change, hended, hchange⟩ := Option.bind_eq_some_iff.mp hcarried
  rw [overtaken_iff_superseded hstep hevent (by simp [hended])]
  exact hstale change ending hended hchange

/-- What ends is applied, and what is in effect stays, in an ordered step. -/
theorem tracks_mute {info : DeviceInfo} {s : RcRun} {next : PlayerRun}
    {event : PlayerEvent} (hinv : RcInv s)
    (hguard : MuteInOrder info s event)
    (hstep : playerStep info s.run event = some next)
    (hevent : ∀ change, event ≠ .rcLastChange change) :
    Tracks carriedMute (MutePublished next.player) (callbacks next)
      (s.mute.advance carriedMute (endedCallback info s.run event)
        next.syncs.length) := by
  have hmove := (callbacks_move hstep hevent).1
  have hmute : next.player.prop "Mute" = _ :=
    rcView_field_playerStep hstep showsAs_mute fun _ _ => rfl
  have hdepth : next.syncs.length = (callbacks next).waiting.length := by
    simp [callbacks]
  rw [hdepth]
  refine hinv.mute.advance hmove ?_ ?_
  · intro change mute hended hcarried hfresh
    have hiff := hguard (by simp [hended, hcarried])
    have happlied : appliedMaximum info s.run event ≠ 0 := by
      rw [ne_eq, hiff, overtaken_iff_superseded hstep hevent (by simp [hended])]
      exact hfresh
    rw [MutePublished, hmute, if_neg happlied]
    simp [hended, hcarried]
  · intro mute _ _ hstale heffective
    rw [MutePublished, hmute]
    split_ifs with hzero
    · exact heffective
    · cases hcarried : (endedCallback info s.run event).bind carriedMute with
      | none => simpa [MutePublished, rcView] using heffective
      | some ending =>
          have hiff := hguard (by simp [hcarried])
          have hovertaken :=
            overtaken_of_superseded hstep hevent hstale hcarried
          exact absurd (hiff.mpr hovertaken) hzero

theorem tracks_volume {info : DeviceInfo} {s : RcRun} {next : PlayerRun}
    {event : PlayerEvent} (hinv : RcInv s)
    (hguard : VolumeInOrder info s event) (hkept : MaximumKept info s event)
    (hstep : playerStep info s.run event = some next)
    (hevent : ∀ change, event ≠ .rcLastChange change) :
    Tracks carriedVolume
      (VolumePublished
        (if volumeEnds info s event then appliedMaximum info s.run event
        else s.divisor) next.player) (callbacks next)
      (s.volume.advance carriedVolume (endedCallback info s.run event)
        next.syncs.length) := by
  have hmove := (callbacks_move hstep hevent).1
  have hvolume : next.player.prop "Volume" = _ :=
    rcView_field_playerStep hstep showsAs_volume fun _ _ => rfl
  have hmax := maxVolume_playerStep hstep
  have hdepth : next.syncs.length = (callbacks next).waiting.length := by
    simp [callbacks]
  rw [hdepth]
  refine hinv.volume.advance hmove ?_ ?_
  · intro change volume hended hcarried hfresh
    have hends : overtaken s.volume.stale s.run event = false := by
      rw [Bool.eq_false_iff, ne_eq,
        overtaken_iff_superseded hstep hevent (by simp [hended])]
      exact hfresh
    have happlied := hguard (by simp [hended, hcarried])
    simp only [hends, Bool.false_eq_true, if_false] at happlied
    have hvolumeEnds : volumeEnds info s event = true := by
      simp [volumeEnds, hended, hcarried, hends]
    rw [if_pos hvolumeEnds]
    refine ⟨by simp [hmax, happlied], fun hne => ?_⟩
    rw [hvolume, if_neg hne]
    simp [hended, hcarried]
  · rintro volume hlatest hupcoming hstale ⟨hheld, hpublished⟩
    have hovertaken {ending : Nat}
        (hcarried : (endedCallback info s.run event).bind carriedVolume =
          some ending) : overtaken s.volume.stale s.run event = true :=
      overtaken_of_superseded hstep hevent hstale hcarried
    have hvolumeEnds : volumeEnds info s event = false := by
      cases hcarried : (endedCallback info s.run event).bind carriedVolume with
      | none => simp [volumeEnds, hcarried]
      | some ending => simp [volumeEnds, hovertaken hcarried]
    rw [if_neg (by simp [hvolumeEnds])]
    constructor
    · rw [hmax]
      rcases hkept with hnone | hsome | hmem
      · rw [hnone] at hlatest
        contradiction
      · exact absurd hupcoming hsome
      · simp only [List.mem_cons, List.not_mem_nil, or_false] at hmem hheld ⊢
        omega
    · intro hdivisor
      rw [hvolume]
      split_ifs with hzero
      · exact hpublished hdivisor
      · cases hcarried : (endedCallback info s.run event).bind carriedVolume with
        | none => simpa [rcView] using hpublished hdivisor
        | some ending =>
            have happlied := hguard (by simp [hcarried])
            rw [if_pos (hovertaken hcarried)] at happlied
            exact absurd happlied hzero

theorem rcInv_rcStep {info : DeviceInfo} {s next : RcRun} {event : PlayerEvent}
    (hinv : RcInv s) (hguard : RcInOrder info s event)
    (hstep : rcStep info s event = some next) : RcInv next := by
  obtain ⟨run, hrun, rfl⟩ := Option.map_eq_some_iff.mp hstep
  obtain ⟨hmute, hvolume, hkept⟩ := hguard
  by_cases hevent : ∃ change, event = .rcLastChange change
  · obtain ⟨change, rfl⟩ := hevent
    obtain rfl : { s.run with rcEvents := s.run.rcEvents ++ [change] } = run :=
      Option.some.inj hrun
    exact ⟨hinv.mute.receive change, hinv.volume.receive change⟩
  · simp only [not_exists] at hevent
    have hadvanced : RcInv
        { run := run
          volume := s.volume.advance carriedVolume
            (endedCallback info s.run event) run.syncs.length
          mute := s.mute.advance carriedMute (endedCallback info s.run event)
            run.syncs.length
          divisor :=
            if volumeEnds info s event then appliedMaximum info s.run event
            else s.divisor } :=
      ⟨tracks_mute hinv hmute hrun hevent,
        tracks_volume hinv hvolume hkept hrun hevent⟩
    cases event with
    | rcLastChange change => exact absurd rfl (hevent change)
    | _ => exact hadvanced

/--
In a run whose steps keep the order, the latest volume and the latest mute state
are published whenever all callbacks have run.
-/
theorem latest_rc_values_published (info : DeviceInfo)
    (events : List PlayerEvent)
    (horder : Meets (rcStep info) (RcInOrder info) rcRunNew events) :
    Always (rcStep info) LatestPublished rcRunNew events :=
  guarded_run_always RcInv (fun _ => RcInv.latestPublished)
    (fun _ _ _ => rcInv_rcStep) rcInv_new horder

def newerVolumeFirst : List PlayerEvent :=
  [.rcLastChange ⟨10, gMaxUint⟩, .rcLastChange ⟨20, gMaxUint⟩,
   .rcIdle false true, .rcIdle false true,
   .rcIntrospection (.read (some 100)), .rcIntrospection (.read (some 100))]

theorem older_volume_published_last :
    ∃ last, exec (rcStep bareDescription) rcRunNew newerVolumeFirst =
        some last ∧ Settled last.run ∧ ¬ LatestPublished last := by
  have hrun : (exec (rcStep bareDescription) rcRunNew newerVolumeFirst).map
      (fun last => (last.run.rcEvents, last.run.syncs,
        last.run.player.maxVolume, last.volume.latest,
        last.run.player.prop "Volume")) =
      some ([], [], 100, some 20, some (.double (1 / 10))) := by
    decide +kernel
  obtain ⟨last, hexec, hlast⟩ := Option.map_eq_some_iff.mp hrun
  simp only [Prod.mk.injEq] at hlast
  obtain ⟨hqueue, hsyncs, hmax, hlatest, hvolume⟩ := hlast
  have hsettled : Settled last.run := ⟨hqueue, by simp [hsyncs]⟩
  refine ⟨last, hexec, hsettled, fun hpublished => ?_⟩
  have hfinal := (hpublished hsettled).2 (by omega) 20 hlatest
  rw [hvolume, hmax] at hfinal
  exact absurd hfinal (by decide +kernel)

/-- Two nested callbacks that carry different fields, and a third one. -/
def nestedFieldsApart : List PlayerEvent :=
  [.rcLastChange ⟨gMaxUint, 1⟩, .rcLastChange ⟨20, gMaxUint⟩,
   .rcIdle false true, .rcIdle false true,
   .rcIntrospection (.read (some 100)), .rcIntrospection (.read (some 100)),
   .rcLastChange ⟨50, 0⟩, .rcIdle false true]

theorem latest_rc_values_published_apart :
    Always (rcStep bareDescription) LatestPublished rcRunNew
      nestedFieldsApart :=
  latest_rc_values_published bareDescription nestedFieldsApart
    (by decide +kernel)

end DleynaRenderer.Player
