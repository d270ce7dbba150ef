import DleynaRenderer.Player.Run

/-!
# The transport controls over a run

What a client may do with a renderer is published from the transport actions
of its events.  The synchronisation publishes that everything is possible, at
whatever time it ends, so what the renderer has reported survives only when the
latest report comes after it.
-/

namespace DleynaRenderer.Player

open CString EventSystem

def controlKeys : List String :=
  ["CanPlay", "CanPause", "CanSeek", "CanGoNext", "CanGoPrevious", "CanControl"]

def controls (player : PlayerState) : List (Option Variant) :=
  controlKeys.map player.prop

def reportedControls (info : DeviceInfo) (actions : String) :
    List (Option Variant) :=
  let props := actionProps
    (readActions (info.dlnaClasses.any announcesSeekTime) (actionParts actions))
  controlKeys.map fun key => (props.lookup key).map Variant.boolean

def allControls : List (Option Variant) :=
  controlKeys.map fun _ => some (.boolean true)

theorem reportedControls_ne_all (info : DeviceInfo) (actions : String) :
    reportedControls info actions ≠ allControls := by
  simp [reportedControls, allControls, controlKeys, actionProps]

def carriesActions : PlayerEvent → Bool
  | .lastChange event => event.actions.isSome
  | _ => false

def EndsSync (info : DeviceInfo) (run : PlayerRun) (event : PlayerEvent) :
    Prop :=
  ∃ player trigger, syncOutcome info run event = some (.finish player trigger)

instance (info : DeviceInfo) (run : PlayerRun) (event : PlayerEvent) :
    Decidable (EndsSync info run event) :=
  match h : syncOutcome info run event with
  | some (.finish player trigger) => isTrue ⟨player, trigger, h⟩
  | some (.introspect player frame) => isFalse (by simp [EndsSync, h])
  | some .lostDevice => isFalse (by simp [EndsSync, h])
  | none => isFalse (by simp [EndsSync, h])

structure KeepsProps (keys : List String) (player other : PlayerState) :
    Prop where
  classes : other.deviceProps.lookup "DeviceClasses" =
    player.deviceProps.lookup "DeviceClasses"
  props : ∀ key, key ∉ keys → other.prop key = player.prop key

namespace KeepsProps

variable {keys : List String} {player other : PlayerState}

theorem refl (keys : List String) (player : PlayerState) :
    KeepsProps keys player player :=
  ⟨rfl, fun _ _ => rfl⟩

theorem trans {last : PlayerState} (hfirst : KeepsProps keys player other)
    (hsecond : KeepsProps keys other last) : KeepsProps keys player last where
  classes := hsecond.classes.trans hfirst.classes
  props key hkey := (hsecond.props key hkey).trans (hfirst.props key hkey)

theorem of_changesOnly {less : List String} (hsubset : less ⊆ keys)
    (h : ChangesOnly less player other) : KeepsProps keys player other where
  classes := by rw [h.deviceProps_eq]
  props key hkey := h.props key fun hmem => hkey (hsubset hmem)

end KeepsProps

def effectKeys : List String :=
  ["Volume", "Mute", "Rate"] ++ speedKeys ++ positionKeys

theorem keeps_prvAddPlayerSpeedProps (minRate maxRate : ℚ)
    (speeds : Option (List ℚ)) (update : Update) :
    KeepsProps effectKeys update.player
      (prvAddPlayerSpeedProps minRate maxRate speeds update).player :=
  .of_changesOnly (by decide)
    (changesOnly_prvAddPlayerSpeedProps minRate maxRate speeds update)

theorem keeps_prvAddDlnaSpeeds (dlnaSpeeds : List (List Char))
    (update : Update) :
    KeepsProps effectKeys update.player
      (prvAddDlnaSpeeds dlnaSpeeds update).player := by
  unfold prvAddDlnaSpeeds
  simp only
  split
  · exact .refl _ _
  case h_2 rates _ =>
    have hstored : KeepsProps effectKeys update.player
        (storeDlnaSpeeds rates.upnpTpSpeeds update).player :=
      ⟨rfl, fun _ _ => rfl⟩
    exact hstored.trans (keeps_prvAddPlayerSpeedProps _ _ _ _)

theorem keeps_foldl_addSpeedsAction (parts : List (List Char))
    (update : Update) :
    KeepsProps effectKeys update.player
      (parts.foldl addSpeedsAction update).player := by
  induction parts generalizing update with
  | nil => exact .refl _ _
  | cons part parts ih =>
      refine KeepsProps.trans ?_ (ih (addSpeedsAction update part))
      unfold addSpeedsAction
      split
      · exact .refl _ _
      · exact keeps_prvAddDlnaSpeeds _ _

theorem keeps_changeRate (value : Variant) (update : Update) (rate : String) :
    KeepsProps effectKeys update.player
      { (prvChangeProps "Rate" value update).player with rate := rate } where
  classes := rfl
  props key hkey := by
    have hne : key ≠ "Rate" := by
      rintro rfl
      exact hkey (by decide)
    have hprop := prop_prvChangeProps "Rate" key value update
    rw [if_neg hne] at hprop
    exact hprop

theorem keeps_addPlaySpeed (event : LastChange) (update : Update) :
    KeepsProps effectKeys update.player (addPlaySpeed event update).player := by
  unfold addPlaySpeed
  split
  · exact .refl _ _
  · exact keeps_changeRate _ _ _

theorem keeps_resetSpeeds (update : Update) :
    KeepsProps effectKeys update.player (resetSpeeds update).player :=
  keeps_prvAddPlayerSpeedProps _ _ _ update

theorem keeps_resetRate (update : Update) :
    KeepsProps effectKeys update.player (resetRate update).player := by
  have hrate := keeps_changeRate (.double (prvMapTransportSpeed "1")) update "1"
  exact ⟨hrate.classes, hrate.props⟩

theorem keeps_prvResetTransportSpeedProps (player : PlayerState) :
    KeepsProps effectKeys player (prvResetTransportSpeedProps player) := by
  have hstart : KeepsProps effectKeys player
      { player with dlnaTransportPlaySpeeds := none } :=
    ⟨rfl, fun _ _ => rfl⟩
  refine prvResetTransportSpeedProps_rule (motive := KeepsProps effectKeys player)
    hstart (hstart.trans (keeps_resetSpeeds (.start _))) ?_ ?_
  · exact fun update h => h.trans (keeps_resetRate update)
  · exact fun _ h => ⟨h.classes, h.props⟩

theorem keeps_prvSetRate {player next : PlayerState} {value : Variant}
    (hok : prvSetRate player value = .ok next) :
    KeepsProps effectKeys player next := by
  rcases prvSetRate_cases hok with rfl | ⟨published, rate, rfl⟩
  · exact .refl _ _
  · have hrate := keeps_changeRate (.double published) (.start player) rate
    exact ⟨hrate.classes, hrate.props⟩

theorem keeps_plainEffect {info : DeviceInfo} {run : PlayerRun}
    {event : PlayerEvent} {player : PlayerState}
    (hother : ∀ change, event ≠ .lastChange change)
    (heffect : plainEffect info run event = some player) :
    KeepsProps effectKeys run.player player := by
  rcases plainEffect_cases heffect with ⟨change, rfl, -⟩ | ⟨sink, -, rfl⟩ |
    ⟨-, rfl⟩ | ⟨value, -, hset⟩ | hreply
  · exact absurd rfl (hother change)
  · exact ⟨AList.lookup_insert_ne (by decide), fun _ _ => rfl⟩
  · exact keeps_prvResetTransportSpeedProps _
  · exact keeps_prvSetRate hset
  · exact .of_changesOnly (by decide) hreply

/-! ## Device classes -/

def ClassesKnown (info : DeviceInfo) (player : PlayerState) : Prop :=
  ∀ value, player.deviceProps.lookup "DeviceClasses" = some value →
    value = .strings info.dlnaClasses

theorem classesKnown_new (info : DeviceInfo) :
    ClassesKnown info playerRunNew.player := by
  intro value hvalue
  contradiction

theorem classesKnown_of_keeps {info : DeviceInfo} {keys : List String}
    {player other : PlayerState} (h : ClassesKnown info player)
    (hkeeps : KeepsProps keys player other) : ClassesKnown info other := by
  intro value hvalue
  exact h value (hkeeps.classes ▸ hvalue)

theorem classesKnown_of_changesOnly {info : DeviceInfo} {keys : List String}
    {player other : PlayerState} (h : ClassesKnown info player)
    (hchanges : ChangesOnly keys player other) : ClassesKnown info other :=
  classesKnown_of_keeps h (.of_changesOnly (List.Subset.refl _) hchanges)

theorem prvUpdatePropDlnaDeviceClasses_spec {info : DeviceInfo}
    {player : PlayerState} (h : ClassesKnown info player) :
    let found := prvUpdatePropDlnaDeviceClasses info player.deviceProps
    found.1.getD [] = info.dlnaClasses ∧
      ClassesKnown info { player with deviceProps := found.2 } := by
  unfold prvUpdatePropDlnaDeviceClasses
  cases hlookup : player.deviceProps.lookup "DeviceClasses" with
  | some value =>
      obtain rfl := h value hlookup
      exact ⟨rfl, h⟩
  | none =>
      simp only
      split_ifs with hempty
      · exact ⟨hempty.symm, h⟩
      · refine ⟨rfl, ?_⟩
        intro value hvalue
        simpa [eq_comm] using hvalue

theorem lookup_insertText_of_ne {key other : String} (hne : other ≠ key)
    (text : Option String) (props : Props) :
    (insertText key text props).lookup other = props.lookup other := by
  cases text with
  | none => exact AList.lookup_erase_ne hne
  | some text => exact AList.lookup_insert_ne hne

theorem lookup_foldl_insertText {key : String}
    {texts : List (String × Option String)} (hkey : key ∉ texts.map Prod.fst)
    (props : Props) :
    (texts.foldl (fun props text => insertText text.1 text.2 props)
      props).lookup key = props.lookup key := by
  induction texts generalizing props with
  | nil => rfl
  | cons text texts ih =>
      simp only [List.map_cons, List.mem_cons, not_or] at hkey
      rw [List.foldl_cons, ih hkey.2, lookup_insertText_of_ne hkey.1]

theorem classesKnown_beginUpdate {info : DeviceInfo} {player : PlayerState}
    (h : ClassesKnown info player) :
    ClassesKnown info (beginUpdate info player) := by
  have hlooked := (prvUpdatePropDlnaDeviceClasses_spec h).2
  intro value hvalue
  refine hlooked value (hvalue.symm.trans ?_).symm
  refine lookup_foldl_insertText ?_ _
  simp

theorem controls_of_keeps {keys : List String} {player other : PlayerState}
    (h : KeepsProps keys player other)
    (hdisjoint : ∀ key ∈ controlKeys, key ∉ keys) :
    controls other = controls player :=
  List.map_congr_left fun key hkey => h.props key (hdisjoint key hkey)

theorem controls_of_changesOnly {keys : List String}
    {player other : PlayerState} (h : ChangesOnly keys player other)
    (hdisjoint : ∀ key ∈ controlKeys, key ∉ keys) :
    controls other = controls player :=
  controls_of_keeps (.of_changesOnly (List.Subset.refl _) h) hdisjoint

theorem controls_prvAddActions {info : DeviceInfo} {update : Update}
    (h : ClassesKnown info update.player) (actions : String) :
    controls (prvAddActions info actions update).player =
      reportedControls info actions := by
  have hclasses := (prvUpdatePropDlnaDeviceClasses_spec h).1
  simp only [prvAddActions, lookUpDlnaClasses, hclasses]
  simp [controls, reportedControls, controlKeys, changeBooleans, actionProps,
    List.lookup_cons]

theorem classesKnown_prvAddActions {info : DeviceInfo} {update : Update}
    (h : ClassesKnown info update.player) (actions : String) :
    ClassesKnown info (prvAddActions info actions update).player := by
  refine classesKnown_of_changesOnly ?_ (changesOnly_changeBooleans _ _)
  have hparts := keeps_foldl_addSpeedsAction (actionParts actions)
    (lookUpDlnaClasses info update).2
  exact classesKnown_of_keeps (prvUpdatePropDlnaDeviceClasses_spec h).2
    ⟨hparts.classes, hparts.props⟩

theorem keeps_afterActions (event : LastChange) (update : Update) :
    KeepsProps (effectKeys ++ ["PlaybackStatus", "NumberOfTracks", "CurrentTrack"])
      update.player
      (prvEmitSignalPropertiesChanged
        (addCounter "CurrentTrack" event.currentTrack
          (addCounter "NumberOfTracks" event.tracksNumber
            (addState event (addPlaySpeed event update))))) := by
  have hspeed := keeps_addPlaySpeed event update
  refine KeepsProps.trans ⟨hspeed.classes, fun key hkey =>
    hspeed.props key fun hmem => hkey (List.mem_append_left _ hmem)⟩ ?_
  refine (KeepsProps.of_changesOnly (by decide) (changesOnly_addState event _)).trans
    ((KeepsProps.of_changesOnly (by decide) (changesOnly_addCounter _ _ _)).trans
      ((KeepsProps.of_changesOnly (by decide) (changesOnly_addCounter _ _ _)).trans
        (.of_changesOnly (by decide) (.emit [] _))))

theorem classesKnown_prvLastChangeCb {info : DeviceInfo}
    {player : PlayerState} (h : ClassesKnown info player)
    (event : LastChange) :
    ClassesKnown info (prvLastChangeCb info event player) := by
  have hmeta : ClassesKnown info (addMetaData event (.start player)).player :=
    classesKnown_of_changesOnly h (changesOnly_addMetaData event (.start player))
  refine classesKnown_of_keeps ?_ (keeps_afterActions event _)
  unfold addActions
  split
  · exact hmeta
  · exact classesKnown_prvAddActions hmeta _

theorem controls_prvLastChangeCb {info : DeviceInfo} {player : PlayerState}
    (h : ClassesKnown info player) (event : LastChange) :
    controls (prvLastChangeCb info event player) =
      match event.actions with
      | none => controls player
      | some actions => reportedControls info actions := by
  have hmeta := changesOnly_addMetaData event (.start player)
  refine (controls_of_keeps (keeps_afterActions event _) (by decide)).trans ?_
  rw [addActions]
  cases event.actions with
  | none => exact controls_of_changesOnly hmeta (by decide)
  | some actions =>
      exact controls_prvAddActions (classesKnown_of_changesOnly h hmeta) actions

theorem controls_finishUpdate (player : PlayerState) :
    controls (finishUpdate player) = allControls := by
  simp [controls, allControls, controlKeys, finishUpdate, prvAddAllActions,
    changeBooleans, allActions, PlayerState.prop, prvChangeProps,
    prvEmitSignalPropertiesChanged]

theorem classesKnown_finishUpdate {info : DeviceInfo} {player : PlayerState}
    (h : ClassesKnown info player) : ClassesKnown info (finishUpdate player) := by
  have hspeeds := keeps_prvAddPlayerSpeedProps player.minRate player.maxRate
    player.mprisTransportPlaySpeeds (.start player)
  have hactions := (changesOnly_changeBooleans
    allActions (prvAddPlayerSpeedProps player.minRate player.maxRate
      player.mprisTransportPlaySpeeds (.start player))).deviceProps_eq
  intro value hvalue
  exact h value ((hspeeds.classes.symm.trans
    (congrArg _ hactions.symm)).trans hvalue)

/-! ## Runs -/

theorem keeps_prvGetAvServiceStatesValues (allowedSpeeds : List String)
    (bytePosition : Bool) (player : PlayerState) :
    KeepsProps [] player
      (prvGetAvServiceStatesValues allowedSpeeds bytePosition player) := by
  obtain ⟨transport, mpris, minRate, maxRate, hread⟩ :=
    prvGetAvServiceStatesValues_eq allowedSpeeds bytePosition player
  rw [hread]
  exact ⟨rfl, fun _ _ => rfl⟩

theorem classesKnown_plainEffect {info : DeviceInfo} {run : PlayerRun}
    {event : PlayerEvent} {player : PlayerState}
    (h : ClassesKnown info run.player)
    (heffect : plainEffect info run event = some player) :
    ClassesKnown info player := by
  by_cases hchange : ∃ change, event = .lastChange change
  · obtain ⟨change, rfl⟩ := hchange
    obtain rfl := Option.some.inj heffect
    exact classesKnown_prvLastChangeCb h change
  · exact classesKnown_of_keeps h (keeps_plainEffect
      (fun change heq => hchange ⟨change, heq⟩) heffect)

theorem classesKnown_playerStep {info : DeviceInfo} {run next : PlayerRun}
    {event : PlayerEvent} (h : ClassesKnown info run.player)
    (hstep : playerStep info run event = some next) :
    ClassesKnown info next.player := by
  refine playerStep_invariant h (classesKnown_beginUpdate h) ?_ (fun _ => h) ?_
    (fun _ => classesKnown_plainEffect h) hstep
  · exact fun allowedSpeeds bytePosition _ =>
      classesKnown_of_keeps h (keeps_prvGetAvServiceStatesValues _ _ _)
  · exact fun player trigger _ hplayer => classesKnown_of_changesOnly
      (classesKnown_finishUpdate hplayer) (changesOnly_resume trigger _)

theorem controls_playerStep {info : DeviceInfo} {run next : PlayerRun}
    {event : PlayerEvent} (h : ClassesKnown info run.player)
    (hactions : carriesActions event = false)
    (hstep : playerStep info run event = some next) :
    controls next.player =
      if EndsSync info run event then allControls else controls run.player := by
  unfold playerStep at hstep
  cases houtcome : syncOutcome info run event with
  | none =>
      simp only [houtcome] at hstep
      obtain ⟨player, heffect, rfl⟩ := Option.map_eq_some_iff.mp hstep
      rw [if_neg (by simp [EndsSync, houtcome])]
      by_cases hchange : ∃ change, event = .lastChange change
      · obtain ⟨change, rfl⟩ := hchange
        obtain rfl := Option.some.inj heffect
        have hnone : change.actions = none := by
          simpa [carriesActions] using hactions
        simpa [hnone] using controls_prvLastChangeCb h change
      · exact controls_of_keeps (keeps_plainEffect
          (fun change heq => hchange ⟨change, heq⟩) heffect) (by decide)
  | some outcome =>
      simp only [houtcome, Option.some.injEq] at hstep
      subst hstep
      cases outcome with
      | introspect player frame =>
          rw [if_neg (by simp [EndsSync, houtcome])]
          exact syncOutcome_cases
            (motive := fun player => controls player = controls run.player) rfl
            rfl
            (fun allowedSpeeds bytePosition _ => controls_of_keeps
              (keeps_prvGetAvServiceStatesValues _ _ _) (by decide))
            (fun _ => rfl) houtcome rfl
      | lostDevice =>
          rw [if_neg (by simp [EndsSync, houtcome]), proceed, takeEvent_player]
      | finish player trigger =>
          rw [if_pos ⟨player, trigger, houtcome⟩]
          exact (controls_of_changesOnly (changesOnly_resume trigger _)
            (by decide)).trans (controls_finishUpdate player)

/-- Once a call has ended after the actions, everything stays possible. -/
theorem controls_all_of_exec {info : DeviceInfo} {run last : PlayerRun}
    {events : List PlayerEvent} (h : ClassesKnown info run.player)
    (hcontrols : controls run.player = allControls)
    (hactions : ∀ event ∈ events, carriesActions event = false)
    (hrun : exec (playerStep info) run events = some last) :
    controls last.player = allControls := by
  induction events generalizing run with
  | nil =>
      obtain rfl : run = last := by simpa using hrun
      exact hcontrols
  | cons event events ih =>
      obtain ⟨next, hstep, hrest⟩ := exec_cons_eq_some.mp hrun
      refine ih (classesKnown_playerStep h hstep) ?_
        (fun other hmem => hactions other (by simp [hmem])) hrest
      rw [controls_playerStep h (hactions event (by simp)) hstep, hcontrols,
        ite_self]

theorem controls_of_exec {info : DeviceInfo} {run last : PlayerRun}
    {events : List PlayerEvent} (h : ClassesKnown info run.player)
    (hactions : ∀ event ∈ events, carriesActions event = false)
    (hrun : exec (playerStep info) run events = some last) :
    controls last.player =
      if Meets (playerStep info) (fun run event => ¬EndsSync info run event) run
        events
      then controls run.player else allControls := by
  induction events generalizing run with
  | nil =>
      obtain rfl : run = last := by simpa using hrun
      simp
  | cons event events ih =>
      obtain ⟨next, hstep, hrest⟩ := exec_cons_eq_some.mp hrun
      have hknown := classesKnown_playerStep h hstep
      have hcontrols := controls_playerStep h (hactions event (by simp)) hstep
      have htail : ∀ event ∈ events, carriesActions event = false :=
        fun other hmem => hactions other (by simp [hmem])
      simp only [meets_cons_of_step hstep]
      by_cases hends : EndsSync info run event
      · rw [if_neg fun hmeets => hmeets.1 hends]
        rw [if_pos hends] at hcontrols
        exact controls_all_of_exec hknown hcontrols htail hrest
      · rw [if_neg hends] at hcontrols
        rw [ih hknown htail hrest, hcontrols]
        simp only [hends, not_false_eq_true, true_and]

/--
The controls at the end of a run are those of the latest transport actions
exactly when no synchronisation ends after the event that carried them.
-/
theorem controls_latest_iff_sync_not_later (info : DeviceInfo)
    {before after : List PlayerEvent} {event : LastChange} {actions : String}
    {reported last : PlayerRun} (hevent : event.actions = some actions)
    (hlatest : ∀ later ∈ after, carriesActions later = false)
    (hreported : exec (playerStep info) playerRunNew
      (before ++ [.lastChange event]) = some reported)
    (hlast : exec (playerStep info) reported after = some last) :
    controls last.player = reportedControls info actions ↔
      Meets (playerStep info) (fun run event => ¬EndsSync info run event)
        reported after := by
  obtain ⟨earlier, hbefore, hstep⟩ := exec_concat_eq_some.mp hreported
  have hearlier : ClassesKnown info earlier.player :=
    exec_invariant (fun run => ClassesKnown info run.player)
      (fun run event next => classesKnown_playerStep)
      (classesKnown_new info) hbefore
  have hcontrols : controls reported.player = reportedControls info actions := by
    obtain rfl := Option.some.inj hstep
    simpa [hevent] using controls_prvLastChangeCb hearlier event
  have hend := controls_of_exec (classesKnown_playerStep hearlier hstep)
    hlatest hlast
  rw [hend]
  split_ifs with hmeets
  · exact ⟨fun _ => hmeets, fun _ => hcontrols⟩
  · exact ⟨fun heq => absurd heq.symm (reportedControls_ne_all info actions),
      fun h => absurd h hmeets⟩

def reportThenRequest : List PlayerEvent :=
  [.lastChange { actions := some "Stop" },
   .request true true, .avIntrospection .failed, .rcIntrospection .failed]

theorem request_overwrites_controls :
    ¬ ∀ info before after event actions reported last,
      event.actions = some actions →
      (∀ later ∈ after, carriesActions later = false) →
      exec (playerStep info) playerRunNew (before ++ [.lastChange event]) =
        some reported →
      exec (playerStep info) reported after = some last →
      controls last.player = reportedControls info actions := by
  intro h
  have hrun : (exec (playerStep bareDescription) playerRunNew
      reportThenRequest).map (fun run => controls run.player) =
        some allControls := by decide +kernel
  obtain ⟨last, hexec, hall⟩ := Option.map_eq_some_iff.mp hrun
  rw [reportThenRequest, ← List.singleton_append, exec_append,
    Option.bind_eq_some_iff] at hexec
  obtain ⟨reported, hreported, hlast⟩ := hexec
  have hkept := h bareDescription [] _ _ "Stop" reported last rfl (by decide)
    hreported hlast
  exact reportedControls_ne_all bareDescription "Stop" (hkept.symm.trans hall)

/-- A client asks first, and the renderer reports a state after its actions. -/
theorem controls_latest_request_first :
    ∃ reported last, exec (playerStep bareDescription) playerRunNew
        ([.request true true, .avIntrospection .failed,
          .rcIntrospection .failed] ++
          [.lastChange { actions := some "Play, Pause" }]) = some reported ∧
      exec (playerStep bareDescription) reported
        [.lastChange { state := some "PLAYING" }] = some last ∧
      controls last.player =
        reportedControls bareDescription "Play, Pause" := by
  have hrun : (exec (playerStep bareDescription) playerRunNew
      (([.request true true, .avIntrospection .failed,
        .rcIntrospection .failed] ++
        [.lastChange { actions := some "Play, Pause" }]) ++
        [.lastChange { state := some "PLAYING" }])).isSome := by
    decide +kernel
  obtain ⟨last, hexec⟩ := Option.isSome_iff_exists.mp hrun
  rw [exec_append, Option.bind_eq_some_iff] at hexec
  obtain ⟨reported, hreported, hlast⟩ := hexec
  refine ⟨reported, last, hreported, hlast, ?_⟩
  refine (controls_latest_iff_sync_not_later bareDescription rfl (by decide)
    hreported hlast).mpr ?_
  simp [Meets, EndsSync, syncOutcome, playerStep, plainEffect]

end DleynaRenderer.Player
