import DleynaRenderer.Player.Signals

/-!
# What the clients learn from the signals

A client that applies each signal to what it knows should hold the properties
of the player.  It does, but for a property that a failed position query
removes.  The dictionary of a signal should name each property once, with its
final value.  It does, but for two events that change a property twice.
-/

namespace DleynaRenderer.Player

open CString EventSystem HashTable

/-- The list of invalidated properties is empty in every signal. -/
def clientProps (signals : List Changed) : Props := signals.foldl insertAll ∅

def InStep (player : PlayerState) : Prop :=
  ∀ key, (clientProps player.signals).lookup key = player.prop key

theorem clientProps_append (signals : List Changed) (changed : Changed) :
    clientProps (signals ++ [changed]) =
      insertAll (clientProps signals) changed := by
  simp [clientProps, List.foldl_append]

theorem Emits.inStep {keys : List String} {player next : PlayerState}
    (h : Emits keys player next) (hstep : InStep player) : InStep next := by
  obtain ⟨changed, -, hsignals, hprops, -⟩ := h
  intro key
  rw [hsignals, clientProps_append, PlayerState.prop, hprops]
  exact lookup_insertAll_congr hstep changed key

theorem Emits.keeps {keys : List String} {player next : PlayerState}
    (h : Emits keys player next) {key : String} (hkey : key ∉ keys) :
    (clientProps next.signals).lookup key =
        (clientProps player.signals).lookup key ∧
      next.prop key = player.prop key := by
  obtain ⟨changed, rfl, hsignals, hprops, -⟩ := h
  rw [hsignals, clientProps_append, PlayerState.prop, hprops]
  exact ⟨lookup_insertAll_of_not_mem hkey _, lookup_insertAll_of_not_mem hkey _⟩

theorem InStep.of_fields {player other : PlayerState} (h : InStep player)
    (hsignals : other.signals = player.signals)
    (hprops : other.playerProps = player.playerProps) : InStep other := by
  intro key
  rw [hsignals, PlayerState.prop, hprops]
  exact h key

theorem inStep_removeProp_iff {player : PlayerState} (h : InStep player)
    (key : String) :
    InStep (removeProp key player) ↔ player.prop key = none := by
  have hremoved (other : String) : (removeProp key player).prop other =
      if other = key then none else player.prop other :=
    lookup_erase_eq _ _ _
  constructor
  · intro hstep
    have hkey := hstep key
    rw [hremoved, if_pos rfl] at hkey
    exact (h key).symm.trans hkey
  · intro hnone other
    rw [hremoved]
    split
    · rename_i hother
      rw [hother]
      exact (h key).trans hnone
    · exact h other

def FailsUnpublished (run : PlayerRun) : PlayerEvent → Prop
  | .allBytePositionReply none => run.player.prop "BytePosition" = none
  | .allPositionReply _ none => run.player.prop "Position" = none
  | _ => True

theorem inStep_prvGetAllPositionInfoCb_iff {player : PlayerState}
    (h : InStep player) (relCnt result : Option String) :
    InStep (prvGetAllPositionInfoCb relCnt result player) ↔
      (result = none → player.prop "Position" = none) := by
  unfold prvGetAllPositionInfoCb
  cases result with
  | some time =>
      have hemits := emits_publishPosition (some time) relCnt player
      simpa using hemits.inStep h
  | none =>
      cases relCnt with
      | none => simpa using inStep_removeProp_iff h "Position"
      | some count =>
          have hemits := emits_publishPosition none (some count)
            (removeProp "Position" player)
          simp only [if_true, and_false, if_false, reduceCtorEq, forall_const]
          constructor
          · intro hstep
            have hkept : "Position" ∉ optionalKey false "Position" ++
                optionalKey true "BytePosition" := by simp [optionalKey]
            obtain ⟨hview, hprop⟩ := hemits.keeps hkept
            have hkey := hstep "Position"
            rw [hview, hprop] at hkey
            have hremoved :
                (removeProp "Position" player).prop "Position" = none :=
              AList.lookup_erase _ _
            exact (h "Position").symm.trans (hkey.trans hremoved)
          · intro hnone
            exact hemits.inStep ((inStep_removeProp_iff h _).mpr hnone)

theorem inStep_resume_finishUpdate (player : PlayerState)
    (trigger : Option RcEvent) (h : InStep player) :
    InStep (resume trigger (finishUpdate player)) := by
  have hfinish := (emits_finishUpdate player).inStep h
  cases trigger with
  | none => exact hfinish
  | some event =>
      by_cases hvolume : (finishUpdate player).maxVolume = 0
      · simpa [resume, prvProcessRcLastChange, hvolume] using hfinish
      · exact (emits_prvProcessRcLastChange event hvolume).inStep hfinish

theorem inStep_plainEffect {info : DeviceInfo} {run : PlayerRun}
    {event : PlayerEvent} {player : PlayerState} (h : InStep run.player)
    (hguard : FailsUnpublished run event)
    (heffect : plainEffect info run event = some player) : InStep player := by
  cases event with
  | lastChange change =>
      obtain rfl := Option.some.inj heffect
      exact (emits_prvLastChangeCb info change _).inStep h
  | rcLastChange | request =>
      obtain rfl := Option.some.inj heffect
      exact h
  | sinkChange sink =>
      obtain rfl := Option.some.inj heffect
      exact h.of_fields rfl rfl
  | rcIdle =>
      obtain ⟨event, -, rfl⟩ := Option.map_eq_some_iff.mp heffect
      by_cases hvolume : run.player.maxVolume = 0
      · simpa [prvProcessRcLastChange, hvolume] using h
      · exact (emits_prvProcessRcLastChange event hvolume).inStep h
  | avIntrospection | rcIntrospection => contradiction
  | openUri =>
      obtain rfl := Option.some.inj heffect
      rcases emits_prvResetTransportSpeedProps run.player with hsame | hemits
      · rw [hsame]
        exact h.of_fields rfl rfl
      · exact hemits.inStep h
  | setRate value =>
      rcases plainEffect_setRate heffect with rfl | hset
      · exact h
      · rcases emits_prvSetRate hset with rfl | hemits
        · exact h
        · exact hemits.inStep h
  | positionReply result =>
      obtain rfl := Option.some.inj heffect
      unfold prvGetPositionInfoCb
      split
      · exact h
      · exact (emits_publishPosition _ _ _).inStep h
  | bytePositionReply result =>
      obtain rfl := Option.some.inj heffect
      unfold prvGetBytePositionInfoCb
      split
      · exact h
      · exact (emits_publishPosition _ _ _).inStep h
  | allBytePositionReply result =>
      obtain rfl := Option.some.inj heffect
      cases result with
      | none => exact (inStep_removeProp_iff h _).mpr hguard
      | some count => exact h
  | allPositionReply relCnt result =>
      obtain rfl := Option.some.inj heffect
      refine (inStep_prvGetAllPositionInfoCb_iff h relCnt result).mpr ?_
      rintro rfl
      exact hguard

theorem inStep_playerStep_iff {info : DeviceInfo} {run next : PlayerRun}
    {event : PlayerEvent} (h : InStep run.player)
    (hstep : playerStep info run event = some next) :
    InStep next.player ↔ FailsUnpublished run event := by
  constructor
  · intro hnext
    cases event with
    | allBytePositionReply result =>
        obtain rfl := Option.some.inj hstep
        cases result with
        | none => exact (inStep_removeProp_iff h _).mp hnext
        | some count => trivial
    | allPositionReply relCnt result =>
        obtain rfl := Option.some.inj hstep
        cases result with
        | none =>
            exact (inStep_prvGetAllPositionInfoCb_iff h relCnt none).mp hnext rfl
        | some time => trivial
    | _ => trivial
  · intro hguard
    refine playerStep_invariant h (h.of_fields rfl rfl) ?_
      (fun _ => h.of_fields rfl rfl)
      (fun player trigger _ => inStep_resume_finishUpdate player trigger)
      (fun _ => inStep_plainEffect h hguard) hstep
    intro allowedSpeeds bytePosition _
    obtain ⟨transport, mpris, minRate, maxRate, hread⟩ :=
      prvGetAvServiceStatesValues_eq allowedSpeeds bytePosition run.player
    rw [hread]
    exact h.of_fields rfl rfl

/--
A client that applies the signals holds the properties in every state of a run
exactly when no query fails whose property is published.
-/
theorem client_in_step_iff_failsUnpublished {info : DeviceInfo}
    {events : List PlayerEvent} {last : PlayerRun}
    (hrun : exec (playerStep info) playerRunNew events = some last) :
    Always (playerStep info) (fun run => InStep run.player) playerRunNew
        events ↔
      Meets (playerStep info) FailsUnpublished playerRunNew events :=
  always_iff_meets (fun _ _ _ => inStep_playerStep_iff) (fun _ => rfl) hrun

def publishThenFail : List PlayerEvent :=
  [.allPositionReply none (some "0:00:05"), .allPositionReply none none]

theorem failed_query_misleads_client :
    ∃ last, exec (playerStep bareDescription) playerRunNew publishThenFail =
        some last ∧
      last.player.prop "Position" = none ∧
      (clientProps last.player.signals).lookup "Position" =
        some (.int64 5000000) ∧ ¬ InStep last.player := by
  have hrun : (exec (playerStep bareDescription) playerRunNew
      publishThenFail).map (fun run => (run.player.prop "Position",
        (clientProps run.player.signals).lookup "Position")) =
      some (none, some (.int64 5000000)) := by decide +kernel
  obtain ⟨last, hexec, hprops⟩ := Option.map_eq_some_iff.mp hrun
  obtain ⟨hnone, hsome⟩ := Prod.mk.inj hprops
  refine ⟨last, hexec, hnone, hsome, fun hstep => ?_⟩
  have hkey := hstep "Position"
  rw [hnone, hsome] at hkey
  contradiction

/-- The query fails before anything is published, then one succeeds. -/
theorem client_in_step_after_success :
    Always (playerStep bareDescription) (fun run => InStep run.player)
      playerRunNew
      [.allPositionReply none none, .allPositionReply none (some "0:00:05")] :=
  (client_in_step_iff_failsUnpublished rfl).mpr ⟨rfl, trivial, trivial⟩

/-! ## The dictionary of a signal -/

/-- Each property is named once, with the value that is stored for it. -/
structure ProperPayload (changed : Changed) (player : PlayerState) : Prop where
  once : (changed.map Prod.fst).Nodup
  final : ∀ key value, (key, value) ∈ changed → player.prop key = some value

def EmitsProper (player next : PlayerState) : Prop :=
  ∃ changed, next.signals = player.signals ++ [changed] ∧
    ProperPayload changed next

theorem Emits.proper_iff {keys : List String} {player next : PlayerState}
    (h : Emits keys player next) : EmitsProper player next ↔ keys.Nodup := by
  obtain ⟨changed, rfl, hsignals, hprops, -⟩ := h
  constructor
  · rintro ⟨changed', hsignals', hproper⟩
    rw [hsignals] at hsignals'
    obtain rfl : changed = changed' := by simpa using hsignals'
    exact hproper.once
  · intro hnodup
    refine ⟨changed, hsignals, hnodup, fun key value hmem => ?_⟩
    rw [PlayerState.prop, hprops]
    exact lookup_insertAll_of_mem hnodup hmem _

theorem speedPropKeys_nodup (minRate maxRate : ℚ)
    (speeds : Option (List ℚ)) : (speedPropKeys minRate maxRate speeds).Nodup :=
  (speedPropKeys_sublist minRate maxRate speeds).nodup (by decide)

theorem flatMap_dlnaSpeedKeys_nodup_iff (lists : List (List (List Char))) :
    (lists.flatMap dlnaSpeedKeys).Nodup ↔ lists.length ≤ 1 := by
  match lists with
  | [] => simp
  | [speeds] =>
      have hnodup := (dlnaSpeedKeys_spec speeds).1.nodup (by decide)
      simpa using hnodup
  | first :: second :: rest =>
      refine iff_of_false (fun hnodup => ?_) (by simp)
      have hfirst := (dlnaSpeedKeys_spec first).2
      have hsecond := (dlnaSpeedKeys_spec second).2
      rw [List.flatMap_cons] at hnodup
      have hdisjoint := List.disjoint_of_nodup_append hnodup
      exact hdisjoint hfirst (List.mem_flatMap.mpr
        ⟨second, List.mem_cons_self, hsecond⟩)

/--
Metadata that is missing is not merged with both a duration and a URI, and the
actions name play speeds once at most.
-/
def NamesOnce (event : LastChange) : Prop :=
  ¬ (event.metaData = none ∧ event.duration ≠ none ∧ event.uri ≠ none) ∧
    ∀ actions, event.actions = some actions →
      ((actionParts actions).filterMap dlnaSpeeds).length ≤ 1

theorem metaDataKeys_nodup_iff (event : LastChange) :
    (metaDataKeys event).Nodup ↔
      ¬ (event.metaData = none ∧ event.duration ≠ none ∧ event.uri ≠ none) := by
  unfold metaDataKeys optionalKey
  cases event.metaData with
  | some metaData =>
      by_cases hfailed : metaData.result = .failed <;> simp [hfailed]
  | none => cases event.duration <;> cases event.uri <;> simp

theorem actionKeys_nodup_iff (event : LastChange) :
    (actionKeys event).Nodup ↔ ∀ actions, event.actions = some actions →
      ((actionParts actions).filterMap dlnaSpeeds).length ≤ 1 := by
  unfold actionKeys
  cases event.actions with
  | none => simp
  | some actions =>
      have hbooleans : actionPropKeys.Nodup := by decide
      simp only [Option.some.injEq, forall_eq']
      rw [nodup_append_of_pools (flatMap_dlnaSpeedKeys_subset _)
        (List.Subset.refl actionPropKeys) (by decide),
        flatMap_dlnaSpeedKeys_nodup_iff]
      exact and_iff_left hbooleans

theorem lastChangeKeys_nodup_iff (event : LastChange) :
    (lastChangeKeys event).Nodup ↔ NamesOnce event := by
  have hstate := stateKeys_sublist event
  have htail := lastChangeTail_subset (List.subset_append_left _ _)
    (List.subset_append_right _ _) event
  rw [lastChangeKeys,
    nodup_append_of_pools (metaDataKeys_subset event) htail (by decide),
    nodup_append_of_pools (actionKeys_subset event) hstate.subset (by decide),
    metaDataKeys_nodup_iff, actionKeys_nodup_iff,
    and_iff_left (hstate.nodup (by decide))]
  rfl

/--
The signal of an event is proper exactly when the event names its properties
once; the signals of a synchronisation, of a rendering control event and of a
new URI always are.
-/
theorem signals_proper_iff_namesOnce (info : DeviceInfo) (event : LastChange)
    (rcEvent : RcEvent) (player : PlayerState) :
    (EmitsProper player (prvLastChangeCb info event player) ↔
      NamesOnce event) ∧
    EmitsProper player (finishUpdate player) ∧
    ((prvProcessRcLastChange rcEvent player).signals = player.signals ∨
      EmitsProper player (prvProcessRcLastChange rcEvent player)) ∧
    ((prvResetTransportSpeedProps player).signals = player.signals ∨
      EmitsProper player (prvResetTransportSpeedProps player)) := by
  refine ⟨?_, ?_, ?_, ?_⟩
  · rw [(emits_prvLastChangeCb info event player).proper_iff,
      lastChangeKeys_nodup_iff]
  · refine (emits_finishUpdate player).proper_iff.mpr ?_
    exact (nodup_append_of_pools (speedPropKeys_sublist _ _ _).subset
      (List.Subset.refl _) (by decide)).mpr
        ⟨speedPropKeys_nodup _ _ _, by decide⟩
  · by_cases hvolume : player.maxVolume = 0
    · exact .inl (by simp [prvProcessRcLastChange, hvolume])
    · have hkeys : (rcKeys rcEvent).Sublist ["Volume", "Mute"] :=
        (optionalKey_sublist _ _).append (optionalKey_sublist _ _)
      exact .inr ((emits_prvProcessRcLastChange rcEvent hvolume).proper_iff.mpr
        (hkeys.nodup (by decide)))
  · rcases emits_prvResetTransportSpeedProps player with hsame | hemits
    · exact .inl (by rw [hsame])
    · refine .inr (hemits.proper_iff.mpr ?_)
      have hspeeds : (if speedsPublished player then []
          else resetSpeedKeys player).Sublist speedKeys := by
        split
        · exact List.nil_sublist _
        · exact speedPropKeys_sublist _ _ _
      exact (hspeeds.append (optionalKey_sublist _ _)).nodup (by decide)

/-- The duration and the URI of a track without metadata are merged in turn. -/
theorem merged_metadata_named_twice :
    ¬ EmitsProper playerNew (prvLastChangeCb bareDescription
      { duration := some "0:01:00", uri := some "http://10.0.0.1/a" }
      playerNew) :=
  fun hproper => absurd ((emits_prvLastChangeCb _ _ _).proper_iff.mp hproper)
    (by decide)

end DleynaRenderer.Player
