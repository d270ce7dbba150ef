import DleynaRenderer.Player.Run

/-!
# The tables of play speeds over a run

A requested rate is looked up in a list of published values, and its string is
taken from another table at the same index.  There are two such pairs, one read
from the service description and one from the actions of the current track,
but a single published list.  The synchronisation writes the values of the
first pair over it whichever pair is in use.
-/

namespace DleynaRenderer.Player

open CString EventSystem

/-- The tables in use have one length, and their entries the same values. -/
def TablesParallel (player : PlayerState) : Prop :=
  match speedTables player with
  | (none, _) => True
  | (some _, none) => False
  | (some values, some speeds) => Parallel values speeds

instance (player : PlayerState) : Decidable (TablesParallel player) := by
  unfold TablesParallel
  split <;> infer_instance

def roundHundredth (r : ℚ) : ℚ := CString.round (r / precision) * precision

/-- The published rate and the speed of the next Play are the same speed. -/
def RateDenotesSpeed (player : PlayerState) : Prop :=
  ∃ r, player.prop "Rate" = some (.double r) ∧
    roundHundredth r = speedValue player.rate

def SpeedsUsable (run : PlayerRun) : Prop :=
  TablesParallel run.player ∧
    ∀ value, prvSetRate run.player value ≠ .outOfRange

def SetRateDenotes (run : PlayerRun) (event : PlayerEvent)
    (_ : PlayerRun) : Prop :=
  ∀ value player, event = .setRate value →
    prvSetRate run.player value = .ok player → RateDenotesSpeed player

/-- A synchronisation that ends while both pairs are there finds them equal. -/
def SyncAgrees (info : DeviceInfo) (run : PlayerRun) (event : PlayerEvent) :
    Prop :=
  match syncOutcome info run event with
  | some (.finish player _) =>
      match player.mprisTransportPlaySpeeds, player.dlnaTransportPlaySpeeds with
      | some values, some speeds => Parallel values speeds
      | _, _ => True
  | _ => True

def ReadAlike (speed : String) : Prop :=
  prvRationalIsInvalid speed = true ∨
    roundHundredth (prvMapTransportSpeed speed) = speedValue speed

def selectedSpeed (player : PlayerState) : Variant → Option String
  | .double mprisRate =>
      match prvGetRateValueFromDouble player mprisRate with
      | .error _ => none
      | .ok (_, speed) => speed
  | _ => none

def SpeedReadable (run : PlayerRun) : PlayerEvent → Prop
  | .lastChange event =>
      match event.playSpeed with
      | none => True
      | some speed => ReadAlike speed
  | .setRate value =>
      selectedSpeed run.player value = some run.player.rate →
        run.player.prop "Rate" ≠ none
  | _ => True

def SpeedCondition (info : DeviceInfo) (run : PlayerRun)
    (event : PlayerEvent) : Prop :=
  SyncAgrees info run event ∧ SpeedReadable run event

instance (info : DeviceInfo) (run : PlayerRun) (event : PlayerEvent) :
    Decidable (SyncAgrees info run event) := by
  unfold SyncAgrees
  split
  · split <;> infer_instance
  · infer_instance

instance (run : PlayerRun) (event : PlayerEvent) :
    Decidable (SpeedReadable run event) := by
  unfold SpeedReadable ReadAlike
  split
  · split <;> infer_instance
  · infer_instance
  · infer_instance

instance (info : DeviceInfo) (run : PlayerRun) (event : PlayerEvent) :
    Decidable (SpeedCondition info run event) := by
  unfold SpeedCondition
  infer_instance

structure SpeedView where
  transport : Option (List String)
  dlna : Option (List String)
  mpris : Option (List ℚ)
  rate : String
  published : Option Variant
  publishedRate : Option Variant

def speedView (player : PlayerState) : SpeedView where
  transport := player.transportPlaySpeeds
  dlna := player.dlnaTransportPlaySpeeds
  mpris := player.mprisTransportPlaySpeeds
  rate := player.rate
  published := player.prop "TransportPlaySpeeds"
  publishedRate := player.prop "Rate"

structure SpeedTable (values : List ℚ) (speeds : List String) : Prop where
  parallel : Parallel values speeds
  valid : ∀ speed ∈ speeds, prvRationalIsInvalid speed = false

structure SpeedInv (view : SpeedView) : Prop where
  introspected : ∀ values, view.mpris = some values →
    ∃ speeds, view.transport = some speeds ∧ SpeedTable values speeds
  dlna : ∀ speeds, view.dlna = some speeds →
    ∃ values, view.published = some (.doubles values) ∧
      SpeedTable values speeds
  rate : ∀ value, view.publishedRate = some value →
    prvRationalIsInvalid view.rate = false →
    ∃ r, value = .double r ∧ roundHundredth r = speedValue view.rate

theorem speedTable_of_rates {allowed : List String} {rates : RatesValues}
    (h : prvGetRatesValues allowed = some rates) :
    SpeedTable rates.mprisTpSpeeds rates.upnpTpSpeeds :=
  ⟨parallel_prvGetRatesValues h, fun _ => valid_prvGetRatesValues h⟩

theorem round_intCast (n : Int) : CString.round (n : ℚ) = n := by
  have hhalf (m : Int) : ⌊(m : ℚ) + 1 / 2⌋ = m := by
    rw [Int.floor_eq_iff]
    constructor <;> linarith
  unfold CString.round
  split_ifs with hsign
  · exact hhalf n
  · have hneg : -(n : ℚ) = ((-n : Int) : ℚ) := by push_cast; rfl
    rw [hneg, hhalf, neg_neg]

theorem roundHundredth_speedValue (speed : String) :
    roundHundredth (speedValue speed) = speedValue speed := by
  have hprecision : precision ≠ 0 := by norm_num [precision]
  unfold speedValue prvRationalToDouble
  simp only [hprecision, ne_eq, not_false_eq_true, if_true]
  split_ifs with hzero
  · have hround := round_intCast 0
    simp only [Int.cast_zero] at hround
    simp [roundHundredth, hround]
  · rw [roundHundredth, mul_div_assoc, div_self hprecision, mul_one,
      round_intCast]

theorem speedTables_of_inv {player : PlayerState}
    (hinv : SpeedInv (speedView player)) {values : List ℚ}
    {speeds : Option (List String)}
    (htables : speedTables player = (some values, speeds)) :
    ∃ strings, speeds = some strings ∧ SpeedTable values strings := by
  unfold speedTables at htables
  cases hdlna : player.dlnaTransportPlaySpeeds with
  | none =>
      rw [hdlna] at htables
      simp only [Prod.mk.injEq] at htables
      obtain ⟨strings, htransport, htable⟩ :=
        hinv.introspected values htables.1
      exact ⟨strings, htables.2.symm.trans htransport, htable⟩
  | some strings =>
      rw [hdlna] at htables
      obtain ⟨values', hpublished, htable⟩ := hinv.dlna strings hdlna
      replace hpublished :
          player.prop "TransportPlaySpeeds" = some (.doubles values') :=
        hpublished
      simp only [hpublished, Prod.mk.injEq, Option.some.injEq] at htables
      obtain ⟨rfl, rfl⟩ := htables
      exact ⟨strings, rfl, htable⟩

theorem tablesParallel_of_inv {player : PlayerState}
    (hinv : SpeedInv (speedView player)) : TablesParallel player := by
  unfold TablesParallel
  match htables : speedTables player with
  | (none, _) => trivial
  | (some values, none) =>
      obtain ⟨strings, hnone, -⟩ := speedTables_of_inv hinv htables
      contradiction
  | (some values, some speeds) =>
      obtain ⟨strings, hsome, htable⟩ := speedTables_of_inv hinv htables
      obtain rfl : speeds = strings := Option.some.inj hsome
      exact htable.parallel

theorem rateValue_of_inv {player : PlayerState}
    (hinv : SpeedInv (speedView player)) {mprisRate value : ℚ}
    {speed : Option String}
    (hfound : prvGetRateValueFromDouble player mprisRate = .ok (value, speed)) :
    ∃ rate, speed = some rate ∧ speedValue rate = value ∧
      prvRationalIsInvalid rate = false := by
  unfold prvGetRateValueFromDouble at hfound
  match htables : speedTables player with
  | (none, _) => simp [htables] at hfound
  | (some values, speeds) =>
      obtain ⟨strings, rfl, htable⟩ := speedTables_of_inv hinv htables
      match hrate : findRate mprisRate values with
      | none => simp [htables, hrate] at hfound
      | some (found, i) =>
          simp only [htables, hrate, Option.bind_some, Except.ok.injEq,
            Prod.mk.injEq] at hfound
          obtain ⟨rfl, rfl⟩ := hfound
          obtain ⟨rate, hspeed, heq⟩ :=
            htable.parallel.speed_of_value (getElem_of_findRate hrate)
          exact ⟨rate, hspeed, heq,
            htable.valid rate (List.mem_of_getElem? hspeed)⟩

theorem prvSetRate_ne_outOfRange {player : PlayerState}
    (hinv : SpeedInv (speedView player)) (value : Variant) :
    prvSetRate player value ≠ .outOfRange := by
  cases value with
  | double mprisRate =>
      simp only [prvSetRate]
      cases hfound : prvGetRateValueFromDouble player mprisRate with
      | error error => simp
      | ok found =>
          obtain ⟨value, speed⟩ := found
          obtain ⟨rate, rfl, -⟩ := rateValue_of_inv hinv hfound
          simp only
          split <;> simp
  | _ => simp [prvSetRate]

/-! ## Changes the invariant does not see -/

theorem speedView_of_changesOnly {keys : List String}
    {player other : PlayerState} (h : ChangesOnly keys player other)
    (hspeeds : "TransportPlaySpeeds" ∉ keys) (hrate : "Rate" ∉ keys) :
    speedView other = speedView player := by
  simp only [speedView, h.transport_eq, h.dlna_eq, h.mpris_eq, h.rate_eq,
    h.props _ hspeeds, h.props _ hrate]

theorem speedView_changeRate (value : Variant) (update : Update) :
    speedView (prvChangeProps "Rate" value update).player =
      { speedView update.player with publishedRate := some value } := by
  simp [speedView, prvChangeProps, PlayerState.prop]

@[simp] theorem speedView_emit (update : Update) :
    speedView (prvEmitSignalPropertiesChanged update) =
      speedView update.player := rfl

theorem speedView_prvAddPlayerSpeedProps (minRate maxRate : ℚ)
    (speeds : Option (List ℚ)) (update : Update) :
    speedView (prvAddPlayerSpeedProps minRate maxRate speeds update).player =
      { speedView update.player with
        published :=
          (speeds.map Variant.doubles).or (speedView update.player).published } := by
  have hsame := changesOnly_prvAddPlayerSpeedProps minRate maxRate speeds update
  have hspeeds := speeds_prvAddPlayerSpeedProps minRate maxRate speeds update
  have hrate := hsame.props "Rate" (by decide)
  simp only [speedView, hspeeds, hrate, hsame.rate_eq, hsame.dlna_eq,
    hsame.mpris_eq, hsame.transport_eq]

theorem speedView_resume (trigger : Option RcEvent) (player : PlayerState) :
    speedView (resume trigger player) = speedView player :=
  speedView_of_changesOnly (changesOnly_resume trigger player) (by decide)
    (by decide)

theorem speedInv_new : SpeedInv (speedView playerNew) where
  introspected := by simp [speedView, playerNew]
  dlna := by simp [speedView, playerNew]
  rate := by simp [speedView, playerNew, PlayerState.prop]

theorem SpeedInv.setRate {view : SpeedView} (hinv : SpeedInv view)
    {rate : String} {value : ℚ}
    (hdenotes : prvRationalIsInvalid rate = false →
      roundHundredth value = speedValue rate) :
    SpeedInv { view with rate := rate, publishedRate := some (.double value) }
    where
  introspected := hinv.introspected
  dlna := hinv.dlna
  rate := by
    intro published hpublished hvalid
    exact ⟨value, (Option.some.inj hpublished).symm, hdenotes hvalid⟩

theorem speedInv_prvAddDlnaSpeeds (speeds : List (List Char)) {update : Update}
    (hinv : SpeedInv (speedView update.player)) :
    SpeedInv (speedView (prvAddDlnaSpeeds speeds update).player) := by
  unfold prvAddDlnaSpeeds
  simp only
  split
  · exact hinv
  case h_2 rates hrates =>
    rw [speedView_prvAddPlayerSpeedProps]
    refine ⟨hinv.introspected, ?_, hinv.rate⟩
    intro strings hsome
    obtain rfl : rates.upnpTpSpeeds = strings := by
      simpa [speedView, storeDlnaSpeeds] using hsome
    exact ⟨rates.mprisTpSpeeds, rfl, speedTable_of_rates hrates⟩

theorem speedInv_addSpeedsAction {update : Update}
    (hinv : SpeedInv (speedView update.player)) (part : List Char) :
    SpeedInv (speedView (addSpeedsAction update part).player) := by
  unfold addSpeedsAction
  split
  · exact hinv
  · exact speedInv_prvAddDlnaSpeeds _ hinv

theorem speedInv_foldl_addSpeedsAction (parts : List (List Char))
    {update : Update} (hinv : SpeedInv (speedView update.player)) :
    SpeedInv (speedView (parts.foldl addSpeedsAction update).player) := by
  induction parts generalizing update with
  | nil => exact hinv
  | cons part parts ih => exact ih (speedInv_addSpeedsAction hinv part)

theorem speedInv_addActions (info : DeviceInfo) (event : LastChange)
    {update : Update} (hinv : SpeedInv (speedView update.player)) :
    SpeedInv (speedView (addActions info event update).player) := by
  unfold addActions
  split
  · exact hinv
  · rw [prvAddActions, speedView_of_changesOnly
      (changesOnly_changeBooleans _ _) (by simp [actionProps])
      (by simp [actionProps])]
    exact speedInv_foldl_addSpeedsAction _ hinv

theorem speedInv_addPlaySpeed {event : LastChange} {update : Update}
    (hinv : SpeedInv (speedView update.player))
    (hread : ∀ speed, event.playSpeed = some speed → ReadAlike speed) :
    SpeedInv (speedView (addPlaySpeed event update).player) := by
  unfold addPlaySpeed
  cases hspeed : event.playSpeed with
  | none => exact hinv
  | some speed =>
      have hdenotes : prvRationalIsInvalid speed = false →
          roundHundredth (prvMapTransportSpeed speed) = speedValue speed := by
        intro hvalid
        rcases hread speed hspeed with hinvalid | hsame
        · rw [hvalid] at hinvalid
          contradiction
        · exact hsame
      have hrate : SpeedInv { speedView (prvChangeProps "Rate"
          (.double (prvMapTransportSpeed speed)) update).player with
            rate := speed } := by
        rw [speedView_changeRate]
        exact hinv.setRate hdenotes
      exact hrate

theorem speedInv_prvLastChangeCb (info : DeviceInfo) {event : LastChange}
    {player : PlayerState} (hinv : SpeedInv (speedView player))
    (hread : ∀ speed, event.playSpeed = some speed → ReadAlike speed) :
    SpeedInv (speedView (prvLastChangeCb info event player)) := by
  unfold prvLastChangeCb
  rw [speedView_emit,
    speedView_of_changesOnly (changesOnly_addCounter _ _ _) (by decide)
      (by decide),
    speedView_of_changesOnly (changesOnly_addCounter _ _ _) (by decide)
      (by decide),
    speedView_of_changesOnly (changesOnly_addState _ _) (by decide) (by decide)]
  refine speedInv_addPlaySpeed (speedInv_addActions info event ?_) hread
  rw [speedView_of_changesOnly (changesOnly_addMetaData _ _) (by decide)
    (by decide)]
  exact hinv

theorem speedInv_prvGetAvServiceStatesValues (allowedSpeeds : List String)
    (bytePosition : Bool) {player : PlayerState}
    (hinv : SpeedInv (speedView player)) :
    SpeedInv (speedView
      (prvGetAvServiceStatesValues allowedSpeeds bytePosition player)) := by
  unfold prvGetAvServiceStatesValues
  split
  · exact ⟨hinv.introspected, hinv.dlna, hinv.rate⟩
  case h_2 rates hrates =>
    refine ⟨?_, hinv.dlna, hinv.rate⟩
    intro values hsome
    obtain rfl : rates.mprisTpSpeeds = values := by
      simpa [speedView] using hsome
    exact ⟨rates.upnpTpSpeeds, rfl, speedTable_of_rates hrates⟩

theorem speedInv_finishUpdate {player : PlayerState}
    (hinv : SpeedInv (speedView player))
    (hagrees : ∀ values speeds,
      player.mprisTransportPlaySpeeds = some values →
      player.dlnaTransportPlaySpeeds = some speeds → Parallel values speeds) :
    SpeedInv (speedView (finishUpdate player)) := by
  have hview : speedView (finishUpdate player) =
      { speedView player with
        published := (player.mprisTransportPlaySpeeds.map Variant.doubles).or
          (speedView player).published } := by
    unfold finishUpdate
    rw [speedView_emit]
    exact (speedView_of_changesOnly (changesOnly_changeBooleans _ _)
      (by decide) (by decide)).trans
      (speedView_prvAddPlayerSpeedProps _ _ _ _)
  rw [hview]
  refine ⟨hinv.introspected, ?_, hinv.rate⟩
  intro speeds hdlna
  obtain ⟨values, hpublished, htable⟩ := hinv.dlna speeds hdlna
  cases hmpris : player.mprisTransportPlaySpeeds with
  | none => exact ⟨values, by simpa using hpublished, htable⟩
  | some introspected =>
      exact ⟨introspected, rfl,
        ⟨hagrees introspected speeds hmpris hdlna, htable.valid⟩⟩

theorem speedInv_resetSpeeds {update : Update}
    (hdlna : update.player.dlnaTransportPlaySpeeds = none)
    (hinv : SpeedInv (speedView update.player)) :
    SpeedInv (speedView (resetSpeeds update).player) := by
  unfold resetSpeeds
  rw [speedView_prvAddPlayerSpeedProps]
  refine ⟨hinv.introspected, ?_, hinv.rate⟩
  intro speeds hsome
  have hnone : update.player.dlnaTransportPlaySpeeds = some speeds := hsome
  rw [hdlna] at hnone
  contradiction

theorem speedView_resetRate (update : Update) :
    speedView (resetRate update).player =
      { speedView update.player with
        rate := "1"
        publishedRate := some (.double (prvMapTransportSpeed "1")) } := by
  rw [resetRate, speedView_changeRate]
  rfl

theorem speedInv_resetRate {update : Update}
    (hinv : SpeedInv (speedView update.player)) :
    SpeedInv (speedView (resetRate update).player) := by
  have hone : roundHundredth (prvMapTransportSpeed "1") = speedValue "1" := by
    decide +kernel
  rw [speedView_resetRate]
  exact hinv.setRate fun _ => hone

theorem speedInv_prvResetTransportSpeedProps {player : PlayerState}
    (hinv : SpeedInv (speedView player)) :
    SpeedInv (speedView (prvResetTransportSpeedProps player)) := by
  have hstart : SpeedInv (speedView
      { player with dlnaTransportPlaySpeeds := none }) :=
    ⟨hinv.introspected, by simp [speedView], hinv.rate⟩
  exact prvResetTransportSpeedProps_rule
    (motive := fun player => SpeedInv (speedView player)) hstart
    (speedInv_resetSpeeds rfl hstart) (fun _ h => speedInv_resetRate h)
    (fun _ h => h)

theorem prvSetRate_spec {player next : PlayerState} {value : Variant}
    (hinv : SpeedInv (speedView player))
    (hok : prvSetRate player value = .ok next)
    (hpublished : selectedSpeed player value = some player.rate →
      player.prop "Rate" ≠ none) :
    SpeedInv (speedView next) ∧ RateDenotesSpeed next := by
  cases value with
  | double mprisRate =>
      simp only [prvSetRate] at hok
      cases hfound : prvGetRateValueFromDouble player mprisRate with
      | error error => simp [hfound] at hok
      | ok found =>
          obtain ⟨published, speed⟩ := found
          obtain ⟨rate, rfl, hvalue, hvalid⟩ := rateValue_of_inv hinv hfound
          simp only [hfound] at hok
          split_ifs at hok with hsame
          · obtain rfl : player = next := by simpa using hok
            refine ⟨hinv, ?_⟩
            -- the stored speed is selected: the published rate stays as it was
            have hne := hpublished (by simp [selectedSpeed, hfound, hsame])
            obtain ⟨old, hold⟩ := Option.ne_none_iff_exists'.mp hne
            have hvalid' : prvRationalIsInvalid player.rate = false := by
              rw [hsame, hvalid]
            obtain ⟨r, rfl, hround⟩ := hinv.rate old hold hvalid'
            exact ⟨r, hold, hround⟩
          · obtain rfl := SetRateResult.ok.inj hok
            have hround : roundHundredth published = speedValue rate := by
              rw [← hvalue, roundHundredth_speedValue]
            refine ⟨?_, published, by simp, hround⟩
            rw [speedView_emit, speedView_changeRate]
            exact hinv.setRate fun _ => hround
  | _ => simp [prvSetRate] at hok

/-! ## Runs -/

theorem speedInv_plainEffect {info : DeviceInfo} {run : PlayerRun}
    {event : PlayerEvent} {player : PlayerState}
    (hinv : SpeedInv (speedView run.player)) (hread : SpeedReadable run event)
    (heffect : plainEffect info run event = some player) :
    SpeedInv (speedView player) := by
  rcases plainEffect_cases heffect with ⟨change, rfl, rfl⟩ | ⟨sink, -, rfl⟩ |
    ⟨-, rfl⟩ | ⟨value, rfl, hset⟩ | hreply
  · apply speedInv_prvLastChangeCb info hinv
    intro speed hspeed
    simpa [SpeedReadable, hspeed] using hread
  · exact hinv
  · exact speedInv_prvResetTransportSpeedProps hinv
  · exact (prvSetRate_spec hinv hset hread).1
  · rw [speedView_of_changesOnly hreply (by decide) (by decide)]
    exact hinv

theorem speedInv_playerStep {info : DeviceInfo} {run next : PlayerRun}
    {event : PlayerEvent} (hinv : SpeedInv (speedView run.player))
    (hcondition : SpeedCondition info run event)
    (hstep : playerStep info run event = some next) :
    SpeedInv (speedView next.player) := by
  obtain ⟨hagrees, hread⟩ := hcondition
  refine playerStep_invariant (motive := fun player => SpeedInv (speedView player))
    hinv ⟨hinv.introspected, hinv.dlna, hinv.rate⟩ ?_
    (fun _ => ⟨hinv.introspected, hinv.dlna, hinv.rate⟩) ?_
    (fun _ => speedInv_plainEffect hinv hread) hstep
  · exact fun allowedSpeeds bytePosition _ =>
      speedInv_prvGetAvServiceStatesValues allowedSpeeds bytePosition hinv
  · intro player trigger houtcome hplayer
    rw [speedView_resume]
    apply speedInv_finishUpdate hplayer
    intro values speeds hmpris hdlna
    simpa [SyncAgrees, houtcome, hmpris, hdlna] using hagrees

theorem setRateDenotes_of_inv {run next : PlayerRun} {event : PlayerEvent}
    (hinv : SpeedInv (speedView run.player))
    (hread : SpeedReadable run event) : SetRateDenotes run event next := by
  rintro value player rfl hok
  exact (prvSetRate_spec hinv hok hread).2

/--
The pair of tables that a rate is looked up in stays parallel, no lookup leaves
the table, and a successful Set Rate publishes the speed it stores.
-/
theorem speed_tables_stay_parallel (info : DeviceInfo)
    (events : List PlayerEvent)
    (hcondition : Meets (playerStep info) (SpeedCondition info) playerRunNew
      events) :
    Always (playerStep info) SpeedsUsable playerRunNew events ∧
      EachStep (playerStep info) SetRateDenotes playerRunNew events := by
  refine guarded_run_safe (fun run => SpeedInv (speedView run.player))
    ?_ ?_ speedInv_new hcondition
  · intro run hinv
    exact ⟨tablesParallel_of_inv hinv, prvSetRate_ne_outOfRange hinv⟩
  · intro run event next hinv hguard hstep
    exact ⟨speedInv_playerStep hinv hguard hstep,
      setRateDenotes_of_inv hinv hguard.2⟩

/-- The first request comes after a track that announced its own speeds. -/
def speedsThenRequest : List PlayerEvent :=
  [.lastChange { actions := some "Play,X_DLNA_PS=1/2" },
   .request true false,
   .avIntrospection (.read ["1", "2"] false)]

theorem speed_tables_apart :
    ¬ ∀ info events, Always (playerStep info) SpeedsUsable playerRunNew
      events := by
  intro h
  have hrun : (exec (playerStep bareDescription) playerRunNew
      speedsThenRequest).map (fun run => speedTables run.player) =
        some (some [1, 2], some ["1/2", "1"]) := by decide +kernel
  obtain ⟨run, hexec, htables⟩ := Option.map_eq_some_iff.mp hrun
  have husable := always_iff_prefix.mp (h bareDescription speedsThenRequest)
    speedsThenRequest (List.prefix_refl _) run hexec
  have hparallel : Parallel [1, 2] ["1/2", "1"] := by
    simpa [TablesParallel, htables] using husable.1
  exact absurd hparallel (by decide +kernel)

/-- The description is read before the track announces its speeds. -/
def requestThenSpeeds : List PlayerEvent :=
  [.request true false,
   .avIntrospection (.read ["1", "2"] false),
   .lastChange { actions := some "Play,X_DLNA_PS=1/2", playSpeed := some "1" },
   .setRate (.double (1 / 2)),
   .openUri]

theorem speed_tables_stay_parallel_request_first :
    Meets (playerStep bareDescription) (SpeedCondition bareDescription)
        playerRunNew requestThenSpeeds ∧
      Always (playerStep bareDescription) SpeedsUsable playerRunNew
        requestThenSpeeds ∧
      EachStep (playerStep bareDescription) SetRateDenotes playerRunNew
        requestThenSpeeds := by
  have hcondition : Meets (playerStep bareDescription)
      (SpeedCondition bareDescription) playerRunNew requestThenSpeeds := by
    decide +kernel
  exact ⟨hcondition,
    speed_tables_stay_parallel bareDescription requestThenSpeeds hcondition⟩

end DleynaRenderer.Player
