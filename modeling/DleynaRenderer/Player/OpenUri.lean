import DleynaRenderer.Foundation.EventSystem
import DleynaRenderer.Player.Run

/-!
# Speeds of a new item

Opening an item drops the speeds of the item before it: the published speeds
and their bounds should be those of the description again, whatever happened
earlier.  What the description does not give is not published, and what is not
published stays as it was.  The callback is shared with the request for the
next item, which does not replace the present one.
-/

namespace DleynaRenderer.Player

open CString EventSystem

/-- The player's part of the callback, for each of the three kinds of requests. -/
def prvOpenUriCb (failure : Option String) (player : PlayerState) :
    PlayerState :=
  match failure with
  | none => prvResetTransportSpeedProps player
  | some _ => player

def introspected (player : PlayerState) :
    Option (List String) × Option (List ℚ) × ℚ × ℚ :=
  (player.transportPlaySpeeds, player.mprisTransportPlaySpeeds, player.minRate,
    player.maxRate)

def publishedSpeeds (player : PlayerState) : List (Option Variant) :=
  speedKeys.map player.prop

theorem prvMapTransportSpeed_one : prvMapTransportSpeed "1" = 1 := by
  decide +kernel

theorem prop_resetRate (update : Update) (key : String) :
    (resetRate update).player.prop key =
      if key = "Rate" then some (.double 1) else update.player.prop key := by
  rw [resetRate, prop_prvChangeProps, prvMapTransportSpeed_one]
  rfl

def resetState (player : PlayerState) : PlayerState :=
  if speedsPublished player then player
  else (resetSpeeds (.start
    { player with dlnaTransportPlaySpeeds := none })).player

theorem prop_prvResetTransportSpeedProps (player : PlayerState)
    (key : String) :
    (prvResetTransportSpeedProps player).prop key =
      if key = "Rate" ∧ player.rate ≠ "1" then some (.double 1)
      else (resetState player).prop key := by
  unfold prvResetTransportSpeedProps resetState
  by_cases hspeeds : speedsPublished player <;>
    by_cases hrate : player.rate = "1"
  · simp [hspeeds, hrate, Update.start, PlayerState.prop]
  · simp only [hspeeds, hrate, not_true_eq_false, decide_false, ne_eq,
      not_false_eq_true, decide_true, Bool.false_or, if_true, prop_emit,
      Bool.false_eq_true, if_false, prop_resetRate, and_true]
    rfl
  · simp only [hspeeds, hrate, not_false_eq_true, decide_true, ne_eq,
      not_true_eq_false, decide_false, Bool.or_false, if_true, prop_emit,
      Bool.false_eq_true, if_false, and_false]
  · simp only [hspeeds, hrate, not_false_eq_true, decide_true, ne_eq,
      Bool.or_self, if_true, prop_emit, if_false, prop_resetRate, and_true]

theorem dlna_prvResetTransportSpeedProps (player : PlayerState) :
    (prvResetTransportSpeedProps player).dlnaTransportPlaySpeeds = none := by
  refine prvResetTransportSpeedProps_rule
    (motive := fun player => player.dlnaTransportPlaySpeeds = none) rfl ?_
    (fun _ h => h) (fun _ h => h)
  exact (changesOnly_prvAddPlayerSpeedProps _ _ _ _).dlna_eq

theorem rateField_prvResetTransportSpeedProps (player : PlayerState) :
    (prvResetTransportSpeedProps player).rate = "1" := by
  by_cases hrate : player.rate = "1"
  · refine prvResetTransportSpeedProps_rule
      (motive := fun player => player.rate = "1") hrate ?_ (fun _ _ => rfl)
      (fun _ h => h)
    exact (changesOnly_prvAddPlayerSpeedProps _ _ _ _).rate_eq.trans hrate
  · unfold prvResetTransportSpeedProps
    simp only [hrate, ne_eq, not_false_eq_true, decide_true, Bool.or_true,
      if_true]
    rfl

/-- The bounds are written only together with a list that is not the published one. -/
def Republishes (player : PlayerState) (rate : ℚ) : Prop :=
  ¬speedsPublished player ∧ rate ≠ 0

instance (player : PlayerState) (rate : ℚ) :
    Decidable (Republishes player rate) :=
  inferInstanceAs (Decidable (_ ∧ _))

theorem speeds_resetState (player : PlayerState) :
    (resetState player).prop "TransportPlaySpeeds" =
      (player.mprisTransportPlaySpeeds.map Variant.doubles).or
        (player.prop "TransportPlaySpeeds") := by
  unfold resetState
  split
  case isTrue hspeeds =>
    obtain ⟨speeds, hmpris, hpublished⟩ := hspeeds
    rw [hmpris, hpublished]
    rfl
  case isFalse => exact speeds_prvAddPlayerSpeedProps _ _ _ _

theorem published_rateToReset (key : String) (rate : ℚ)
    (player : PlayerState) :
    (if rateToReset key rate player ≠ 0 then
        some (.double (rateToReset key rate player))
      else player.prop key) =
      if rate ≠ 0 then some (.double rate) else player.prop key := by
  unfold rateToReset
  by_cases hsame : player.prop key = some (.double rate)
  · simp [hsame]
  · simp [hsame]

theorem bound_resetState {key : String} {rate : ℚ} {player : PlayerState}
    (hbound : (key, rate) ∈ [("MinimumRate", player.minRate),
      ("MaximumRate", player.maxRate)]) :
    (resetState player).prop key =
      if Republishes player rate then some (.double rate)
      else player.prop key := by
  unfold resetState Republishes
  by_cases hspeeds : speedsPublished player
  · simp [hspeeds]
  · have hreset : (key, rateToReset key rate player) ∈
        [("MinimumRate", rateToReset "MinimumRate" player.minRate player),
          ("MaximumRate", rateToReset "MaximumRate" player.maxRate player)] := by
      simp only [List.mem_cons, Prod.mk.injEq, List.not_mem_nil, or_false]
        at hbound ⊢
      rcases hbound with ⟨rfl, rfl⟩ | ⟨rfl, rfl⟩
      · exact .inl ⟨rfl, rfl⟩
      · exact .inr ⟨rfl, rfl⟩
    rw [if_neg hspeeds]
    simp only [hspeeds, not_false_eq_true, true_and]
    exact (bound_prvAddPlayerSpeedProps hreset _ _).trans
      (published_rateToReset key rate
        { player with dlnaTransportPlaySpeeds := none })

/-- After a new item the states publish the same and have nothing of the old one. -/
structure ForgetsSpeeds (player other : PlayerState) : Prop where
  published : publishedSpeeds (prvOpenUriCb none player) =
    publishedSpeeds (prvOpenUriCb none other)
  dlna : (prvOpenUriCb none player).dlnaTransportPlaySpeeds = none ∧
    (prvOpenUriCb none other).dlnaTransportPlaySpeeds = none
  rate : (prvOpenUriCb none player).rate = "1" ∧
    (prvOpenUriCb none other).rate = "1"

def KeepsRates (player : PlayerState) : Prop :=
  ∀ key ∈ "Rate" :: speedKeys,
    (prvOpenUriCb none player).prop key = player.prop key

def Settles (key : String) (rate : ℚ) (player : PlayerState) : Prop :=
  Republishes player rate ∨ player.prop key = some (.double rate)

def BoundsAgree (key : String) (rate : ℚ) (player other : PlayerState) :
    Prop :=
  (Settles key rate player ∧ Settles key rate other) ∨
    (¬Republishes player rate ∧ ¬Republishes other rate ∧
      player.prop key = other.prop key)

theorem bound_eq_iff_settles (key : String) (rate : ℚ) (player : PlayerState) :
    (if Republishes player rate then some (.double rate)
      else player.prop key) = some (.double rate) ↔
        Settles key rate player := by
  unfold Settles
  by_cases hpublishes : Republishes player rate <;> simp [hpublishes]

theorem boundsAgree_iff {key : String} {rate : ℚ}
    {player other : PlayerState} :
    (if Republishes player rate then some (.double rate)
      else player.prop key) =
      (if Republishes other rate then some (.double rate)
        else other.prop key) ↔ BoundsAgree key rate player other := by
  have hplayer := bound_eq_iff_settles key rate player
  have hother := bound_eq_iff_settles key rate other
  constructor
  · intro heq
    by_cases hsettles : Settles key rate player
    · exact .inl ⟨hsettles, hother.mp (heq ▸ hplayer.mpr hsettles)⟩
    · have hsettles' : ¬ Settles key rate other :=
        fun h => hsettles (hplayer.mp (heq.trans (hother.mpr h)))
      have hkept : ¬Republishes player rate := fun h => hsettles (.inl h)
      have hkept' : ¬Republishes other rate := fun h => hsettles' (.inl h)
      rw [if_neg hkept, if_neg hkept'] at heq
      exact .inr ⟨hkept, hkept', heq⟩
  · rintro (⟨hsettles, hsettles'⟩ | ⟨hkept, hkept', heq⟩)
    · rw [hplayer.mpr hsettles, hother.mpr hsettles']
    · rw [if_neg hkept, if_neg hkept', heq]

theorem publishedSpeeds_prvOpenUriCb (player : PlayerState) :
    publishedSpeeds (prvOpenUriCb none player) =
      [if Republishes player player.minRate then some (.double player.minRate)
        else player.prop "MinimumRate",
       if Republishes player player.maxRate then some (.double player.maxRate)
        else player.prop "MaximumRate",
       (player.mprisTransportPlaySpeeds.map Variant.doubles).or
        (player.prop "TransportPlaySpeeds")] := by
  have hprop (key : String) (hkey : key ≠ "Rate") :
      (prvOpenUriCb none player).prop key = (resetState player).prop key := by
    rw [prvOpenUriCb, prop_prvResetTransportSpeedProps]
    simp [hkey]
  simp only [publishedSpeeds, speedKeys, List.map_cons, List.map_nil]
  rw [hprop "MinimumRate" (by decide), hprop "MaximumRate" (by decide),
    hprop "TransportPlaySpeeds" (by decide), bound_resetState (.head _),
    bound_resetState (.tail _ (.head _)), speeds_resetState]

theorem speeds_agree_iff (speeds : Option (List ℚ)) (old old' : Option Variant) :
    (speeds.map Variant.doubles).or old = (speeds.map Variant.doubles).or old' ↔
      speeds ≠ none ∨ old = old' := by
  cases speeds <;> simp

/--
Two states with the same description publish the same after a new item exactly
when the description gives speeds or the states published the same ones, and
their bounds agree.
-/
theorem forgetsSpeeds_iff {player other : PlayerState}
    (h : introspected player = introspected other) :
    ForgetsSpeeds player other ↔
      (player.mprisTransportPlaySpeeds ≠ none ∨
        player.prop "TransportPlaySpeeds" = other.prop "TransportPlaySpeeds") ∧
      BoundsAgree "MinimumRate" player.minRate player other ∧
      BoundsAgree "MaximumRate" player.maxRate player other := by
  have hpublished : publishedSpeeds (prvOpenUriCb none player) =
      publishedSpeeds (prvOpenUriCb none other) ↔ ForgetsSpeeds player other :=
    ⟨fun heq => ⟨heq, ⟨dlna_prvResetTransportSpeedProps player,
        dlna_prvResetTransportSpeedProps other⟩,
      ⟨rateField_prvResetTransportSpeedProps player,
        rateField_prvResetTransportSpeedProps other⟩⟩,
      fun hforgets => hforgets.published⟩
  simp only [introspected, Prod.mk.injEq] at h
  obtain ⟨-, hmpris, hmin, hmax⟩ := h
  rw [← hpublished, publishedSpeeds_prvOpenUriCb, publishedSpeeds_prvOpenUriCb,
    ← hmpris, ← hmin, ← hmax]
  simp only [List.cons.injEq, and_true]
  rw [boundsAgree_iff, boundsAgree_iff, speeds_agree_iff]
  constructor
  · rintro ⟨hminimum, hmaximum, hspeeds⟩
    exact ⟨hspeeds, hminimum, hmaximum⟩
  · rintro ⟨hspeeds, hminimum, hmaximum⟩
    exact ⟨hminimum, hmaximum, hspeeds⟩

def KeepsBound (key : String) (rate : ℚ) (player : PlayerState) : Prop :=
  Republishes player rate → player.prop key = some (.double rate)

theorem keepsBound_iff (key : String) (rate : ℚ) (player : PlayerState) :
    (if Republishes player rate then some (.double rate)
      else player.prop key) = player.prop key ↔
        KeepsBound key rate player := by
  unfold KeepsBound
  by_cases hpublishes : Republishes player rate
  · simp [hpublishes, eq_comm]
  · simp [hpublishes]

theorem keepsRates_iff (player : PlayerState) :
    KeepsRates player ↔
      (player.rate = "1" ∨ player.prop "Rate" = some (.double 1)) ∧
      KeepsBound "MinimumRate" player.minRate player ∧
      KeepsBound "MaximumRate" player.maxRate player ∧
      (player.mprisTransportPlaySpeeds = none ∨ speedsPublished player) := by
  have hspeeds : (player.mprisTransportPlaySpeeds.map Variant.doubles).or
      (player.prop "TransportPlaySpeeds") = player.prop "TransportPlaySpeeds" ↔
        player.mprisTransportPlaySpeeds = none ∨ speedsPublished player := by
    unfold speedsPublished
    cases player.mprisTransportPlaySpeeds with
    | none => simp
    | some speeds => simp [eq_comm]
  have hrate : (prvOpenUriCb none player).prop "Rate" = player.prop "Rate" ↔
      player.rate = "1" ∨ player.prop "Rate" = some (.double 1) := by
    have hkept : (resetState player).prop "Rate" = player.prop "Rate" := by
      unfold resetState
      split
      · rfl
      · exact (changesOnly_prvAddPlayerSpeedProps _ _ _ _).props "Rate"
          (by decide)
    rw [prvOpenUriCb, prop_prvResetTransportSpeedProps, hkept]
    by_cases hone : player.rate = "1"
    · simp [hone]
    · simp [hone, eq_comm]
  have hpublished := publishedSpeeds_prvOpenUriCb player
  simp only [publishedSpeeds, speedKeys, List.map_cons, List.map_nil,
    List.cons.injEq, and_true] at hpublished
  obtain ⟨hmin, hmax, hlist⟩ := hpublished
  simp only [KeepsRates, speedKeys, List.forall_mem_cons, List.not_mem_nil,
    false_implies, implies_true, and_true]
  rw [hrate, hmin, hmax, hlist, keepsBound_iff, keepsBound_iff, hspeeds]

/--
After a new item two states with the same description publish the same speeds
exactly when the description gives speeds or they published the same, and their
bounds agree; the request for the next item keeps the rate and the speeds
exactly when there is nothing to reset.
-/
theorem new_item_speeds_iff {player other : PlayerState}
    (h : introspected player = introspected other) :
    (ForgetsSpeeds player other ↔
      (player.mprisTransportPlaySpeeds ≠ none ∨
        player.prop "TransportPlaySpeeds" = other.prop "TransportPlaySpeeds") ∧
      BoundsAgree "MinimumRate" player.minRate player other ∧
      BoundsAgree "MaximumRate" player.maxRate player other) ∧
    (KeepsRates player ↔
      (player.rate = "1" ∨ player.prop "Rate" = some (.double 1)) ∧
      KeepsBound "MinimumRate" player.minRate player ∧
      KeepsBound "MaximumRate" player.maxRate player ∧
      (player.mprisTransportPlaySpeeds = none ∨ speedsPublished player)) :=
  ⟨forgetsSpeeds_iff h, keepsRates_iff player⟩

def describedSpeeds : List PlayerEvent :=
  [.request true false, .avIntrospection (.read ["1", "2"] false)]

def itemSpeeds : List PlayerEvent :=
  [.lastChange { actions := some "X_DLNA_PS=4", playSpeed := some "4" }]

theorem described_speeds_return :
    ∃ described item,
      exec (playerStep bareDescription) playerRunNew describedSpeeds =
        some described ∧
      exec (playerStep bareDescription) playerRunNew
        (describedSpeeds ++ itemSpeeds) = some item ∧
      ForgetsSpeeds described.player item.player := by
  obtain ⟨described, hdescribed⟩ : ∃ last, exec (playerStep bareDescription)
      playerRunNew describedSpeeds = some last := ⟨_, rfl⟩
  obtain ⟨item, hitem⟩ : ∃ last, exec (playerStep bareDescription)
      playerRunNew (describedSpeeds ++ itemSpeeds) = some last := ⟨_, rfl⟩
  refine ⟨described, item, hdescribed, hitem, ?_⟩
  obtain rfl := Option.some.inj hdescribed
  obtain rfl := Option.some.inj hitem
  refine (new_item_speeds_iff (by decide +kernel)).1.mpr ⟨.inl ?_, ?_, ?_⟩
  · decide +kernel
  · exact .inl ⟨.inr (by decide +kernel), .inl (by decide +kernel)⟩
  · exact .inl ⟨.inr (by decide +kernel), .inl (by decide +kernel)⟩

/-- A renderer that describes no speeds, before and after an item with its own. -/
theorem item_speeds_survive :
    ∃ item, exec (playerStep bareDescription) playerRunNew itemSpeeds =
        some item ∧
      introspected playerNew = introspected item.player ∧
      ¬ ForgetsSpeeds playerNew item.player ∧ ¬ KeepsRates item.player := by
  refine ⟨_, rfl, by decide +kernel, fun hforgets => ?_, fun hkeeps => ?_⟩
  · exact absurd hforgets.published (by decide +kernel)
  · exact absurd (hkeeps "Rate" (by decide)) (by decide +kernel)

end DleynaRenderer.Player
