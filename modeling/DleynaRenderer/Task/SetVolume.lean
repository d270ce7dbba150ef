import DleynaRenderer.Player.RcEvents
import DleynaRenderer.Task.SetProp

/-!
# Setting the volume

A volume is scaled by the maximum of the renderer before it is sent.  The
maximum is read by the synchronisation of the properties, which setting one
does not call: until another request or an event has done so every volume is
sent as zero.

Doubles are exact rationals here.  The product of two doubles is rounded, so
that 0.29 of a maximum of 100 falls just below 29 in the code and is sent as 28.
-/

namespace DleynaRenderer.Task

open DleynaRenderer.Player EventSystem

/-- A description without a maximum leaves the one there is. -/
def readMaximum (maximum : Nat) : PlayerEvent → Nat
  | .rcIntrospection (.read declared) => declared.getD maximum
  | _ => maximum

def readsMaximum : PlayerEvent → Bool
  | .rcIntrospection (.read _) => true
  | _ => false

/-- The description can be read as long as there is a device, and declares `M`. -/
def Declares (M : Nat) : PlayerEvent → Prop
  | .rcIntrospection result => result = .lostDevice ∨ result = .read (some M)
  | _ => True

theorem maxVolume_of_outcome {info : DeviceInfo} {run : PlayerRun}
    {event : PlayerEvent} {outcome : SyncOutcome} {player : PlayerState}
    (hevent : ∀ result, event ≠ .rcIntrospection result)
    (houtcome : syncOutcome info run event = some outcome)
    (hplayer : outcome.player = some player) :
    player.maxVolume = run.player.maxVolume := by
  have hstart {avProxy rcProxy : Bool} {trigger : Option RcEvent}
      (hstart : startSync info avProxy rcProxy trigger run.player = outcome) :
      player.maxVolume = run.player.maxVolume := by
    rw [← hstart, player_startSync] at hplayer
    obtain rfl := Option.some.inj hplayer
    rfl
  unfold syncOutcome at houtcome
  split at houtcome
  case h_1 =>
    split_ifs at houtcome
    exact hstart (Option.some.inj houtcome)
  case h_2 =>
    split at houtcome
    · contradiction
    · split_ifs at houtcome
      exact hstart (Option.some.inj houtcome)
  case h_3 result =>
    split at houtcome
    · obtain rfl := Option.some.inj houtcome
      cases result with
      | lostDevice => contradiction
      | failed =>
          obtain rfl := by simpa [afterAvIntrospection] using hplayer
          rfl
      | read allowedSpeeds bytePosition =>
          obtain rfl := by simpa [afterAvIntrospection] using hplayer
          exact congrArg RcView.maxVolume
            (rcView_prvGetAvServiceStatesValues allowedSpeeds bytePosition _)
    · contradiction
  case h_4 result => exact absurd rfl (hevent result)
  case h_5 => contradiction

theorem maxVolume_step {info : DeviceInfo} {run next : PlayerRun}
    {event : PlayerEvent} (hstep : playerStep info run event = some next) :
    next.player.maxVolume = readMaximum run.player.maxVolume event := by
  rw [maxVolume_playerStep hstep]
  by_cases hevent : ∃ result, event = .rcIntrospection result
  · obtain ⟨result, rfl⟩ := hevent
    unfold playerStep at hstep
    cases houtcome : syncOutcome info run (.rcIntrospection result) with
    | none => simp [houtcome, plainEffect] at hstep
    | some outcome =>
        simp only [syncOutcome] at houtcome
        split at houtcome
        case h_1 rcProxy trigger rest hsyncs =>
          obtain rfl := Option.some.inj houtcome
          cases result <;>
            simp [nextMaximum, syncOutcome, hsyncs, afterRcIntrospection,
              readMaximum, prvGetRcServiceStatesValues]
        · contradiction
  · simp only [not_exists] at hevent
    have hsame : readMaximum run.player.maxVolume event =
        run.player.maxVolume := by
      cases event with
      | rcIntrospection result => exact absurd rfl (hevent result)
      | _ => rfl
    rw [hsame]
    unfold nextMaximum
    split
    case h_1 player trigger houtcome =>
      exact maxVolume_of_outcome hevent houtcome rfl
    case h_2 => rfl

theorem maxVolume_exec {info : DeviceInfo} {events : List PlayerEvent}
    {last : PlayerRun}
    (hrun : exec (playerStep info) playerRunNew events = some last) :
    last.player.maxVolume = events.foldl readMaximum 0 := by
  have hmeets : Meets (playerStep info) (fun _ _ => True) playerRunNew events :=
    meets_of_forall_mem (fun _ _ _ => trivial) _
  exact exec_projection (fun run => run.player.maxVolume) readMaximum
    (fun _ _ _ _ hstep => maxVolume_step hstep) hrun hmeets

theorem foldl_readMaximum {M : Nat} {events : List PlayerEvent}
    (hdeclares : ∀ event ∈ events, Declares M event) (maximum : Nat) :
    events.foldl readMaximum maximum =
      if events.any readsMaximum then M else maximum := by
  induction events generalizing maximum with
  | nil => rfl
  | cons event events ih =>
      have hhead := hdeclares event List.mem_cons_self
      have htail := ih fun later hmem =>
        hdeclares later (List.mem_cons_of_mem _ hmem)
      rw [List.foldl_cons, htail, List.any_cons]
      cases event with
      | rcIntrospection result =>
          rcases hhead with rfl | rfl
          · rfl
          · simp [readMaximum, readsMaximum]
      | _ => rfl

theorem toGuint_natCast {k : Nat} (hk : k < 2 ^ 32) :
    toGuint (k : ℚ) = some k := by
  have hnonneg : (0 : ℚ) ≤ k := Nat.cast_nonneg k
  have hlt : (k : ℚ) < 2 ^ 32 := by exact_mod_cast hk
  rw [toGuint, if_pos ⟨by linarith, hlt⟩, Int.floor_natCast, Int.toNat_natCast]

theorem toGuint_le_iff {r : ℚ} {M : Nat} (hM : M < 2 ^ 32) :
    (∃ n, toGuint r = some n ∧ n ≤ M) ↔ -1 < r ∧ r < M + 1 := by
  have hbound : (M : ℚ) + 1 ≤ 2 ^ 32 := by exact_mod_cast hM
  constructor
  · rintro ⟨n, hcast, hle⟩
    unfold toGuint at hcast
    split_ifs at hcast with hrange
    obtain rfl := Option.some.inj hcast
    have hfloor : ⌊r⌋ ≤ (M : Int) := by omega
    have hcastFloor : ((⌊r⌋ : Int) : ℚ) ≤ M := by exact_mod_cast hfloor
    have hlt := Int.lt_floor_add_one r
    exact ⟨hrange.1, by linarith⟩
  · rintro ⟨hlow, hhigh⟩
    have hfloor : ⌊r⌋ < (M : Int) + 1 := by
      rw [Int.floor_lt]
      exact_mod_cast hhigh
    refine ⟨⌊r⌋.toNat, ?_, by omega⟩
    rw [toGuint, if_pos ⟨hlow, by linarith⟩]

def sentVolume (device : DeviceView) (interfaceName : String) (v : ℚ)
    (invocation : Nat) : Option ControlAction :=
  (setPropEffect device (.double v)
    (setPropStarted interfaceName "Volume" (.double v) invocation)).bind
      SetPropEffect.action

theorem sentVolume_eq {device : DeviceView} {interfaceName : String}
    (hinterface : IsPlayerInterface interfaceName)
    (hproxy : device.rcProxy = true) (v : ℚ) (invocation : Nat) :
    sentVolume device interfaceName v invocation =
      some (.setVolume (toGuint (v * device.player.maxVolume))) := by
  have heffect := setPropEffect_of_managed device (.double v) invocation
    hinterface (show "Volume" ≠ "Rate" by decide)
  rw [if_neg (by decide), hproxy] at heffect
  rw [sentVolume, heffect]
  rfl

/-- The volume sent is one of the renderer's, for a published value its own. -/
def SentFaithfully (device : DeviceView) (interfaceName : String) (v : ℚ)
    (invocation M : Nat) : Prop :=
  ∃ n, sentVolume device interfaceName v invocation =
      some (.setVolume (some n)) ∧
    n ≤ M ∧ ∀ k ≤ M, v = k / M → n = k

theorem sentFaithfully_of_unread {device : DeviceView} {interfaceName : String}
    (hinterface : IsPlayerInterface interfaceName)
    (hproxy : device.rcProxy = true) (hzero : device.player.maxVolume = 0)
    (v : ℚ) (invocation M : Nat) :
    SentFaithfully device interfaceName v invocation M ↔
      ∀ k, 1 ≤ k → k ≤ M → v ≠ k / M := by
  have hsent : sentVolume device interfaceName v invocation =
      some (.setVolume (some 0)) := by
    have hcast := toGuint_natCast (show 0 < 2 ^ 32 by decide)
    rw [sentVolume_eq hinterface hproxy, hzero, Nat.cast_zero, mul_zero]
    rw [Nat.cast_zero] at hcast
    rw [hcast]
  unfold SentFaithfully
  rw [hsent]
  constructor
  · rintro ⟨n, hn, -, hpublished⟩ k hpos hle heq
    obtain rfl : 0 = n := by simpa using hn
    have hk := hpublished k hle heq
    omega
  · intro hother
    refine ⟨0, rfl, Nat.zero_le M, fun k hle heq => ?_⟩
    by_contra hne
    exact hother k (by omega) hle heq

theorem sentFaithfully_of_read {device : DeviceView} {interfaceName : String}
    (hinterface : IsPlayerInterface interfaceName)
    (hproxy : device.rcProxy = true) {M : Nat} (hM : 1 ≤ M) (hlt : M < 2 ^ 32)
    (hread : device.player.maxVolume = M) (v : ℚ) (invocation : Nat) :
    SentFaithfully device interfaceName v invocation M ↔
      -1 < v * M ∧ v * M < M + 1 := by
  have hne : (M : ℚ) ≠ 0 := by
    rw [Nat.cast_ne_zero]
    omega
  unfold SentFaithfully
  rw [sentVolume_eq hinterface hproxy, hread, ← toGuint_le_iff hlt]
  constructor
  · rintro ⟨n, hn, hle, -⟩
    exact ⟨n, by simpa using hn, hle⟩
  · rintro ⟨n, hn, hle⟩
    refine ⟨n, by rw [hn], hle, ?_⟩
    rintro k hk rfl
    rw [div_mul_cancel₀ _ hne, toGuint_natCast (by omega)] at hn
    exact (Option.some.inj hn).symm

/--
Once the maximum has been read a volume is sent faithfully exactly when it is
above `-1 / M` and below `(M + 1) / M`; before, exactly when it is not one that
the renderer publishes for a positive volume.
-/
theorem set_volume_faithful_iff {info : DeviceInfo} {events : List PlayerEvent}
    {last : PlayerRun} {M : UInt32} (hM : 1 ≤ M.toNat)
    (hrun : exec (playerStep info) playerRunNew events = some last)
    (hdeclares : ∀ event ∈ events, Declares M.toNat event)
    {device : DeviceView} (hplayer : device.player = last.player)
    (hproxy : device.rcProxy = true) {interfaceName : String}
    (hinterface : IsPlayerInterface interfaceName) (v : ℚ) (invocation : Nat) :
    SentFaithfully device interfaceName v invocation M.toNat ↔
      if events.any readsMaximum then
        -1 < v * M.toNat ∧ v * M.toNat < M.toNat + 1
      else ∀ k, 1 ≤ k → k ≤ M.toNat → v ≠ k / M.toNat := by
  have hmaximum : device.player.maxVolume =
      if events.any readsMaximum then M.toNat else 0 := by
    rw [hplayer, maxVolume_exec hrun, foldl_readMaximum hdeclares]
  by_cases hread : events.any readsMaximum = true
  · rw [if_pos hread] at hmaximum ⊢
    exact sentFaithfully_of_read hinterface hproxy hM M.toNat_lt hmaximum v
      invocation
  · rw [if_neg hread] at hmaximum ⊢
    exact sentFaithfully_of_unread hinterface hproxy hmaximum v invocation _

def readHundred : List PlayerEvent :=
  [.request true true, .avIntrospection .failed,
    .rcIntrospection (.read (some 100))]

theorem set_volume_faithful_half :
    ∃ last, exec (playerStep bareDescription) playerRunNew readHundred =
        some last ∧
      SentFaithfully (playerDevice last.player) playerInterface (1 / 2) 4 100 := by
  obtain ⟨last, hrun⟩ : ∃ last, exec (playerStep bareDescription) playerRunNew
      readHundred = some last := ⟨_, rfl⟩
  have hdeclares : ∀ event ∈ readHundred, Declares (100 : UInt32).toNat event := by
    intro event hmem
    simp only [readHundred, List.mem_cons, List.not_mem_nil, or_false] at hmem
    rcases hmem with rfl | rfl | rfl
    · trivial
    · trivial
    · exact .inr rfl
  refine ⟨last, hrun, ?_⟩
  refine (set_volume_faithful_iff (by decide) hrun hdeclares rfl rfl (.inl rfl)
    (1 / 2) 4).mpr ?_
  decide +kernel

/-- The first request turns the sound off, and a volume may exceed the maximum. -/
theorem volume_sent_unfaithfully :
    sentVolume (playerDevice playerNew) playerInterface 1 4 =
        some (.setVolume (some 0)) ∧
      ¬SentFaithfully (playerDevice playerNew) playerInterface 1 4 100 ∧
      ∃ last, exec (playerStep bareDescription) playerRunNew readHundred =
          some last ∧
        sentVolume (playerDevice last.player) playerInterface 2 4 =
          some (.setVolume (some 200)) ∧
        ¬SentFaithfully (playerDevice last.player) playerInterface 2 4 100 := by
  obtain ⟨last, hrun⟩ : ∃ last, exec (playerStep bareDescription) playerRunNew
      readHundred = some last := ⟨_, rfl⟩
  have hmaximum : last.player.maxVolume = 100 := maxVolume_exec hrun
  have hsent : sentVolume (playerDevice last.player) playerInterface 2 4 =
      some (.setVolume (some 200)) := by
    have hcast := toGuint_natCast (show 200 < 2 ^ 32 by decide)
    rw [sentVolume_eq (.inl rfl) rfl, show (playerDevice last.player).player =
      last.player from rfl, hmaximum, ← hcast]
    norm_num
  refine ⟨by decide +kernel, ?_, last, hrun, hsent, ?_⟩
  · rw [sentFaithfully_of_unread (.inl rfl) rfl rfl]
    intro hother
    exact hother 100 (by decide) (by decide) (by norm_num)
  · rw [sentFaithfully_of_read (.inl rfl) rfl (by decide) (by decide) hmaximum]
    norm_num

end DleynaRenderer.Task
