import DleynaRenderer.Error
import DleynaRenderer.Foundation.CString
import DleynaRenderer.Foundation.HashTable

/-!
# The player state of a device

The three property tables of a device, the tables of its play speeds and the
signals it has emitted.  A function of the source that collects what it changes
in a variant builder works here on an `Update`: the state together with the
entries collected so far.
-/

namespace DleynaRenderer.Player

inductive MetaValue where
  | int32 (n : Int)
  | int64 (n : Int)
  | string (s : String)
  | strings (values : List String)
  deriving DecidableEq, Repr

abbrev MetaData := List (String × MetaValue)

/-- Of a value with a type that no property has, `other` keeps the type string. -/
inductive Variant where
  | boolean (b : Bool)
  | uint32 (n : Nat)
  | int64 (n : Int)
  | uint64 (n : Nat)
  | double (r : ℚ)
  | string (s : String)
  | strings (values : List String)
  | doubles (values : List ℚ)
  | dict (entries : MetaData)
  | other (typeString : String)
  deriving DecidableEq, Repr

abbrev Props := HashTable String Variant

abbrev Changed := List (String × Variant)

/-- What the device description says; a text that is missing is `none`. -/
structure DeviceInfo where
  dlnaClasses : List String
  deviceType : Option String
  udn : Option String
  friendlyName : Option String
  iconUrl : Option String
  manufacturer : Option String
  manufacturerUrl : Option String
  modelDescription : Option String
  modelName : Option String
  modelNumber : Option String
  serialNumber : Option String
  presentationUrl : Option String
  deriving DecidableEq, Repr

def bareDescription : DeviceInfo :=
  ⟨[], none, none, none, none, none, none, none, none, none, none, none⟩

structure PlayerState where
  rootProps : Props
  playerProps : Props
  deviceProps : Props
  synced : Bool
  maxVolume : Nat
  transportPlaySpeeds : Option (List String)
  dlnaTransportPlaySpeeds : Option (List String)
  mprisTransportPlaySpeeds : Option (List ℚ)
  rate : String
  minRate : ℚ
  maxRate : ℚ
  canGetBytePosition : Bool
  signals : List Changed
  deriving DecidableEq

/-- The state `dlr_device_new` leaves a device in. -/
def playerNew : PlayerState where
  rootProps := ∅
  playerProps := ∅
  deviceProps := ∅
  synced := false
  maxVolume := 0
  transportPlaySpeeds := none
  dlnaTransportPlaySpeeds := none
  mprisTransportPlaySpeeds := none
  rate := "1"
  minRate := 0
  maxRate := 0
  canGetBytePosition := false
  signals := []

def PlayerState.prop (player : PlayerState) (key : String) : Option Variant :=
  player.playerProps.lookup key

structure Update where
  player : PlayerState
  changed : Changed

/-- `g_variant_builder_new` -/
def Update.start (player : PlayerState) : Update := ⟨player, []⟩

def prvChangeProps (key : String) (value : Variant) (update : Update) :
    Update where
  player := { update.player with
    playerProps := update.player.playerProps.insert key value }
  changed := update.changed ++ [(key, value)]

def prvEmitSignalPropertiesChanged (update : Update) : PlayerState :=
  { update.player with signals := update.player.signals ++ [update.changed] }

@[simp] theorem prop_prvChangeProps (key other : String) (value : Variant)
    (update : Update) :
    (prvChangeProps key value update).player.prop other =
      if other = key then some value else update.player.prop other :=
  HashTable.lookup_insert_eq _ _ _ _

@[simp] theorem prop_emit (update : Update) (key : String) :
    (prvEmitSignalPropertiesChanged update).prop key =
      update.player.prop key := rfl

structure ChangesOnly (keys : List String) (player other : PlayerState) :
    Prop where
  fields : { player with
    playerProps := other.playerProps, signals := other.signals } = other
  props : ∀ key, key ∉ keys → other.prop key = player.prop key

namespace ChangesOnly

variable {keys : List String} {player other : PlayerState}

theorem refl (keys : List String) (player : PlayerState) :
    ChangesOnly keys player player :=
  ⟨rfl, fun _ _ => rfl⟩

theorem trans {last : PlayerState} (hfirst : ChangesOnly keys player other)
    (hsecond : ChangesOnly keys other last) : ChangesOnly keys player last where
  fields := by rw [← hsecond.fields, ← hfirst.fields]
  props key hkey := (hsecond.props key hkey).trans (hfirst.props key hkey)

theorem mono {more : List String} (hsubset : keys ⊆ more)
    (h : ChangesOnly keys player other) : ChangesOnly more player other where
  fields := h.fields
  props key hkey := h.props key fun hmem => hkey (hsubset hmem)

theorem change {key : String} (hkey : key ∈ keys) (value : Variant)
    (update : Update) :
    ChangesOnly keys update.player
      (prvChangeProps key value update).player where
  fields := rfl
  props other hother := by
    have hne : other ≠ key := fun heq => hother (heq ▸ hkey)
    simp [hne]

theorem emit (keys : List String) (update : Update) :
    ChangesOnly keys update.player (prvEmitSignalPropertiesChanged update) :=
  ⟨rfl, fun _ _ => rfl⟩

theorem rate_eq (h : ChangesOnly keys player other) :
    other.rate = player.rate := by
  rw [← h.fields]

theorem dlna_eq (h : ChangesOnly keys player other) :
    other.dlnaTransportPlaySpeeds = player.dlnaTransportPlaySpeeds := by
  rw [← h.fields]

theorem mpris_eq (h : ChangesOnly keys player other) :
    other.mprisTransportPlaySpeeds = player.mprisTransportPlaySpeeds := by
  rw [← h.fields]

theorem maxVolume_eq (h : ChangesOnly keys player other) :
    other.maxVolume = player.maxVolume := by
  rw [← h.fields]

theorem minRate_eq (h : ChangesOnly keys player other) :
    other.minRate = player.minRate := by
  rw [← h.fields]

theorem maxRate_eq (h : ChangesOnly keys player other) :
    other.maxRate = player.maxRate := by
  rw [← h.fields]

theorem transport_eq (h : ChangesOnly keys player other) :
    other.transportPlaySpeeds = player.transportPlaySpeeds := by
  rw [← h.fields]

theorem deviceProps_eq (h : ChangesOnly keys player other) :
    other.deviceProps = player.deviceProps := by
  rw [← h.fields]

end ChangesOnly

def stringSet (values : List String) : HashTable String Unit :=
  values.foldl (fun table value => table.insert value ()) ∅

def asciiDown (s : List Char) : String := String.ofList (s.map Char.toLower)

def protocolScheme (scheme : List Char) : List Char :=
  if (scheme.take 5).map Char.toLower = ['h', 't', 't', 'p', '-'] then
    scheme.take 4
  else scheme

def protocolEntry (entry : List Char) : Option (String × String) :=
  match CString.gStrsplit entry ':' with
  | scheme :: _ :: mime :: _ =>
      some (asciiDown (protocolScheme scheme), asciiDown mime)
  | _ => none

def prvProcessProtocolInfo (protocolInfo : String) (player : PlayerState) :
    PlayerState :=
  let entries :=
    (CString.gStrsplit protocolInfo.toList ',').filterMap protocolEntry
  let protocols := stringSet (entries.map Prod.fst)
  let types := stringSet (entries.map Prod.snd)
  { player with
    deviceProps :=
      player.deviceProps.insert "ProtocolInfo" (.string protocolInfo)
    rootProps :=
      (player.rootProps.insert "SupportedUriSchemes"
        (.strings protocols.keys)).insert "SupportedMimeTypes"
        (.strings types.keys) }

end DleynaRenderer.Player
