import DleynaRenderer.Player.State

/-!
# The published introspection

The properties that the two introspection texts declare, with their D-Bus types.
Methods, signals and access rights are left out.
-/

namespace DleynaRenderer

open Player

structure DeclaredProperty where
  name : String
  type : String
  deriving DecidableEq, Repr

structure DeclaredInterface where
  name : String
  properties : List DeclaredProperty
  deriving DecidableEq, Repr

def dlrInterfaceServer : String := "org.mpris.MediaPlayer2"

def dlrInterfacePlayer : String := "org.mpris.MediaPlayer2.Player"

def dleynaServerInterfaceRendererDevice : String :=
  "com.intel.dLeynaRenderer.RendererDevice"

def dleynaServerInterfaceManager : String := "com.intel.dLeynaRenderer.Manager"

def serverProperties : List DeclaredProperty :=
  [⟨"CanQuit", "b"⟩, ⟨"CanRaise", "b"⟩, ⟨"CanSetFullscreen", "b"⟩,
   ⟨"HasTrackList", "b"⟩, ⟨"Identity", "s"⟩, ⟨"SupportedUriSchemes", "as"⟩,
   ⟨"SupportedMimeTypes", "as"⟩]

def playerProperties : List DeclaredProperty :=
  [⟨"PlaybackStatus", "s"⟩, ⟨"Rate", "d"⟩, ⟨"MinimumRate", "d"⟩,
   ⟨"MaximumRate", "d"⟩, ⟨"TransportPlaySpeeds", "ad"⟩, ⟨"Volume", "d"⟩,
   ⟨"CanPlay", "b"⟩, ⟨"CanSeek", "b"⟩, ⟨"CanByteSeek", "b"⟩,
   ⟨"CanControl", "b"⟩, ⟨"CanPause", "b"⟩, ⟨"CanGoNext", "b"⟩,
   ⟨"CanGoPrevious", "b"⟩, ⟨"Position", "x"⟩, ⟨"BytePosition", "x"⟩,
   ⟨"Metadata", "a\x7bsv\x7d"⟩, ⟨"CurrentTrack", "u"⟩, ⟨"NumberOfTracks", "u"⟩,
   ⟨"Mute", "b"⟩]

def rendererDeviceProperties : List DeclaredProperty :=
  [⟨"DeviceClasses", "as"⟩, ⟨"DeviceType", "s"⟩, ⟨"UDN", "s"⟩,
   ⟨"FriendlyName", "s"⟩, ⟨"IconURL", "s"⟩, ⟨"Manufacturer", "s"⟩,
   ⟨"ManufacturerUrl", "s"⟩, ⟨"ModelDescription", "s"⟩, ⟨"ModelName", "s"⟩,
   ⟨"ModelNumber", "s"⟩, ⟨"SerialNumber", "s"⟩, ⟨"PresentationURL", "s"⟩,
   ⟨"ProtocolInfo", "s"⟩]

/-- `g_root_introspection`, which describes the interface of the manager alone -/
def managerProperties : List DeclaredProperty :=
  [⟨"NeverQuit", "as"⟩, ⟨"WhiteListEntries", "as"⟩, ⟨"WhiteListEnabled", "b"⟩]

def gServerIntrospection : List DeclaredInterface :=
  [⟨dlrInterfaceServer, serverProperties⟩,
   ⟨dlrInterfacePlayer, playerProperties⟩,
   ⟨dleynaServerInterfaceRendererDevice, rendererDeviceProperties⟩]

/-- `g_variant_get_type_string` -/
def Player.Variant.typeString : Variant → String
  | .boolean _ => "b"
  | .uint32 _ => "u"
  | .int64 _ => "x"
  | .uint64 _ => "t"
  | .double _ => "d"
  | .string _ => "s"
  | .strings _ => "as"
  | .doubles _ => "ad"
  | .dict _ => "a\x7bsv\x7d"
  | .other typeString => typeString

def Typed (properties : List DeclaredProperty) (entry : String × Variant) :
    Prop :=
  ∀ property ∈ properties, property.name = entry.1 →
    entry.2.typeString = property.type

instance (properties : List DeclaredProperty) (entry : String × Variant) :
    Decidable (Typed properties entry) :=
  inferInstanceAs (Decidable (∀ property ∈ properties, _ → _))

def Conforms (properties : List DeclaredProperty) (props : Props) : Prop :=
  ∀ key value, props.lookup key = some value → Typed properties (key, value)

theorem conforms_empty (properties : List DeclaredProperty) :
    Conforms properties ∅ := by
  intro key value hlookup
  simp at hlookup

theorem Conforms.insert {properties : List DeclaredProperty} {props : Props}
    (h : Conforms properties props) {key : String} {value : Variant}
    (htyped : Typed properties (key, value)) :
    Conforms properties (props.insert key value) := by
  intro other old hlookup
  rw [HashTable.lookup_insert_eq] at hlookup
  split at hlookup
  case isTrue heq =>
    obtain rfl := Option.some.inj hlookup
    exact heq ▸ htyped
  case isFalse => exact h other old hlookup

theorem Conforms.erase {properties : List DeclaredProperty} {props : Props}
    (h : Conforms properties props) (key : String) :
    Conforms properties (props.erase key) := by
  intro other old hlookup
  rw [HashTable.lookup_erase_eq] at hlookup
  split at hlookup
  case isTrue => contradiction
  case isFalse => exact h other old hlookup

theorem Conforms.insertAll {properties : List DeclaredProperty} {props : Props}
    (h : Conforms properties props) {writes : List (String × Variant)}
    (htyped : ∀ write ∈ writes, Typed properties write) :
    Conforms properties (HashTable.insertAll props writes) := by
  intro key value hlookup
  rcases HashTable.lookup_insertAll_cases hlookup with hmem | hold
  · exact htyped _ hmem
  · exact h key value hold

end DleynaRenderer
