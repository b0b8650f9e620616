import Ferry.Position
import Ferry.Version

/-!
# Packets about sights and sounds
-/

namespace Ferry

/-- Something that happens at a place. -/
structure LevelEvent where
  event : Int32
  position : Vector
  data : Int32
  deriving DecidableEq, Repr

namespace LevelEvent

/-- What happens, where, and to what. -/
def layout : Layout LevelEvent :=
  (Layout.varInt32.pair (Vector.layout.pair Layout.varInt32)).convert
    (fun (event, position, data) => ⟨event, position, data⟩)
    (fun packet => (packet.event, packet.position, packet.data))

/-- A block breaks; the data is that block. -/
def destroyBlock : Int32 := 2001

/-- A block cracks; the data is that block in the low 24 bits and its face above. -/
def crackBlock : Int32 := 2014

end LevelEvent

/-- Something that is heard. -/
structure LevelSoundEvent where
  sound : UInt32
  position : Vector
  extraData : Int32
  rest : Bytes
  deriving DecidableEq, Repr

namespace LevelSoundEvent

/-- The sound, where it comes from, its extra data, and what follows. -/
def layout : Layout LevelSoundEvent :=
  (Layout.varUInt32.pair (Vector.layout.pair (Layout.varInt32.pair Layout.rest))).convert
    (fun (sound, position, extraData, rest) => ⟨sound, position, extraData, rest⟩)
    (fun packet => (packet.sound, packet.position, packet.extraData, packet.rest))

/-- The sounds whose extra data is a block: using an item on it, hitting, stepping,
jumping, breaking, placing, stepping heavily and falling. -/
def blockSounds : List UInt32 := [0, 1, 2, 4, 5, 6, 7, 9]

/-- Whether the extra data is a block. -/
def carriesBlock (packet : LevelSoundEvent) : Bool :=
  blockSounds.contains packet.sound

end LevelSoundEvent

/-- A frequent event that is only seen; its data is a tag, uninterpreted. -/
structure LevelEventGeneric where
  event : Int32
  data : Bytes
  deriving DecidableEq, Repr

/-- What happens, and then a tag without its root. -/
def LevelEventGeneric.layout : Layout LevelEventGeneric :=
  (Layout.varInt32.pair Layout.rest).convert
    (fun (event, data) => ⟨event, data⟩) (fun packet => (packet.event, packet.data))

/-- Silences one sound or all. -/
structure StopSound where
  soundName : String
  stopAll : Bool
  stopMusic : Bool
  deriving DecidableEq, Repr

namespace StopSound

/-- The name and the flags, the last only in versions that have it. -/
def layout (version : Version) : Layout StopSound :=
  (Layout.text.pair (Layout.bool.pair
    (Layout.onlyIf version.hasStopMusicFlag Layout.bool false))).convert
    (fun (name, stopAll, stopMusic) => ⟨name, stopAll, stopMusic⟩)
    (fun packet => (packet.soundName, packet.stopAll, packet.stopMusic))

/-- Silences every sound. -/
def all : StopSound := ⟨"", true, false⟩

end StopSound

end Ferry
