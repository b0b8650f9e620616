/-!
# Protocol versions and the layout changes between them

Every layout is a function of the version. Three versions are supported; the
numbers between them are ordered like the releases, so a change is named by the
first supported version that has it.
-/

namespace Ferry

/-- A protocol version, by the number announced at login. -/
structure Version where
  number : UInt32
  deriving DecidableEq, Repr, Inhabited

namespace Version

/-- Game release 1.19.80. -/
def v582 : Version := ⟨582⟩

/-- Game release 1.20.60. -/
def v649 : Version := ⟨649⟩

/-- Game release 1.21.20. -/
def v712 : Version := ⟨712⟩

/-- The newest supported version. -/
def latest : Version := v712

/-- The supported versions, oldest first. -/
def supported : List Version := [v582, v649, v712]

/-- The supported version with a number, if there is one. -/
def ofNumber? (number : UInt32) : Option Version :=
  supported.find? fun version => version.number = number

/-- Whether the version is `first` or a later one. -/
def isSince (version first : Version) : Bool :=
  first.number ≤ version.number

/-- Whether batches carry the tag of their compression algorithm. -/
def hasCompressionTag (version : Version) : Bool := version.isSince v649

/-- Whether chunk columns carry their dimension. -/
def hasChunkDimension (version : Version) : Bool := version.isSince v649

/-- Whether a disconnect carries a reason code. -/
def hasDisconnectReason (version : Version) : Bool := version.isSince v649

/-- Whether a disconnect carries a filtered copy of its message. -/
def hasFilteredMessage (version : Version) : Bool := version.isSince v712

/-- Whether container slots carry a full container name. -/
def hasFullContainerName (version : Version) : Bool := version.isSince v712

/-- Whether stopping a sound carries the separate music flag. -/
def hasStopMusicFlag (version : Version) : Bool := version.isSince v712

/-- Whether a dimension change carries a loading screen id. -/
def hasLoadingScreenId (version : Version) : Bool := version.isSince v712

instance : ToString Version where
  toString version := toString version.number.toNat

end Version

end Ferry
