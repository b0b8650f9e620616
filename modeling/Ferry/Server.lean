import Ferry.Address
import Ferry.Palette.Sharing

/-!
# Backend servers

A player is on one backend server at a time. When that server is lost, a list of
fallbacks says where the player goes instead.
-/

namespace Ferry

/-- A backend server. -/
structure Server where
  name : String
  address : Address
  blocks : SharedPalette BlockId
  items : SharedPalette ItemId

namespace Server

/-- Whether two servers have the same name and address. -/
def same (left right : Server) : Bool :=
  left.name = right.name && left.address = right.address

/-- The first server of a name. -/
def named? (servers : List Server) (name : String) : Option Server :=
  servers.find? fun server => server.name = name

/-- The first server of a list that is not the lost one. -/
def fallback? (servers : List Server) (lost : Server) : Option Server :=
  servers.find? fun server => !server.same lost

end Server

end Ferry
