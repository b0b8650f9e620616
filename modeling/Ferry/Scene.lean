import Ferry.Packet.Basic

/-!
# What the client shows

Entities belong to one backend. When the player moves on, everything that the old backend
has shown must be taken from the client again, so the proxy keeps a record of it: the
entities, the players in the list, and who rides whom.
-/

namespace Ferry

/-- A link between two entities, by their unique ids. -/
structure Link where
  fromId : Int64
  toId : Int64
  deriving DecidableEq, Repr

/-- Whether a link touches an entity. -/
def Link.touches (link : Link) (uniqueId : Int64) : Bool :=
  link.fromId = uniqueId || link.toId = uniqueId

/-- Links in the order of their ends. -/
def Link.le (left right : Link) : Bool :=
  left.fromId < right.fromId || (left.fromId = right.fromId && left.toId ≤ right.toId)

/-- What the client shows of a backend. No list holds anything twice. -/
structure Scene where
  /-- Entities, by their unique ids. -/
  entities : List Int64
  /-- Players in the player list. -/
  players : List Uuid
  links : List Link
  deriving DecidableEq, Repr

namespace Scene

/-- Nothing is shown. -/
def empty : Scene := ⟨[], [], []⟩

/-- The packets that change what is shown. -/
def packets : List PacketId := [PacketId.addPlayer, PacketId.addEntity, PacketId.addItemEntity,
  PacketId.removeEntity, PacketId.playerList, PacketId.setEntityLink]

/-- What is shown after a packet. -/
def observe (scene : Scene) : Packet → Scene
  | .addPlayer packet => { scene with
      entities := scene.entities.insert packet.uniqueId
      players := scene.players.insert packet.uuid }
  | .addEntity packet => { scene with entities := scene.entities.insert packet.uniqueId }
  | .addItemEntity packet => { scene with entities := scene.entities.insert packet.uniqueId }
  | .removeEntity packet => { scene with
      entities := scene.entities.filter (· ≠ packet.uniqueId)
      links := scene.links.filter fun link => !link.touches packet.uniqueId }
  | .playerList (.remove uuids) => { scene with
      players := scene.players.filter fun uuid => uuid ∉ uuids }
  | .setEntityLink packet =>
    let link : Link := ⟨packet.fromId, packet.toId⟩
    if packet.linkType = SetEntityLink.removal then
      { scene with links := scene.links.filter (· ≠ link) }
    else { scene with links := scene.links.insert link }
  | _ => scene

/-- The packets that take everything from the client: first the links, then the entities,
then the players in the list, each in ascending order. -/
def teardown (scene : Scene) : List Packet :=
  let links := scene.links.mergeSort Link.le
  let entities := scene.entities.mergeSort (· ≤ ·)
  let players := scene.players.mergeSort fun left right => left.toNat ≤ right.toNat
  links.map (fun link => .setEntityLink (SetEntityLink.remove link.fromId link.toId)) ++
    entities.map (fun uniqueId => .removeEntity ⟨uniqueId⟩) ++
    (if players.isEmpty then [] else [.playerList (.remove players)])

/-- Takes everything from the client. Nothing is shown any more. -/
def takeDown (scene : Scene) : List Packet × Scene := (scene.teardown, empty)

@[simp] theorem takeDown_fst (scene : Scene) : scene.takeDown.1 = scene.teardown := rfl

@[simp] theorem takeDown_snd (scene : Scene) : scene.takeDown.2 = empty := rfl

end Scene

end Ferry
