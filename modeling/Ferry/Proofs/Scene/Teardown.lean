import Ferry.Proofs.Scene.Record
import Mathlib.Data.List.Induction
import Mathlib.Data.List.Nodup

/-!
# What is taken from the client

When a player moves on, the proxy takes from the client what is recorded of the backend that it
leaves. What is recorded follows from the packets of that backend alone: a link, an entity or a
player in the list is there if the last packet that is about it has put it there. Each is taken
away once, and nothing else is.
-/

namespace Ferry

/-- Whether a row of packets holds one that does something, and none behind it that undoes it. -/
def Endures (does undoes : Packet → Bool) (history : List Packet) : Prop :=
  ∃ before packet after, history = before ++ packet :: after ∧ does packet = true ∧
    ∀ later ∈ after, undoes later = false

namespace Packet

/-- Whether a packet makes a link. -/
def ties (link : Link) : Packet → Bool
  | .setEntityLink packet =>
    (⟨packet.fromId, packet.toId⟩ : Link) = link && packet.linkType ≠ SetEntityLink.removal
  | _ => false

/-- Whether a packet is about a link: it says which link there is between the two ends, or takes
one of them away. -/
def concernsLink (link : Link) : Packet → Bool
  | .setEntityLink packet => (⟨packet.fromId, packet.toId⟩ : Link) = link
  | .removeEntity packet => link.touches packet.uniqueId
  | _ => false

/-- Whether a packet shows an entity. -/
def shows (uniqueId : Int64) (packet : Packet) : Bool := packet.shown? = some uniqueId

/-- Whether a packet takes an entity away. -/
def removes (uniqueId : Int64) (packet : Packet) : Bool := packet.removed? = some uniqueId

/-- Whether a packet shows a player, who is in the list then. -/
def enlists (uuid : Uuid) : Packet → Bool
  | .addPlayer packet => packet.uuid = uuid
  | _ => false

/-- Whether a packet takes a player from the list. -/
def strikes (uuid : Uuid) : Packet → Bool
  | .playerList (.remove uuids) => uuid ∈ uuids
  | _ => false

end Packet

/-- Where nothing was done, nothing endures. -/
theorem not_endures_nil {does undoes : Packet → Bool} : ¬Endures does undoes [] := by
  rintro ⟨before, packet, after, nowhere, -⟩
  simp at nowhere

/-- What endures in the end was done last, or endured before and was not undone. -/
theorem endures_snoc {does undoes : Packet → Bool} {history : List Packet} {packet : Packet} :
    Endures does undoes (history ++ [packet]) ↔
      does packet = true ∨ Endures does undoes history ∧ undoes packet = false := by
  constructor
  · rintro ⟨before, first, after, parts, done, stays⟩
    rcases List.eq_nil_or_concat after with rfl | ⟨others, last, rfl⟩
    · obtain ⟨-, same⟩ := List.append_inj' parts rfl
      obtain rfl := List.head_eq_of_cons_eq same
      exact .inl done
    · rw [List.concat_eq_append] at parts stays
      rw [← List.cons_append, ← List.append_assoc] at parts
      obtain ⟨rfl, same⟩ := List.append_inj' parts rfl
      obtain rfl := List.head_eq_of_cons_eq same
      exact .inr ⟨⟨before, first, others, rfl, done,
        fun later mem => stays later (List.mem_append_left _ mem)⟩,
        stays packet (List.mem_append_right others List.mem_cons_self)⟩
  · rintro (done | ⟨⟨before, first, after, rfl, done, stays⟩, kept⟩)
    · exact ⟨history, packet, [], rfl, done, by simp⟩
    · exact ⟨before, first, after ++ [packet], by simp, done, by
        simpa [or_imp, forall_and] using ⟨stays, kept⟩⟩

namespace Scene

/-- Nothing is recorded twice. -/
structure Distinct (scene : Scene) : Prop where
  entities : scene.entities.Nodup
  players : scene.players.Nodup
  links : scene.links.Nodup

variable {scene : Scene} {packet : Packet}

/-- A packet more makes nothing recorded twice. -/
theorem Distinct.observe (distinct : scene.Distinct) (packet : Packet) :
    (scene.observe packet).Distinct := by
  obtain ⟨entities, players, links⟩ := distinct
  cases packet with
  | addPlayer packet => exact ⟨entities.insert, players.insert, links⟩
  | addEntity packet => exact ⟨entities.insert, players, links⟩
  | addItemEntity packet => exact ⟨entities.insert, players, links⟩
  | removeEntity packet => exact ⟨entities.filter _, players, links.filter _⟩
  | playerList change =>
    cases change with
    | add entries => exact ⟨entities, players, links⟩
    | remove uuids => exact ⟨entities, players.filter _, links⟩
  | setEntityLink packet =>
    simp only [Scene.observe]
    split
    · exact ⟨entities, players, links.filter _⟩
    · exact ⟨entities, players, links.insert⟩
  | _ => exact ⟨entities, players, links⟩

/-- Which links are recorded after a packet. -/
theorem mem_links_observe {link : Link} : link ∈ (scene.observe packet).links ↔
    packet.ties link = true ∨ link ∈ scene.links ∧ packet.concernsLink link = false := by
  cases packet with
  | removeEntity packet => simp [observe, Packet.ties, Packet.concernsLink]
  | setEntityLink packet =>
    simp only [observe, Packet.ties, Packet.concernsLink]
    by_cases same : (⟨packet.fromId, packet.toId⟩ : Link) = link
    · subst same
      split
      next removal => simp [removal]
      next made => simp [made]
    · split
      next removal => simp [same, Ne.symm same]
      next made => simp [same, Ne.symm same]
  | playerList change => cases change <;> simp [observe, Packet.ties, Packet.concernsLink]
  | _ => simp [observe, Packet.ties, Packet.concernsLink]

/-- Which players are in the list after a packet. -/
theorem mem_players_observe {uuid : Uuid} : uuid ∈ (scene.observe packet).players ↔
    packet.enlists uuid = true ∨ uuid ∈ scene.players ∧ packet.strikes uuid = false := by
  cases packet with
  | addPlayer packet => simp [observe, Packet.enlists, Packet.strikes, @eq_comm _ uuid]
  | playerList change => cases change <;> simp [observe, Packet.enlists, Packet.strikes]
  | setEntityLink packet =>
    simp only [observe, Packet.enlists, Packet.strikes]
    split <;> simp
  | _ => simp [observe, Packet.enlists, Packet.strikes]

/-- Which entities are recorded after a packet. -/
theorem mem_entities_observe {uniqueId : Int64} : uniqueId ∈ (scene.observe packet).entities ↔
    packet.shows uniqueId = true ∨ uniqueId ∈ scene.entities ∧ packet.removes uniqueId = false := by
  simp [mem_observe, Packet.shows, Packet.removes]

/-- What is recorded of a row of packets. -/
def ofHistory (history : List Packet) : Scene := history.foldl observe empty

/-- The last packet is recorded last. -/
theorem ofHistory_snoc (history : List Packet) (packet : Packet) :
    ofHistory (history ++ [packet]) = (ofHistory history).observe packet := by
  simp [ofHistory]

/-- However many packets are recorded, nothing is recorded twice. -/
theorem distinct_ofHistory (history : List Packet) : (ofHistory history).Distinct := by
  induction history using List.reverseRecOn with
  | nil => exact ⟨List.nodup_nil, List.nodup_nil, List.nodup_nil⟩
  | append_singleton history packet ih =>
    rw [ofHistory_snoc]
    exact ih.observe packet

/-- What is recorded after each packet if the packet does something, or if it was recorded before
and the packet does not undo it, is recorded of a row of packets where it endures. -/
theorem recorded_iff_endures (recorded : Scene → Prop) {does undoes : Packet → Bool}
    (nothing : ¬recorded empty)
    (step : ∀ scene packet, recorded (observe scene packet) ↔
      does packet = true ∨ recorded scene ∧ undoes packet = false) (history : List Packet) :
    recorded (ofHistory history) ↔ Endures does undoes history := by
  induction history using List.reverseRecOn with
  | nil => exact iff_of_false nothing not_endures_nil
  | append_singleton history packet ih => rw [ofHistory_snoc, step, endures_snoc, ih]

/-- After any row of packets, what is taken from the client is, each once: the links, the entities
and, in one packet if there are any, the players in the list that endure in the row. After that
nothing is recorded, and there is nothing to take away. -/
theorem takeDown_withdraws (history : List Packet) :
    let scene := ofHistory history
    (∃ (links : List Link) (entities : List Int64) (players : List Uuid),
      scene.takeDown.1 =
        links.map (fun link => .setEntityLink (.remove link.fromId link.toId)) ++
          entities.map (fun uniqueId => .removeEntity ⟨uniqueId⟩) ++
          (if players.isEmpty then [] else [.playerList (.remove players)]) ∧
      links.Nodup ∧ entities.Nodup ∧ players.Nodup ∧
      (∀ link, link ∈ links ↔
        Endures (Packet.ties link) (Packet.concernsLink link) history) ∧
      (∀ uniqueId, uniqueId ∈ entities ↔
        Endures (Packet.shows uniqueId) (Packet.removes uniqueId) history) ∧
      ∀ uuid, uuid ∈ players ↔ Endures (Packet.enlists uuid) (Packet.strikes uuid) history) ∧
    scene.takeDown.2 = empty ∧ scene.takeDown.2.takeDown.1 = [] := by
  intro scene
  have distinct : scene.Distinct := distinct_ofHistory history
  refine ⟨⟨scene.links.mergeSort Link.le, scene.entities.mergeSort (· ≤ ·),
    scene.players.mergeSort fun left right => left.toNat ≤ right.toNat, rfl,
    (List.mergeSort_perm _ _).nodup_iff.mpr distinct.links,
    (List.mergeSort_perm _ _).nodup_iff.mpr distinct.entities,
    (List.mergeSort_perm _ _).nodup_iff.mpr distinct.players, ?_, ?_, ?_⟩, rfl, ?_⟩
  · intro link
    rw [List.mem_mergeSort]
    exact recorded_iff_endures (fun scene => link ∈ scene.links) (by simp [empty])
      (fun _ _ => mem_links_observe) history
  · intro uniqueId
    rw [List.mem_mergeSort]
    exact recorded_iff_endures (fun scene => uniqueId ∈ scene.entities) (by simp [empty])
      (fun _ _ => mem_entities_observe) history
  · intro uuid
    rw [List.mem_mergeSort]
    exact recorded_iff_endures (fun scene => uuid ∈ scene.players) (by simp [empty])
      (fun _ _ => mem_players_observe) history
  · simp [teardown, empty]

end Scene

end Ferry
