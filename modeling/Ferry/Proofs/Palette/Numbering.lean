import Ferry.Palette.Sharing
import Mathlib.Data.Set.Function

/-!
# Numbers that stand for each other

A palette that lists no name and no number twice can be read both ways: by a number its name is
found, and by the name the number. Between two such palettes a number goes over by its name, and
comes back by the same name; on the numbers whose names both palettes have, renumbering for the
client and renumbering for the backend undo each other.
-/

namespace Ferry

/-- In a list whose keys are all different, a value is found by its key. -/
theorem find?_key_iff {α κ : Type} [DecidableEq κ] {key : α → κ} {values : List α}
    (different : (values.map key).Nodup) {wanted : κ} {value : α} :
    values.find? (fun other => key other = wanted) = some value ↔
      value ∈ values ∧ key value = wanted := by
  induction values with
  | nil => simp
  | cons first rest ih =>
    rw [List.map_cons, List.nodup_cons] at different
    obtain ⟨alone, different⟩ := different
    rw [List.mem_cons]
    by_cases here : key first = wanted
    · rw [List.find?_cons_of_pos (by simpa using here), Option.some.injEq]
      constructor
      · rintro rfl
        exact ⟨.inl rfl, here⟩
      · rintro ⟨rfl | later, same⟩
        · rfl
        · -- no later value has the key of the first
          exact absurd (List.mem_map.mpr ⟨value, later, same.trans here.symm⟩) alone
    · rw [List.find?_cons_of_neg (by simpa using here), ih different]
      constructor
      · rintro ⟨later, same⟩
        exact ⟨.inr later, same⟩
      · rintro ⟨rfl | later, same⟩
        · exact absurd same here
        · exact ⟨later, same⟩

/-! ## Palettes -/

namespace Palette

variable {ι : Type} {palette : Palette ι} {name : String} {id other : ι}

/-- No name and no number is listed twice. -/
structure IsNumbering (palette : Palette ι) : Prop where
  names : (palette.entries.map PaletteEntry.name).Nodup
  ids : (palette.entries.map PaletteEntry.id).Nodup

/-- The numbers of a palette whose names another one has as well. -/
def shared (palette other : Palette ι) : Set ι :=
  {id | ∃ name there, ⟨name, id⟩ ∈ palette.entries ∧ ⟨name, there⟩ ∈ other.entries}

section Listed

variable [PaletteKind ι] {entries : List (PaletteEntry ι)}

/-- The order in which entries are listed makes no difference. -/
theorem isNumbering_ofEntries_iff : (ofEntries entries).IsNumbering ↔
    (entries.map PaletteEntry.name).Nodup ∧ (entries.map PaletteEntry.id).Nodup := by
  have order : (ofEntries entries).entries.Perm entries := List.mergeSort_perm entries precedes
  rw [← (order.map PaletteEntry.name).nodup_iff, ← (order.map PaletteEntry.id).nodup_iff]
  exact ⟨fun numbering => ⟨numbering.names, numbering.ids⟩, fun ⟨names, ids⟩ => ⟨names, ids⟩⟩

/-- A palette holds the entries that are listed, and no others. -/
theorem mem_ofEntries {entry : PaletteEntry ι} :
    entry ∈ (ofEntries entries).entries ↔ entry ∈ entries :=
  List.mem_mergeSort

end Listed

/-- A name is found by its number exactly if the two are listed. -/
theorem IsNumbering.nameOf?_eq_some_iff [DecidableEq ι] (numbering : palette.IsNumbering) :
    palette.nameOf? id = some name ↔ ⟨name, id⟩ ∈ palette.entries := by
  unfold nameOf?
  rw [Option.map_eq_some_iff]
  constructor
  · rintro ⟨entry, found, rfl⟩
    obtain ⟨mem, rfl⟩ := (find?_key_iff numbering.ids).mp found
    exact mem
  · intro mem
    exact ⟨_, (find?_key_iff numbering.ids).mpr ⟨mem, rfl⟩, rfl⟩

/-- A number is found by its name exactly if the two are listed. -/
theorem IsNumbering.idOf?_eq_some_iff (numbering : palette.IsNumbering) :
    palette.idOf? name = some id ↔ ⟨name, id⟩ ∈ palette.entries := by
  unfold idOf?
  rw [Option.map_eq_some_iff]
  constructor
  · rintro ⟨entry, found, rfl⟩
    obtain ⟨mem, rfl⟩ := (find?_key_iff numbering.names).mp found
    exact mem
  · intro mem
    exact ⟨_, (find?_key_iff numbering.names).mpr ⟨mem, rfl⟩, rfl⟩

/-- A name has one number. -/
theorem IsNumbering.eq_of_named (numbering : palette.IsNumbering)
    (here : ⟨name, id⟩ ∈ palette.entries) (there : ⟨name, other⟩ ∈ palette.entries) :
    id = other := by
  have found := numbering.idOf?_eq_some_iff.mpr here
  rw [numbering.idOf?_eq_some_iff.mpr there, Option.some.injEq] at found
  exact found.symm

end Palette

/-! ## Renumberings -/

/-- Two palettes share one instance whichever is named first. -/
theorem SharedPalette.sameInstance_comm {ι : Type} (left right : SharedPalette ι) :
    left.sameInstance right = right.sameInstance left := by
  simp [sameInstance, eq_comm]

namespace Renumbering

variable {ι : Type} {client backend : SharedPalette ι}

/-- What the palettes of a client and a backend have to be for their numbers to stand for each
other: two numberings, and one palette if they are one instance. -/
structure Numberings (client backend : SharedPalette ι) : Prop where
  clients : client.palette.IsNumbering
  backends : backend.palette.IsNumbering
  instances : client.sameInstance backend = true → client.palette = backend.palette

/-- The numberings of two sides may change places. -/
theorem Numberings.symm (numberings : Numberings client backend) : Numberings backend client where
  clients := numberings.backends
  backends := numberings.clients
  instances same := by
    rw [SharedPalette.sameInstance_comm] at same
    exact (numberings.instances same).symm

variable [DecidableEq ι] [PaletteKind ι] {source target : Palette ι} {name : String}
  {clientId backendId : ι}

/-- A number goes over by its name. -/
theorem through_eq {id other : ι} (sources : source.IsNumbering) (targets : target.IsNumbering)
    (here : ⟨name, id⟩ ∈ source.entries) (there : ⟨name, other⟩ ∈ target.entries) :
    through source target id = other := by
  have named := sources.nameOf?_eq_some_iff.mpr here
  have numbered := targets.idOf?_eq_some_iff.mpr there
  simp [through, named, numbered]

/-- What is the client's number in one direction is the backend's in the other: only the palettes
are exchanged. -/
theorem toBackend_ofPalettes (client backend : SharedPalette ι) :
    (ofPalettes client backend).toBackend = (ofPalettes backend client).toClient := by
  unfold ofPalettes
  rw [SharedPalette.sameInstance_comm]
  split <;> rfl

namespace Numberings

/-- A number of the backend becomes the one that the client has for its name. -/
theorem toClient_eq (numberings : Numberings client backend)
    (theirs : ⟨name, backendId⟩ ∈ backend.palette.entries)
    (ours : ⟨name, clientId⟩ ∈ client.palette.entries) :
    (ofPalettes client backend).toClient backendId = clientId := by
  unfold ofPalettes
  split
  next same =>
    rw [← numberings.instances same] at theirs
    exact numberings.clients.eq_of_named theirs ours
  next => exact through_eq numberings.backends numberings.clients theirs ours

/-- A number of the client becomes the one that the backend has for its name. -/
theorem toBackend_eq (numberings : Numberings client backend)
    (theirs : ⟨name, backendId⟩ ∈ backend.palette.entries)
    (ours : ⟨name, clientId⟩ ∈ client.palette.entries) :
    (ofPalettes client backend).toBackend clientId = backendId := by
  rw [toBackend_ofPalettes]
  exact numberings.symm.toClient_eq ours theirs

/-- The numbers of the names that both palettes have go over to such numbers. -/
theorem toClient_mapsTo (numberings : Numberings client backend) :
    Set.MapsTo (ofPalettes client backend).toClient (backend.palette.shared client.palette)
      (client.palette.shared backend.palette) := by
  rintro id ⟨name, other, listed, also⟩
  rw [numberings.toClient_eq listed also]
  exact ⟨name, id, also, listed⟩

/-- A number of a name that both palettes have comes back. -/
theorem toBackend_leftInvOn (numberings : Numberings client backend) :
    Set.LeftInvOn (ofPalettes client backend).toBackend (ofPalettes client backend).toClient
      (backend.palette.shared client.palette) := by
  rintro id ⟨name, other, listed, also⟩
  rw [numberings.toClient_eq listed also, numberings.toBackend_eq listed also]

end Numberings

/-- Numbers of one name stand for each other: the backend's becomes the client's and the client's
becomes the backend's. So the numbers of the names that both palettes have are matched one to one,
and on them the two directions undo each other. -/
theorem ofPalettes_matches (numberings : Numberings client backend) :
    let renumbering := ofPalettes client backend
    let theirs := backend.palette.shared client.palette
    let ours := client.palette.shared backend.palette
    (∀ name backendId clientId, ⟨name, backendId⟩ ∈ backend.palette.entries →
      ⟨name, clientId⟩ ∈ client.palette.entries →
      renumbering.toClient backendId = clientId ∧ renumbering.toBackend clientId = backendId) ∧
    Set.InvOn renumbering.toBackend renumbering.toClient theirs ours ∧
    Set.BijOn renumbering.toClient theirs ours ∧ Set.BijOn renumbering.toBackend ours theirs := by
  intro renumbering theirs ours
  -- the way to the backend is the way to the client between the exchanged palettes
  have turned : renumbering.toBackend = (ofPalettes backend client).toClient :=
    toBackend_ofPalettes client backend
  have there : Set.MapsTo renumbering.toClient theirs ours := numberings.toClient_mapsTo
  have back : Set.MapsTo renumbering.toBackend ours theirs :=
    turned ▸ numberings.symm.toClient_mapsTo
  have undo : Set.InvOn renumbering.toBackend renumbering.toClient theirs ours := by
    refine ⟨numberings.toBackend_leftInvOn, ?_⟩
    rw [turned, ← toBackend_ofPalettes backend client]
    exact numberings.symm.toBackend_leftInvOn
  exact ⟨fun name backendId clientId listed also =>
      ⟨numberings.toClient_eq listed also, numberings.toBackend_eq listed also⟩,
    undo, undo.bijOn there back, undo.symm.bijOn back there⟩

/-- Air and stone have each other's number on the other side, and the client knows no dirt. -/
theorem ofPalettes_matches_crossed :
    let client : SharedPalette BlockId :=
      ⟨0, .ofEntries [⟨"minecraft:air", 0⟩, ⟨"minecraft:stone", 3⟩]⟩
    let backend : SharedPalette BlockId :=
      ⟨1, .ofEntries [⟨"minecraft:stone", 0⟩, ⟨"minecraft:dirt", 8⟩, ⟨"minecraft:air", 3⟩]⟩
    let renumbering := ofPalettes client backend
    Numberings client backend ∧ renumbering.toClient 0 = 3 ∧ renumbering.toBackend 3 = 0 ∧
      Set.BijOn renumbering.toClient (backend.palette.shared client.palette)
        (client.palette.shared backend.palette) := by
  intro client backend renumbering
  have numberings : Numberings client backend :=
    ⟨Palette.isNumbering_ofEntries_iff.mpr (by decide),
      Palette.isNumbering_ofEntries_iff.mpr (by decide), nofun⟩
  obtain ⟨stands, -, there, -⟩ := ofPalettes_matches numberings
  obtain ⟨toClient, toBackend⟩ := stands "minecraft:stone" 0 3
    (Palette.mem_ofEntries.mpr (by decide)) (Palette.mem_ofEntries.mpr (by decide))
  exact ⟨numberings, toClient, toBackend, there⟩

end Renumbering

end Ferry
