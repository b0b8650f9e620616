import Ferry.Config.Servers
import Ferry.Proofs.Palette.Interning
import Ferry.Proofs.Palette.Numbering
import Mathlib.Data.List.Forall2

/-!
# Which servers are loaded

A configuration that is not refused, and whose files list palettes, is loaded: each of its servers
is there, in its order and under its own name, and so are those that it refers to. Servers share the
instance of a palette exactly if what is listed for them has the same digest, and so wherever the
same entries are listed, in whatever order; between such servers nothing is renumbered.
-/

namespace Ferry

/-! ## What a configuration that is not refused says -/

namespace ProxyConfig

/-- No name is repeated exactly if all are different, and different from those seen. -/
theorem firstRepeated?_eq_none_iff {seen names : List String} :
    firstRepeated? seen names = none ↔ names.Nodup ∧ ∀ name ∈ names, name ∉ seen := by
  induction names generalizing seen with
  | nil => simp [firstRepeated?]
  | cons name names ih =>
    rw [firstRepeated?]
    split
    next repeated => simp [repeated]
    next new =>
      rw [ih, List.nodup_cons, List.forall_mem_cons]
      constructor
      · rintro ⟨different, others⟩
        refine ⟨⟨fun mem => others name mem List.mem_cons_self, different⟩, new, ?_⟩
        exact fun other mem known => others other mem (List.mem_cons_of_mem _ known)
      · rintro ⟨⟨alone, different⟩, -, others⟩
        refine ⟨different, fun other mem known => ?_⟩
        rcases List.mem_cons.mp known with rfl | known
        · exact alone mem
        · exact others other mem known

/-- A configuration is accepted exactly if it breaks none of the rules. -/
theorem validate_eq_ok_iff {config : ProxyConfig} : config.validate = .ok () ↔
    config.servers ≠ [] ∧ config.names.Nodup ∧
      (∀ name ∈ config.references, name ∈ config.names) ∧ config.flushInterval ≠ 0 := by
  unfold validate
  cases unserved : config.servers.isEmpty with
  | true => simp_all
  | false =>
    have served : config.servers ≠ [] := by simpa using unserved
    simp only [Bool.false_eq_true, if_false]
    cases repeated : firstRepeated? [] config.names with
    | some name =>
      have not_nodup : ¬config.names.Nodup := by
        intro different
        have never := firstRepeated?_eq_none_iff.mpr ⟨different, fun _ _ => List.not_mem_nil⟩
        simp [never] at repeated
      simp [not_nodup]
    | none =>
      have different := (firstRepeated?_eq_none_iff.mp repeated).1
      cases unknown : config.references.find? fun name => name ∉ config.names with
      | some name =>
        have strange := List.find?_some unknown
        have referred := List.mem_of_find?_eq_some unknown
        simp only [reduceCtorEq, false_iff]
        rintro ⟨-, -, known, -⟩
        exact absurd (known name referred) (by simpa using strange)
      | none =>
        have known : ∀ name ∈ config.references, name ∈ config.names := by
          simpa using List.find?_eq_none.mp unknown
        simp only [served, different, ne_eq, not_false_eq_true, true_and]
        split
        next zero => simp [zero]
        next positive => simpa [positive] using known

end ProxyConfig

/-! ## Instances that have been given out -/

namespace PaletteRegistry

variable {ι : Type} [PaletteKind ι] {registry : PaletteRegistry ι} {palette other : Palette ι}
  {shared : SharedPalette ι}

/-- The instances are numbered in their order. -/
def Numbered (registry : PaletteRegistry ι) : Prop :=
  registry.instances.map SharedPalette.serial = List.range registry.size

/-- A registry without instances is numbered. -/
theorem empty_numbered {ι : Type} : (empty : PaletteRegistry ι).Numbered := rfl

/-- Sharing one more palette keeps the instances numbered. -/
theorem Numbered.share (numbered : registry.Numbered) (other : Palette ι) :
    (registry.share other).2.Numbered := by
  unfold PaletteRegistry.share intern
  dsimp only
  cases registry.instances.find? fun held => held.palette.digest = other.digest with
  | some held => exact numbered
  | none =>
    unfold Numbered size at *
    rw [List.map_append, numbered, List.length_append, List.length_singleton, List.range_succ]
    rfl

/-- Palettes get one instance exactly if they have the same digest. -/
theorem Gives.sameInstance_iff {second : SharedPalette ι} (numbered : registry.Numbered)
    (gives : registry.Gives palette shared) (others : registry.Gives other second) :
    shared.sameInstance second = true ↔ palette.digest = other.digest := by
  rw [SharedPalette.sameInstance, decide_eq_true_iff]
  constructor
  · intro same
    have different : (registry.instances.map SharedPalette.serial).Nodup := by
      rw [numbered]
      exact List.nodup_range
    have equal : shared = second := List.inj_on_of_nodup_map different
      (List.mem_of_find?_eq_some gives) (List.mem_of_find?_eq_some others) same
    rw [← gives.digest, equal, others.digest]
  · intro same
    have again := gives.again gives.digest
    rw [others.again (gives.digest.trans same)] at again
    have equal : second = shared := congrArg Prod.fst again
    rw [equal]

end PaletteRegistry

/-! ## What files list -/

namespace Palette

variable {ι : Type} [PaletteKind ι] [TableId ι]

/-- The entries that a file lists, in their order. -/
def listed? (contents : Bytes) : Option (List (PaletteEntry ι)) := do
  let document ← Json.parse? contents
  let elements ← document.elements?
  elements.mapM readEntry?

/-- The palette of a file is made of the entries that the file lists. -/
theorem ofFile?_eq_map (contents : Bytes) :
    (ofFile? contents : Option (Palette ι)) = (listed? contents).map ofEntries := by
  simp only [ofFile?, listed?, bind, Option.map_eq_bind, Option.bind_assoc, Function.comp_def]

end Palette

section Files

variable {ι : Type} [PaletteKind ι] [Palette.TableId ι]

/-- A file below a directory can be read and lists some entries. -/
def ReadFile.Lists (read : ReadFile) (base path : String) (entries : List (PaletteEntry ι)) :
    Prop :=
  ∃ contents, read (joinPath base path) = .ok contents ∧ Palette.listed? contents = some entries

/-- A file that lists entries is loaded as their palette. -/
theorem Servers.loadPalette_of_lists [DecidableEq ι] {read : ReadFile} {base path : String}
    {entries : List (PaletteEntry ι)} (lists : read.Lists base path entries) :
    loadPalette read (joinPath base path) = .ok (Palette.ofEntries entries) := by
  obtain ⟨contents, held, listed⟩ := lists
  have palette : (Palette.ofFile? contents : Option (Palette ι)) = some (.ofEntries entries) := by
    rw [Palette.ofFile?_eq_map, listed]
    rfl
  simp [loadPalette, held, palette, Except.mapError, bind, Except.bind]

end Files

/-- The entries of the blocks of a server. -/
def ServerConfig.ListsBlocks (read : ReadFile) (base : String) (server : ServerConfig)
    (entries : List (PaletteEntry BlockId)) : Prop :=
  read.Lists base server.blockPalette entries

/-- The entries of the items of a server, which are none where it has no file for them. -/
def ServerConfig.ListsItems (read : ReadFile) (base : String) (server : ServerConfig)
    (entries : List (PaletteEntry ItemId)) : Prop :=
  match server.itemPalette with
  | some path => read.Lists base path entries
  | none => entries = []

/-- Palettes are listed in all the files that a server names. -/
def ServerConfig.HasFiles (read : ReadFile) (base : String) (server : ServerConfig) : Prop :=
  (∃ blocks, server.ListsBlocks read base blocks) ∧ ∃ items, server.ListsItems read base items

namespace Servers

variable {read : ReadFile} {base : String}

/-! ## Loading one server after another -/

/-- A server as it is wanted, with the instances that are given out for what its files list. -/
structure Loading.Has (read : ReadFile) (base : String) (loading : Loading)
    (wanted : ServerConfig) (server : Server) : Prop where
  name : server.name = wanted.name
  address : server.address = wanted.address
  blocks : ∀ entries, wanted.ListsBlocks read base entries →
    loading.blocks.Gives (.ofEntries entries) server.blocks
  items : ∀ entries, wanted.ListsItems read base entries →
    loading.items.Gives (.ofEntries entries) server.items

/-- Some servers are loaded, in their order. -/
structure Loading.Holds (read : ReadFile) (base : String) (wanted : List ServerConfig)
    (loading : Loading) : Prop where
  servers : List.Forall₂ (loading.Has read base) wanted loading.servers
  blocks : loading.blocks.Numbered
  items : loading.items.Numbered

/-- No server is loaded at first. -/
theorem Loading.start_holds : Loading.start.Holds read base [] where
  servers := .nil
  blocks := rfl
  items := PaletteRegistry.empty_numbered.share Palette.empty

variable {wanted : List ServerConfig} {loading : Loading} {server : ServerConfig}

/-- What is listed for a server is shared, with what was listed before. -/
theorem Loading.add_eq {blocks : List (PaletteEntry BlockId)}
    (listsBlocks : server.ListsBlocks read base blocks) {items : List (PaletteEntry ItemId)}
    (listsItems : server.ListsItems read base items) :
    let sharedBlocks := loading.blocks.share (.ofEntries blocks)
    let sharedItems := loading.items.share (.ofEntries items)
    loading.add read base server = .ok ⟨sharedBlocks.2, sharedItems.2,
      loading.servers ++ [⟨server.name, server.address, sharedBlocks.1, sharedItems.1⟩]⟩ := by
  intro sharedBlocks sharedItems
  unfold Loading.add
  simp only [loadPalette_of_lists listsBlocks]
  unfold ServerConfig.ListsItems at listsItems
  cases given : server.itemPalette with
  | some path =>
    simp only [given] at listsItems
    simp only [loadPalette_of_lists listsItems]
    rfl
  | none =>
    simp only [given] at listsItems
    subst listsItems
    rfl

/-- A file lists one row of entries only. -/
theorem lists_unique {ι : Type} [PaletteKind ι] [Palette.TableId ι] {path : String}
    {entries others : List (PaletteEntry ι)} (lists : read.Lists base path entries)
    (again : read.Lists base path others) : entries = others := by
  obtain ⟨contents, held, listed⟩ := lists
  obtain ⟨more, holds, found⟩ := again
  obtain rfl : contents = more := Except.ok.inj (held.symm.trans holds)
  exact Option.some.inj (listed.symm.trans found)

/-- A server has one row of items only. -/
theorem listsItems_unique {entries others : List (PaletteEntry ItemId)}
    (lists : server.ListsItems read base entries) (again : server.ListsItems read base others) :
    entries = others := by
  unfold ServerConfig.ListsItems at lists again
  cases given : server.itemPalette with
  | some path =>
    rw [given] at lists again
    exact lists_unique lists again
  | none =>
    rw [given] at lists again
    rw [lists, again]

/-- One more server is loaded, and those that were loaded keep their instances. -/
theorem Loading.Holds.add (holds : loading.Holds read base wanted)
    {blocks : List (PaletteEntry BlockId)} (listsBlocks : server.ListsBlocks read base blocks)
    {items : List (PaletteEntry ItemId)} (listsItems : server.ListsItems read base items) :
    ∃ next, loading.add read base server = .ok next ∧
      next.Holds read base (wanted ++ [server]) := by
  refine ⟨_, Loading.add_eq listsBlocks listsItems, ?_, holds.blocks.share _, holds.items.share _⟩
  refine List.rel_append (holds.servers.imp fun wanted loaded has => ?_) (.cons ?_ .nil)
  · exact ⟨has.name, has.address, fun entries lists => (has.blocks entries lists).intern _,
      fun entries lists => (has.items entries lists).intern _⟩
  · refine ⟨rfl, rfl, fun entries lists => ?_, fun entries lists => ?_⟩
    · rw [← lists_unique listsBlocks lists]
      exact PaletteRegistry.intern_gives _ _
    · rw [← listsItems_unique listsItems lists]
      exact PaletteRegistry.intern_gives _ _

/-- The servers of a configuration are loaded where each of its files lists a palette. -/
theorem Loading.Holds.foldlM {servers : List ServerConfig} (holds : loading.Holds read base wanted)
    (files : ∀ server ∈ servers, server.HasFiles read base) :
    ∃ next, servers.foldlM (Loading.add read base) loading = .ok next ∧
      next.Holds read base (wanted ++ servers) := by
  induction servers generalizing loading wanted with
  | nil => exact ⟨loading, rfl, by rwa [List.append_nil]⟩
  | cons server servers ih =>
    obtain ⟨⟨⟨blocks, listsBlocks⟩, items, listsItems⟩, others⟩ := List.forall_mem_cons.mp files
    obtain ⟨next, added, follows⟩ := holds.add listsBlocks listsItems
    obtain ⟨last, ran, all⟩ := ih follows others
    refine ⟨last, ?_, by rwa [List.append_assoc] at all⟩
    rw [List.foldlM_cons, added]
    exact ran

/-! ## The servers that are found -/

/-- The server that players go to first is the one that is named, or else the first one. -/
def IsInitial (config : ProxyConfig) (servers : List Server) (initial : Server) : Prop :=
  match config.initialServer with
  | some name => Server.named? servers name = some initial
  | none => servers.head? = some initial

/-- The servers of a configuration: each of its servers in its order, every one of them found by its
name, and those that it refers to. -/
structure Of (config : ProxyConfig) (servers : Servers) : Prop where
  each : List.Forall₂ (fun (wanted : ServerConfig) (server : Server) =>
    server.name = wanted.name ∧ server.address = wanted.address) config.servers servers.all
  different : (servers.all.map Server.name).Nodup
  found : ∀ name server, servers.get? name = some server ↔
    server ∈ servers.all ∧ server.name = name
  configured : ∀ name ∈ config.names, ∃ server, servers.get? name = some server
  initial : IsInitial config servers.all servers.initial
  fallback : List.Forall₂ (fun name server => servers.get? name = some server) config.fallback
    servers.fallback

/-- How the servers share the palettes of one kind, where `lists` says which entries are listed for
a server. The instance of a server has the digest of what is listed for it, and two servers have one
instance exactly if the digests are the same; so they have if the same entries are listed in any
order, and then nothing is renumbered between them. -/
structure Share {ι : Type} [DecidableEq ι] [PaletteKind ι] (config : ProxyConfig)
    (servers : Servers) (lists : ServerConfig → List (PaletteEntry ι) → Prop)
    (palette : Server → SharedPalette ι) : Prop where
  digest : ∀ one ∈ config.servers.zip servers.all, ∀ entries, lists one.1 entries →
    (palette one.2).palette.digest = (Palette.ofEntries entries).digest
  sameInstance : ∀ one ∈ config.servers.zip servers.all, ∀ two ∈ config.servers.zip servers.all,
    ∀ entries others, lists one.1 entries → lists two.1 others →
      ((palette one.2).sameInstance (palette two.2) = true ↔
        (Palette.ofEntries entries).digest = (Palette.ofEntries others).digest)
  reordered : ∀ one ∈ config.servers.zip servers.all, ∀ two ∈ config.servers.zip servers.all,
    ∀ entries others, lists one.1 entries → lists two.1 others → entries.Perm others →
      palette one.2 = palette two.2 ∧
        Renumbering.ofPalettes (palette one.2) (palette two.2) = .identity

/-- Servers without an item palette have one instance for their items, and nothing is renumbered
between them. -/
def ShareEmpty (config : ProxyConfig) (servers : Servers) : Prop :=
  ∀ one ∈ config.servers.zip servers.all, ∀ two ∈ config.servers.zip servers.all,
    one.1.itemPalette = none → two.1.itemPalette = none →
      one.2.items = two.2.items ∧ Renumbering.ofPalettes one.2.items two.2.items = .identity

/-- Servers for which no items are listed share the instance without items. -/
theorem Share.empty {config : ProxyConfig} {servers : Servers}
    (items : Share config servers (ServerConfig.ListsItems read base) Server.items) :
    ShareEmpty config servers := by
  intro one mem two also bare bare'
  refine items.reordered one mem two also [] [] ?_ ?_ (.refl [])
  · simp [ServerConfig.ListsItems, bare]
  · simp [ServerConfig.ListsItems, bare']

/-- Servers that are given the instances of one registry share them. -/
theorem share_of_gives {ι : Type} [DecidableEq ι] [LE ι] [PaletteKind ι] [PaletteKind.Lawful ι]
    {config : ProxyConfig} {servers : Servers} {registry : PaletteRegistry ι}
    {lists : ServerConfig → List (PaletteEntry ι) → Prop} {palette : Server → SharedPalette ι}
    (numbered : registry.Numbered)
    (gives : ∀ one ∈ config.servers.zip servers.all, ∀ entries, lists one.1 entries →
      registry.Gives (.ofEntries entries) (palette one.2)) :
    Share config servers lists palette where
  digest one mem entries listed := (gives one mem entries listed).digest
  sameInstance one mem two also entries others listed also_listed :=
    (gives one mem entries listed).sameInstance_iff numbered (gives two also others also_listed)
  reordered one mem two also entries others listed also_listed same := by
    have first := gives one mem entries listed
    have second := gives two also others also_listed
    rw [Palette.ofEntries_congr same] at first
    have equal : palette one.2 = palette two.2 := Option.some.inj (first.symm.trans second)
    exact ⟨equal, by simp [equal, Renumbering.ofPalettes, SharedPalette.sameInstance]⟩

/-- A server is found by a name that some server has. -/
theorem exists_named {servers : List Server} {name : String}
    (known : name ∈ servers.map Server.name) :
    ∃ server, Server.named? servers name = some server := by
  rw [← Option.isSome_iff_exists, Server.named?, List.find?_isSome]
  obtain ⟨server, mem, same⟩ := List.mem_map.mp known
  exact ⟨server, mem, by simpa using same⟩

/-- The servers of known names are found one by one. -/
theorem mapM_named {servers : List Server} {names : List String}
    (known : ∀ name ∈ names, name ∈ servers.map Server.name) :
    ∃ listed, names.mapM (named servers) = .ok listed ∧
      List.Forall₂ (fun name server => Server.named? servers name = some server) names listed := by
  induction names with
  | nil => exact ⟨[], rfl, .nil⟩
  | cons name names ih =>
    obtain ⟨here, others⟩ := List.forall_mem_cons.mp known
    obtain ⟨server, found⟩ := exists_named here
    obtain ⟨listed, mapped, all⟩ := ih others
    refine ⟨server :: listed, ?_, .cons found all⟩
    rw [List.mapM_cons, named, found, mapped]
    rfl

/-- The servers that are loaded have the names that are configured. -/
theorem names_of_holds {config : ProxyConfig} (holds : loading.Holds read base config.servers) :
    loading.servers.map Server.name = config.names := by
  rw [ProxyConfig.names, ← List.forall₂_eq_eq_eq, List.forall₂_map_left_iff,
    List.forall₂_map_right_iff]
  exact holds.servers.flip.imp fun server wanted has => has.name

/-- Loading comes to the servers that are loaded, with those that are found by their names. -/
theorem load_eq {config : ProxyConfig} {initial : Server} {fallback : List Server}
    (loaded : config.servers.foldlM (Loading.add read base) Loading.start = .ok loading)
    (first : IsInitial config loading.servers initial)
    (mapped : config.fallback.mapM (named loading.servers) = .ok fallback) :
    load read config base = .ok ⟨loading.servers, initial, fallback⟩ := by
  unfold load
  simp only [loaded, bind, Except.bind]
  unfold IsInitial at first
  cases given : config.initialServer with
  | some name =>
    rw [given] at first
    simp [named, first, mapped]
  | none =>
    rw [given] at first
    obtain ⟨others, listed⟩ := List.head?_eq_some_iff.mp first
    rw [listed] at mapped
    simp [listed, mapped]

/-- There is a server where players go first. -/
theorem exists_initial {config : ProxyConfig} (valid : config.validate = .ok ())
    (holds : loading.Holds read base config.servers) :
    ∃ initial, IsInitial config loading.servers initial := by
  obtain ⟨served, -, known, -⟩ := ProxyConfig.validate_eq_ok_iff.mp valid
  unfold IsInitial
  cases given : config.initialServer with
  | some name =>
    refine exists_named ?_
    rw [names_of_holds holds]
    exact known name (by simp [ProxyConfig.references, given])
  | none =>
    cases listed : loading.servers with
    | cons first others => exact ⟨first, rfl⟩
    | nil =>
      have unserved := holds.servers.length_eq
      rw [listed, List.length_nil, List.length_eq_zero_iff] at unserved
      exact absurd unserved served

/-- A configuration that is not refused, and whose files can be read and list palettes, is loaded:
its servers are there and found, and share the palettes of the blocks and of the items. -/
theorem load_ok (read : ReadFile) (config : ProxyConfig) (base : String)
    (valid : config.validate = .ok ())
    (files : ∀ server ∈ config.servers, server.HasFiles read base) :
    ∃ servers, load read config base = .ok servers ∧ servers.Of config ∧
      servers.Share config (ServerConfig.ListsBlocks read base) Server.blocks ∧
      servers.Share config (ServerConfig.ListsItems read base) Server.items ∧
      servers.ShareEmpty config := by
  obtain ⟨-, different, known, -⟩ := ProxyConfig.validate_eq_ok_iff.mp valid
  obtain ⟨loading, loaded, holds⟩ := Loading.start_holds.foldlM files
  rw [List.nil_append] at holds
  have names := names_of_holds holds
  rw [← names] at different
  obtain ⟨initial, first⟩ := exists_initial valid holds
  have fallbackKnown (name : String) (mem : name ∈ config.fallback) :
      name ∈ loading.servers.map Server.name := by
    rw [names]
    exact known name (List.mem_append_right _ mem)
  obtain ⟨fallback, mapped, listed⟩ := mapM_named fallbackKnown
  have has (one : ServerConfig × Server) (mem : one ∈ config.servers.zip loading.servers) :
      loading.Has read base one.1 one.2 :=
    (List.forall₂_iff_zip.mp holds.servers).2 mem
  have items : Share config ⟨loading.servers, initial, fallback⟩
      (ServerConfig.ListsItems read base) Server.items :=
    share_of_gives holds.items fun one mem => (has one mem).items
  refine ⟨⟨loading.servers, initial, fallback⟩, load_eq loaded first mapped, ?_,
    share_of_gives holds.blocks fun one mem => (has one mem).blocks, items, items.empty⟩
  exact {
    each := holds.servers.imp fun _ _ has => ⟨has.name, has.address⟩
    different := different
    found := fun _ _ => find?_key_iff different
    configured := fun name mem => exists_named (names ▸ mem)
    initial := first
    fallback := listed }

/-- Two servers whose files list the same two blocks, one the other way round and with a space. -/
theorem load_ok_reordered :
    let lobby : ServerConfig := ⟨"lobby", .loopback 19133, "lobby.json", none⟩
    let survival : ServerConfig := ⟨"survival", .loopback 19134, "survival.json", none⟩
    let config : ProxyConfig := ⟨.loopback 19132, [lobby, survival], some "survival", ["lobby"],
      .default, .default, .default, 50⟩
    let read : ReadFile := fun path =>
      if path = "lobby.json" then .ok (Bytes.ofString "[[\"up\",4],[\"a\",3]]")
      else if path = "survival.json" then .ok (Bytes.ofString "[[\"a\",3], [\"up\",4]]")
      else .error .missing
    config.validate = .ok () ∧ (∀ server ∈ config.servers, server.HasFiles read "") ∧
      ∃ servers, load read config "" = .ok servers ∧ servers.Of config ∧
        servers.Share config (ServerConfig.ListsBlocks read "") Server.blocks ∧
        servers.Share config (ServerConfig.ListsItems read "") Server.items ∧
        servers.ShareEmpty config := by
  intro lobby survival config read
  have valid : config.validate = .ok () := rfl
  have here (path : String) : joinPath "" path = path := by simp [joinPath]
  have lobbyFile : lobby.ListsBlocks read "" [⟨"up", 4⟩, ⟨"a", 3⟩] :=
    ⟨_, by rw [here]; rfl, by decide +kernel⟩
  have survivalFile : survival.ListsBlocks read "" [⟨"a", 3⟩, ⟨"up", 4⟩] :=
    ⟨_, by rw [here]; rfl, by decide +kernel⟩
  have files : ∀ server ∈ config.servers, server.HasFiles read "" := by
    simp only [config, List.forall_mem_cons]
    exact ⟨⟨⟨_, lobbyFile⟩, [], rfl⟩, ⟨⟨_, survivalFile⟩, [], rfl⟩, List.forall_mem_nil _⟩
  exact ⟨valid, files, load_ok read config "" valid files⟩

end Servers

end Ferry
