import Cartridge.Proofs.Project.Validity
import Cartridge.Proofs.Script.Names
import Cartridge.Proofs.Symbol.Indexing
import Cartridge.Proofs.Symbol.Slots

/-!
# Declared names

The names in a script are compared with those that the project declares. Variables, flags, actors and
assets are found by their names, but scripts and scenes by the identifiers of their names, so that
other spellings of a declared name are accepted, too.

* `Project.Declares`: what a project declares under a name.
* `Project.HasNumber`: the number of what is declared.
* `Referent.Finds`: the declared names that a name in an event is taken for.
* `Tables.number?_eq_some_iff`: the number for a name is that of a declared name it is taken for.
* `CompiledScript.ofSource_finds`: a script of fit events compiles just if every name in it is taken
  for a declared one, and the numbers in its code are those of the declarations.
-/

namespace Cartridge

/-- The declared names that a name in an event is taken for. -/
def Referent.Finds (referent : Referent) (name declared : String) : Prop :=
  match referent with
  | .script | .scene => Identifier.ofName declared = Identifier.ofName name
  | .gameVariable | .flag | .actor | .song | .sound => declared = name

namespace Project

/-- An asset of a kind is declared under a name. -/
def HasAsset (project : Project) (kind : AssetKind) (name : String) : Prop :=
  ∃ asset ∈ project.assets, asset.name = name ∧ asset.kind = kind

/-- What a project declares under a name. The player counts as one of the actors. -/
def Declares (project : Project) (referent : Referent) (name : String) : Prop :=
  match referent with
  | .gameVariable => name ∈ project.gameVariables
  | .flag => name ∈ project.flags
  | .actor => name ∈ playerName :: project.actors.map (·.name)
  | .script => name ∈ project.scripts.map (·.name)
  | .scene => name ∈ project.scenes.map (·.name)
  | .song => project.HasAsset .song name
  | .sound => project.HasAsset .sound name

/-- The number of what is declared under a name: its place among its like, or among all that has a
symbol. -/
def HasNumber (project : Project) (referent : Referent) (name : String) (number : Nat) : Prop :=
  match referent with
  | .gameVariable => project.gameVariables[number]? = some name
  | .flag => project.flags[number]? = some name
  | .actor => (playerName :: project.actors.map (·.name))[number]? = some name
  | .script => project.declarations[number]? = some ⟨.script, name⟩
  | .scene => project.declarations[number]? = some ⟨.scene, name⟩
  | .song => project.HasAsset .song name ∧ project.declarations[number]? = some ⟨.asset, name⟩
  | .sound => project.HasAsset .sound name ∧ project.declarations[number]? = some ⟨.asset, name⟩

variable {project : Project} {name : String}

theorem mem_declarations_script :
    ⟨.script, name⟩ ∈ project.declarations ↔ name ∈ project.scripts.map (·.name) := by
  simp [declarations]

theorem mem_declarations_scene :
    ⟨.scene, name⟩ ∈ project.declarations ↔ name ∈ project.scenes.map (·.name) := by
  simp [declarations]

theorem HasAsset.mem_declarations {kind : AssetKind} (declared : project.HasAsset kind name) :
    ⟨.asset, name⟩ ∈ project.declarations := by
  obtain ⟨asset, member, rfl, _⟩ := declared
  simp only [declarations, List.mem_append, List.mem_map]
  exact .inl (.inr ⟨asset, member, rfl⟩)

theorem hasAsset_iff_exists {kind : AssetKind} : project.HasAsset kind name
    ↔ ∃ number : Nat, project.HasAsset kind name
      ∧ project.declarations[number]? = some ⟨.asset, name⟩ := by
  constructor
  · intro declared
    obtain ⟨number, there⟩ := List.getElem?_of_mem declared.mem_declarations
    exact ⟨number, declared, there⟩
  · rintro ⟨_, declared, _⟩
    exact declared

/-- **All that is declared has a number**, and nothing else has. -/
theorem declares_iff_exists_hasNumber {referent : Referent} :
    project.Declares referent name ↔ ∃ number, project.HasNumber referent name number := by
  cases referent with
  | gameVariable | flag | actor => exact List.mem_iff_getElem?
  | script => exact mem_declarations_script.symm.trans List.mem_iff_getElem?
  | scene => exact mem_declarations_scene.symm.trans List.mem_iff_getElem?
  | song | sound => exact hasAsset_iff_exists

end Project

variable {project : Project} {tables : Tables}

namespace Tables

/-- The number of a script or a scene is that of one with the same identifier. -/
theorem get?_symbol_eq_some_iff (made : ofProject project = .ok tables) {category : Category}
    {name : String} {index : UInt16} :
    tables.symbols.get? (Declaration.symbol ⟨category, name⟩) = some index
      ↔ ∃ declared, Identifier.ofName declared = Identifier.ofName name
        ∧ project.declarations[index.toNat]? = some ⟨category, declared⟩ := by
  rw [(ofProject_eq_ok made).1.get?_eq_some_iff, List.getElem?_map, Option.map_eq_some_iff]
  constructor
  · rintro ⟨⟨other, declared⟩, there, same⟩
    obtain ⟨rfl, same⟩ := (Declaration.symbol_eq_iff _ _).1 same
    exact ⟨declared, same, there⟩
  · rintro ⟨declared, same, there⟩
    exact ⟨_, there, (Declaration.symbol_eq_iff _ _).2 ⟨rfl, same⟩⟩

theorem get?_assets_eq_some_iff (valid : project.IsValid) (made : ofProject project = .ok tables)
    {name : String} {kind : AssetKind} :
    tables.assets.get? name = some kind ↔ project.HasAsset kind name := by
  refine ⟨exists_asset_of_get? made, ?_⟩
  rintro ⟨asset, member, rfl, rfl⟩
  rw [(ofProject_eq_ok made).2.1]
  refine OrderedTable.get?_insertAll_of_mem ?_ (List.mem_map_of_mem member)
  rw [List.map_map]
  exact valid.assets

/-- Of the assets with the same identifier only the one with the name itself is found. -/
theorem asset_eq_ok_iff_hasNumber (valid : project.IsValid)
    (made : ofProject project = .ok tables) {reference : Reference} {wanted : AssetKind}
    {index : UInt16} :
    tables.asset reference wanted = .ok index
      ↔ project.HasAsset wanted reference.name
        ∧ project.declarations[index.toNat]? = some ⟨.asset, reference.name⟩ := by
  rw [asset_eq_ok_iff, get?_assets_eq_some_iff valid made, get?_symbol_eq_some_iff made]
  refine and_congr_right fun declared => ⟨?_, fun there => ⟨_, rfl, there⟩⟩
  rintro ⟨other, same, there⟩
  have listed := List.inj_on_of_nodup_map (ofProject_eq_ok made).1.nodup
    (List.mem_of_getElem? there) declared.mem_declarations
    ((Declaration.symbol_eq_iff _ _).2 ⟨rfl, same⟩)
  rwa [listed] at there

/-- A number that is stored in some bytes is found as it is, if those bytes can hold it. -/
theorem map_eq_some_iff_of_exists {α : Type} {found : Option α} {toNat : α → Nat}
    (holds : Nat → Prop) (stored : ∀ value, found = some value ↔ holds (toNat value))
    (exists_toNat : ∀ number, holds number → ∃ value, toNat value = number) {number : Nat} :
    found.map toNat = some number ↔ holds number := by
  rw [Option.map_eq_some_iff]
  constructor
  · rintro ⟨value, there, rfl⟩
    exact (stored value).1 there
  · intro held
    obtain ⟨value, rfl⟩ := exists_toNat number held
    exact ⟨value, (stored value).2 held, rfl⟩

/-- The slot that is found for a name is its place. -/
theorem map_get?_slotsFrom_eq_some_iff {names : List String} (distinct : names.Nodup)
    (few : names.length ≤ 256) {name : String} {number : Nat} :
    ((slotsFrom ∅ 0 names).get? name).map UInt8.toNat = some number
      ↔ names[number]? = some name := by
  refine map_eq_some_iff_of_exists (fun number => names[number]? = some name)
    (fun slot => get?_slotsFrom_iff distinct few) fun place there => ?_
  obtain ⟨inside, _⟩ := List.getElem?_eq_some_iff.1 there
  exact ⟨UInt8.ofNat place, UInt8.toNat_ofNat_of_lt' (Nat.lt_of_lt_of_le inside few)⟩

theorem exists_index_of_declaration (made : ofProject project = .ok tables) {number : Nat}
    {declaration : Declaration} (there : project.declarations[number]? = some declaration) :
    ∃ index : UInt16, index.toNat = number := by
  obtain ⟨inside, _⟩ := List.getElem?_eq_some_iff.1 there
  have few := (ofProject_eq_ok made).1.length_le
  rw [List.length_map] at few
  exact ⟨UInt16.ofNat number, UInt16.toNat_ofNat_of_lt' (Nat.lt_of_lt_of_le inside few)⟩

theorem map_get?_symbol_eq_some_iff (made : ofProject project = .ok tables) {category : Category}
    {name : String} {number : Nat} :
    (tables.symbols.get? (Declaration.symbol ⟨category, name⟩)).map UInt16.toNat = some number
      ↔ ∃ declared, Identifier.ofName declared = Identifier.ofName name
        ∧ project.declarations[number]? = some ⟨category, declared⟩ := by
  refine map_eq_some_iff_of_exists (fun number => ∃ declared,
    Identifier.ofName declared = Identifier.ofName name
      ∧ project.declarations[number]? = some ⟨category, declared⟩)
    (fun _ => get?_symbol_eq_some_iff made) ?_
  rintro place ⟨declared, _, there⟩
  exact exists_index_of_declaration made there

theorem map_asset_eq_some_iff (valid : project.IsValid) (made : ofProject project = .ok tables)
    {reference : Reference} {wanted : AssetKind} {number : Nat} :
    (tables.asset reference wanted).toOption.map UInt16.toNat = some number
      ↔ project.HasAsset wanted reference.name
        ∧ project.declarations[number]? = some ⟨.asset, reference.name⟩ := by
  refine map_eq_some_iff_of_exists (fun number => project.HasAsset wanted reference.name
    ∧ project.declarations[number]? = some ⟨.asset, reference.name⟩) (fun index => ?_)
    fun place found => exists_index_of_declaration made found.2
  rw [← asset_eq_ok_iff_hasNumber valid made]
  cases tables.asset reference wanted <;> simp [Except.toOption]

/-- **The number that the tables have for a name** is that of a declared name it is taken for. -/
theorem number?_eq_some_iff (valid : project.IsValid) (made : ofProject project = .ok tables)
    {reference : Reference} {number : Nat} :
    tables.number? reference = some number
      ↔ ∃ declared, reference.referent.Finds reference.name declared
        ∧ project.HasNumber reference.referent declared number := by
  obtain ⟨field, referent, name⟩ := reference
  obtain ⟨gameVariables, flags, actors⟩ := slots_of_ofProject made
  have distinct := project.namesUnique_of_validate (Project.validate_eq_ok_iff.2 valid)
  cases referent with
  | gameVariable =>
    rw [number?, gameVariables,
      map_get?_slotsFrom_eq_some_iff distinct.gameVariables valid.gameVariableCount]
    simp only [Referent.Finds, Project.HasNumber, exists_eq_left]
  | flag =>
    rw [number?, flags, map_get?_slotsFrom_eq_some_iff distinct.flags valid.flagCount]
    simp only [Referent.Finds, Project.HasNumber, exists_eq_left]
  | actor =>
    have few : (playerName :: project.actors.map (·.name)).length ≤ 256 := by
      rw [List.length_cons, List.length_map]
      exact Nat.succ_le_succ valid.actorCount
    rw [number?, actors, actorSlots_eq, map_get?_slotsFrom_eq_some_iff distinct.actors few]
    simp only [Referent.Finds, Project.HasNumber, exists_eq_left]
  | script | scene => exact map_get?_symbol_eq_some_iff made
  | song | sound =>
    refine (map_asset_eq_some_iff valid made).trans ?_
    simp only [Referent.Finds, Project.HasNumber, exists_eq_left]

/-- A name is known just if it is taken for a declared one. -/
theorem knows_iff (valid : project.IsValid) (made : ofProject project = .ok tables)
    {reference : Reference} :
    tables.Knows reference ↔ ∃ declared, reference.referent.Finds reference.name declared
      ∧ project.Declares reference.referent declared := by
  simp only [Knows, Option.isSome_iff_exists, number?_eq_some_iff valid made,
    Project.declares_iff_exists_hasNumber, ← exists_and_left]
  exact exists_comm

end Tables

namespace CompiledScript

/-- A script has a fault in one of its events just if they are not fit or a name is not known. -/
theorem exists_fault_iff {source : ScriptSource} :
    (∃ path fault, ofSource tables source = .error (.node source.origin path fault))
      ↔ ¬ (Event.blockIsFit false source.body
        ∧ ∀ reference ∈ Event.blockNames source.body, tables.Knows reference) := by
  rw [← Event.exists_block_iff false [] .item 0 source.body, ofSource_eq]
  show _ ↔ ¬ ∃ statements, Event.script tables source.body = .ok statements
  cases Event.script tables source.body with
  | error fault => simp
  | ok statements =>
    refine iff_of_false ?_ fun refused => refused ⟨statements, rfl⟩
    rintro ⟨path, fault, failed⟩
    dsimp only at failed
    split at failed <;> cases failed

/-- **Which names compile, and to which numbers.** A script has a fault in one of its events just if
an event is not fit, or if some name is not taken for a declared one. In the code of a script that
compiles there are, one by one, the numbers of the declared names that the names in its events are
taken for. -/
theorem ofSource_finds (valid : project.validate = .ok ())
    (made : Tables.ofProject project = .ok tables) (source : ScriptSource) :
    ((∃ path fault, ofSource tables source = .error (.node source.origin path fault))
      ↔ ¬ Event.blockIsFit false source.body
        ∨ ∃ reference ∈ Event.blockNames source.body, ∀ declared,
          reference.referent.Finds reference.name declared →
            ¬ project.Declares reference.referent declared)
    ∧ ∀ script, ofSource tables source = .ok script →
      ∃ instructions, Instruction.readScript? script.code = some instructions
        ∧ List.Forall₂ (fun reference number => number.1 = reference.referent
            ∧ ∃ declared, reference.referent.Finds reference.name declared
              ∧ project.HasNumber reference.referent declared number.2)
          (Event.blockNames source.body) (instructions.flatMap Instruction.numbers) := by
  have isValid := Project.validate_eq_ok_iff.1 valid
  constructor
  · rw [exists_fault_iff, Classical.not_and_iff_not_or_not]
    simp only [Tables.knows_iff isValid made, Classical.not_forall, not_exists, not_and,
      exists_prop]
  · intro script compiled
    obtain ⟨statements, accepted, _, rfl⟩ := ofSource_eq_ok compiled
    refine ⟨_, readScript?_ofStatements source.symbol statements, ?_⟩
    have means := Statement.agrees_numbers.block 0 unresolved statements accepted
    rw [List.flatMap_append, List.flatMap_singleton,
      show Lowered.ending.numbers = [] from rfl, List.append_nil]
    exact means.imp fun reference number stands => ⟨stands.referent,
      (Tables.number?_eq_some_iff isValid made).1 stands.number⟩

/-! ### Another spelling of a declared name -/

/-- A project with one script. -/
def doors : Project where
  title := ""
  startScene := none
  gameVariables := []
  flags := []
  palettes := []
  assets := []
  scenes := []
  actors := []
  triggers := []
  scripts := [⟨"open door", []⟩]

theorem exists_tables_doors : ∃ tables, Tables.ofProject doors = .ok tables :=
  Tables.exists_ofProject (List.nodup_singleton _) (by decide)

theorem ofName_openDoor : Identifier.ofName "open door" = Identifier.ofName "Open-Door" := by
  decide

/-- A call of that script, with other letters in its name, compiles. -/
theorem exists_ofSource_openDoor {tables : Tables} (made : Tables.ofProject doors = .ok tables) :
    ∃ script, ofSource tables ⟨"script_test", "script", [.callScript "Open-Door"]⟩
      = .ok script := by
  have found : tables.symbols.get? (scriptSymbol "Open-Door") = some 0 :=
    (Tables.get?_symbol_eq_some_iff made).2 ⟨"open door", ofName_openDoor, rfl⟩
  have resolved : (Event.callScript "Open-Door").resolve tables
      = .ok (.plain ⟨.invoke, [.symbol 0]⟩) := by
    simp only [Event.resolve, Tables.script, found, Tables.lookUp]
    rfl
  have parts := ofSource_eq tables ⟨"script_test", "script", [.callScript "Open-Door"]⟩
  simp only [Event.script, Event.block, Event.statement_of_resolve resolved] at parts
  exact ⟨_, parts⟩

theorem validate_doors : doors.validate = .ok () := by
  refine Project.validate_eq_ok_iff.2 ?_
  constructor <;> simp [doors]

/-- No script is called `Open-Door`, but the call of it goes to the one called `open door`. -/
theorem ofSource_finds_openDoor :
    ¬ doors.Declares .script "Open-Door"
      ∧ ∃ tables script, Tables.ofProject doors = .ok tables
        ∧ ofSource tables ⟨"script_test", "script", [.callScript "Open-Door"]⟩ = .ok script
        ∧ ∃ instructions number, Instruction.readScript? script.code = some instructions
          ∧ instructions.flatMap Instruction.numbers = [(.script, number)]
          ∧ doors.HasNumber .script "open door" number := by
  obtain ⟨tables, made⟩ := exists_tables_doors
  obtain ⟨script, compiled⟩ := exists_ofSource_openDoor made
  obtain ⟨_, numbered⟩ := ofSource_finds validate_doors made
    ⟨"script_test", "script", [.callScript "Open-Door"]⟩
  obtain ⟨instructions, read, finds⟩ := numbered script compiled
  obtain ⟨⟨referent, number⟩, rest, ⟨rfl, declared, _, has⟩, last, same⟩ :=
    List.forall₂_cons_left_iff.1 finds
  have alone : rest = [] := List.forall₂_nil_left_iff.1 last
  have only : declared = "open door" :=
    List.mem_singleton.1 (Project.mem_declarations_script.1 (List.mem_of_getElem? has))
  refine ⟨fun called => ?_, tables, script, made, compiled, instructions, number, read, ?_,
    only ▸ has⟩
  · exact absurd (List.mem_singleton.1 called) (by decide)
  · rw [same, alone]

end CompiledScript
end Cartridge
