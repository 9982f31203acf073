import Mathlib
import Cartridge.Proofs.Build.Staging

/-!
# What the toolchain finds

The toolchain reads the generated files behind the aliases. `Staging.IsVisible` says that it finds
each of them and nothing else.

* `stage_visible_iff`: if the places are apart, the toolchain may only find an old file where the
  build directory was named by way of something missing.
* `stage_visible`: **behind the aliases are the generated files** and no other ones, whatever has
  been there before.
* `not_isVisible_overlapping`: not so if an alias is in the place of the build directory.
-/

namespace Cartridge.Staging

open FileSystem

variable {files after : FileSystem} {here : Location} {path buildDir target : String}
  {build : Trail} {spot : Alias} {sources : List SourceFile} {left : Location → Option Node}

/-- The toolchain finds generated files behind the aliases, and no other ones. -/
structure IsVisible (here : Location) (config : Config) (sources : List SourceFile)
    (files : FileSystem) : Prop where
  /-- The alias of the header leads to the header of the banks. -/
  header : ∀ source ∈ sources, source.path = bankHeaderName →
    files.read here config.headerLinkPath = .ok source.contents.toBytes
  /-- The alias of the directory leads to the contents of each file. -/
  data : ∀ source ∈ sources,
    files.read here (FilePath.join config.dataLinkPath source.path) = .ok source.contents.toBytes
  /-- There are no other names in the directory. -/
  names : ∃ names, files.list here config.dataLinkPath = .ok names
    ∧ names.Perm (sources.map SourceFile.path)

/-- A generated file is found behind the names of the directory. -/
theorem Holds.walk_eq (holds : Holds files here buildDir build sources left)
    (root : FilePath.isAbsolute buildDir = true) {source : SourceFile} (found : source ∈ sources)
    {names : List String} (same : Way.pointless names = Way.pointless (FilePath.names buildDir))
    {links : Nat} (enough : build.links ≤ links) :
    files.walk true links [] (names ++ [source.path]) = .ok (source.path :: build.goal) := by
  obtain ⟨looked, stored⟩ := holds.stored source found
  have way := holds.way.congr_points same
  rw [start, if_pos root] at way
  exact walk_file way looked stored enough

/-- An alias of a generated file is read as that file. -/
theorem Holds.read_alias (holds : Holds files here buildDir build sources left)
    (root : FilePath.isAbsolute buildDir = true) {source : SourceFile} (found : source ∈ sources)
    (plain : FilePath.IsPlain source.path)
    (stands : spot.StandsFor files here path (FilePath.join buildDir source.path))
    (enough : spot.way.links + 1 + build.links ≤ linkLimit) :
    files.read here path = .ok source.contents.toBytes := by
  obtain ⟨usable, ⟨before, calls, way⟩, looked, link⟩ := stands
  have given : buildDir ≠ "" := nonempty_of_isAbsolute root
  refine read_of_locate ?_ (holds.stored source found).2
  rw [locate_of_isUsable usable, calls.pathNames_eq,
    walk_through way looked link ((FilePath.isAbsolute_join given plain).trans root) (by omega),
    (calls_join given plain).pathNames_eq, List.append_nil]
  exact holds.walk_eq root found rfl (by omega)

/-- A generated file is read through an alias of the directory. -/
theorem Holds.read_through (holds : Holds files here buildDir build sources left)
    (root : FilePath.isAbsolute buildDir = true) {source : SourceFile} (found : source ∈ sources)
    (plain : FilePath.IsPlain source.path) (stands : spot.StandsFor files here path buildDir)
    (usable : IsUsable (FilePath.join path source.path))
    (enough : spot.way.links + 1 + build.links ≤ linkLimit) :
    files.read here (FilePath.join path source.path) = .ok source.contents.toBytes := by
  obtain ⟨⟨given, -, -⟩, ⟨before, calls, way⟩, looked, link⟩ := stands
  refine read_of_locate ?_ (holds.stored source found).2
  rw [locate_of_isUsable usable, (calls_join given plain).pathNames_eq, calls.names_eq,
    start_join here given plain, List.append_assoc, List.singleton_append,
    walk_through way looked link root (by omega)]
  refine holds.walk_eq root found ?_ (by omega)
  rw [pointless_pathNames]
  rfl

/-- The directory is listed through an alias of it. -/
theorem Holds.list_through (holds : Holds files here buildDir build sources left)
    (root : FilePath.isAbsolute buildDir = true) (stands : spot.StandsFor files here path buildDir)
    (enough : spot.way.links + 1 + build.links ≤ linkLimit) :
    files.list here path = .ok (files.names build.goal) := by
  obtain ⟨usable, ⟨before, calls, way⟩, looked, link⟩ := stands
  refine list_of_locate ?_ holds.there
  have same : Way.pointless (pathNames buildDir) = Way.pointless (FilePath.names buildDir) := by
    rw [pointless_pathNames]
    rfl
  have inside := holds.way.congr_points same
  rw [start, if_pos root] at inside
  rw [locate_of_isUsable usable, calls.pathNames_eq, walk_through way looked link root (by omega),
    inside.walk_append (by omega) (Or.inr rfl), walk]

/-- The names in the directory are those of the generated files, and of what was left there. -/
theorem Holds.mem_names_iff (holds : Holds files here buildDir build sources left) (name : String) :
    name ∈ files.names build.goal
      ↔ name ∈ sources.map SourceFile.path ∨ (left (name :: build.goal)).isSome = true := by
  rw [FileSystem.mem_names_iff]
  by_cases generated : name ∈ sources.map SourceFile.path
  · obtain ⟨source, found, rfl⟩ := List.mem_map.1 generated
    simp [(holds.stored source found).2, generated]
  · have same : files.node? (name :: build.goal) = left (name :: build.goal) := by
      refine holds.besides _ ⟨List.suffix_cons _ _, by simp⟩ fun source found equal => ?_
      exact generated (List.mem_map.2 ⟨source, found, (List.cons.inj equal).1.symm⟩)
    simp [same, generated]

/-- **Behind the aliases are the generated files** and no other ones, wherever links and other
leftovers are, if the places stay apart; but what a build directory holds that is only named by way
of what is missing is taken for generated, too. -/
theorem stage_visible_iff {config : Config} {header data : Alias}
    (made : absolute here config.buildDir = .ok buildDir)
    (buildWay : files.Way false [] (FilePath.steps buildDir) build)
    (headerAt : header.IsAt files here config.headerLinkPath)
    (dataAt : data.IsAt files here config.dataLinkPath)
    (apart : IsApart build header data)
    (free : ∀ source ∈ sources, ∀ target,
      leftIn files here buildDir (source.path :: build.goal) ≠ some (.link target))
    (plain : ∀ source ∈ sources, FilePath.IsPlain source.path)
    (distinct : (sources.map SourceFile.path).Nodup)
    (banks : ∃ source ∈ sources, source.path = bankHeaderName)
    (short : ∀ source ∈ sources,
      (FilePath.join config.dataLinkPath source.path).utf8ByteSize < pathLimit)
    (staged : (stage here config sources).run.run files = (.ok (), after)) :
    IsVisible here config sources after
      ↔ files.isPresent here buildDir = true
        ∨ ∀ name, (files.node? (name :: build.goal)).isSome = true →
            name ∈ sources.map SourceFile.path := by
  obtain ⟨banks, among, named⟩ := banks
  obtain ⟨holds, usable, standsHeader, standsData⟩ := stage_ok made buildWay headerAt dataAt
    apart free plain distinct (List.ne_nil_of_mem among) staged
  have root := isAbsolute_of_absolute made
  have listed := holds.list_through root standsData apart.data_links
  constructor
  · rintro ⟨-, -, names, same, generated⟩
    by_cases present : files.isPresent here buildDir = true
    · exact Or.inl present
    · refine Or.inr fun name stale => generated.mem_iff.1 ?_
      rw [listed] at same
      cases same
      rw [holds.mem_names_iff, leftIn, if_neg present]
      exact Or.inr stale
  · intro fresh
    constructor
    · intro source found header
      rw [← header] at standsHeader
      exact holds.read_alias root found (plain source found) standsHeader apart.header_links
    · intro source found
      have own := plain source found
      exact holds.read_through root found own standsData
        (isUsable_join standsData.usable own (usable source found) (short source found))
        apart.data_links
    · refine ⟨_, listed, (List.perm_ext_iff_of_nodup (nodup_names _ _) distinct).2 fun name => ?_⟩
      rw [holds.mem_names_iff, leftIn, or_iff_left_iff_imp]
      rcases fresh with present | generated
      · simp [present]
      · split
        · simp
        · exact generated name

/-! ## Places in the root -/

/-- A path of something in the root. -/
structure InRoot (path name : String) : Prop where
  usable : IsUsable path
  absolute : FilePath.isAbsolute path = true
  calls : Calls path [] name
  looked : IsLookedUp name
  parent : FilePath.parent? path = some "/"

theorem InRoot.start_eq {name : String} (inRoot : InRoot path name) : start here path = [] := by
  rw [start, if_pos inRoot.absolute]

/-- The alias with that path is in the root. -/
theorem InRoot.isAt {name : String} (inRoot : InRoot path name) :
    Alias.IsAt ⟨⟨[], 0, []⟩, name⟩ files here path := by
  constructor
  · rw [inRoot.start_eq, inRoot.calls.names_eq]
    exact .stop
  · rw [inRoot.calls.names_eq]
    rfl

theorem InRoot.entry_eq {name : String} (inRoot : InRoot path name) (files : FileSystem) :
    files.entry here path = .ok ⟨[], name, false⟩ := by
  rw [entry, (origin_eq_ok_iff here path []).2 ⟨inRoot.usable, inRoot.start_eq⟩,
    inRoot.calls.names_eq, inRoot.calls.not_slashed]
  simp [walk]
  rfl

/-- Something in the root is found by its name. -/
theorem InRoot.find_eq {name : String} (inRoot : InRoot path name) (here : Location) {node : Node}
    (found : files.node? [name] = some node) : files.find false here path = .ok ([name], node) := by
  refine find_of_locate ?_ found
  obtain ⟨usable, absolute, calls, looked, -⟩ := inRoot
  rw [locate_of_isUsable usable, calls.pathNames_eq, start, if_pos absolute, List.nil_append, walk,
    if_neg looked.ne_point, if_neg looked.ne_points, if_neg (Nat.not_lt.2 looked.short), found]
  cases node with
  | directory => simp [walk]
  | file contents => rfl
  | link target => rfl

/-- A directory in the root is found by its name. -/
theorem InRoot.find_directory {name : String} (inRoot : InRoot path name) (here : Location)
    (there : files.node? [name] = some .directory) :
    files.find true here path = .ok ([name], .directory) := by
  refine find_of_locate ?_ there
  obtain ⟨usable, absolute, calls, looked, -⟩ := inRoot
  rw [locate_of_isUsable usable, calls.pathNames_eq, start, if_pos absolute, List.nil_append, walk,
    if_neg looked.ne_point, if_neg looked.ne_points, if_neg (Nat.not_lt.2 looked.short), there]
  simp [walk]

/-- An alias in the root is put where nothing is left. -/
theorem InRoot.run_relink {name : String} (inRoot : InRoot path name)
    (removed : (removeAlias here path).run.run files = (.ok (), after))
    (free : after.node? [name] = none) (real : '\x00' ∉ target.toList) (given : target ≠ "") :
    (relink here path target).run.run files = (.ok (), after.put [name] (.link target)) := by
  have there : (FileAction.createDirectories here "/").run.run after = (.ok (), after) := by
    have located (follow : Bool) : after.locate follow here "/" = .ok [] := by
      have names : pathNames "/" = ["."] := by cbv
      have start : start here "/" = [] := if_pos (by cbv)
      rw [locate_of_isUsable ⟨by decide, by decide, by decide⟩, names, start]
      simp [walk]
    exact FileAction.run_createDirectories_of_there (by decide) (by cbv) (located false)
      (located true) (node?_nil _)
  have created : after.createLink here target path = .ok (after.put [name] (.link target)) := by
    have looked := inRoot.looked
    have place : (Entry.mk [] name false).place? = some [name] := by
      rw [Entry.place?, if_neg (not_or.2 ⟨looked.ne_point, looked.ne_points⟩)]
    rw [createLink, inRoot.entry_eq]
    simp only [String.contains_char_eq, real, decide_false, Bool.false_eq_true, if_false,
      String.isEmpty_iff, given]
    dsimp only [bind, Except.bind]
    simp only [place, Nat.not_lt.2 looked.short, if_false, free, Option.isSome_none,
      Bool.false_eq_true]
    rfl
  rw [relink, run_bind_of_ok (run_blaming_of_ok removed), inRoot.parent]
  dsimp only
  rw [run_bind_of_ok (run_blaming_of_ok there), run_blaming, FileAction.run_change, created]
  rfl

/-- A link in the root is replaced by another one. -/
theorem InRoot.run_relink_link {name old : String} (inRoot : InRoot path name)
    (link : files.node? [name] = some (.link old)) (real : '\x00' ∉ target.toList)
    (given : target ≠ "") :
    (relink here path target).run.run files
      = (.ok (), (files.erase [name]).put [name] (.link target)) := by
  have found := inRoot.find_eq here link
  have removed : (removeAlias here path).run.run files = (.ok (), files.erase [name]) := by
    rw [removeAlias, run_bind, FileAction.run_get]
    dsimp only
    rw [found]
    dsimp only
    rw [FileAction.run_change, removeFile, found]
    rfl
  refine inRoot.run_relink removed ?_ real given
  rw [node?_erase _ _ _ (by simp), if_pos rfl]

/-- A directory in the root is replaced by a link, with all that is in it. -/
theorem InRoot.run_relink_directory {name : String} (inRoot : InRoot path name)
    (there : files.node? [name] = some .directory) (real : '\x00' ∉ target.toList)
    (given : target ≠ "") :
    (relink here path target).run.run files
      = (.ok (), ((files.clear [name]).erase [name]).put [name] (.link target)) := by
  have looked := inRoot.looked
  have found := inRoot.find_eq here there
  have cleared : (files.clear [name]).node? [name] = some .directory :=
    (node?_clear_of_not_inside _ fun inside => inside.2 rfl).trans there
  have place : (Entry.mk [] name false).place? = some [name] := by
    rw [Entry.place?, if_neg (not_or.2 ⟨looked.ne_point, looked.ne_points⟩)]
  have gone : (files.clear [name]).removeDirectory here path
      = .ok ((files.clear [name]).erase [name]) := by
    rw [removeDirectory, inRoot.entry_eq]
    dsimp only [bind, Except.bind]
    rw [place]
    dsimp only
    rw [cleared, names_clear]
    rfl
  have removed : (removeAlias here path).run.run files
      = (.ok (), (files.clear [name]).erase [name]) := by
    rw [removeAlias, run_bind, FileAction.run_get]
    dsimp only
    rw [found]
    dsimp only
    rw [FileAction.removeTree, run_bind, FileAction.run_query, found]
    dsimp only
    rw [run_bind, FileAction.run_change]
    dsimp only
    rw [FileAction.ifPresent, run_tryCatch, FileAction.run_change, gone]
  refine inRoot.run_relink removed ?_ real given
  rw [node?_erase _ _ _ (by simp), if_pos rfl]

/-! ## Building once more -/

/-- What an earlier build has left: both aliases, and a bank that is not generated any more. -/
def leftovers : FileSystem :=
  (((FileSystem.empty.put ["b"] .directory).put ["bank_009.c", "b"] (.file ⟨#[]⟩)).put ["h"]
    (.link "/b/banks.h")).put ["d"] (.link "/b")

/-- What is generated now. -/
def generatedHeader : SourceFile := ⟨bankHeaderName, .text "new"⟩

theorem isPlain_generatedHeader : FilePath.IsPlain generatedHeader.path :=
  ⟨by decide, by decide, by decide, by decide⟩

/-- A configuration with its places in the root, where the alias of the directory is given. -/
def inTheRoot (dataLink : String) : Config :=
  ⟨⟨0x4000, 255, 1⟩, "", "make", "***", "", "/b", "/h", dataLink⟩

/-- What there is before the alias of the directory is replaced. -/
def halfway : FileSystem :=
  (((leftovers.clear ["b"]).put ["banks.h", "b"] (.file "new".toUTF8)).erase ["h"]).put ["h"]
    (.link "/b/banks.h")

theorem inRoot_b : InRoot "/b" "b" :=
  ⟨⟨by decide, by decide, by decide⟩, by cbv, ⟨by cbv, by decide, by decide, by cbv⟩,
    ⟨by decide, by decide, by decide⟩, by cbv⟩

theorem inRoot_d : InRoot "/d" "d" :=
  ⟨⟨by decide, by decide, by decide⟩, by cbv, ⟨by cbv, by decide, by decide, by cbv⟩,
    ⟨by decide, by decide, by decide⟩, by cbv⟩

theorem inRoot_h : InRoot "/h" "h" :=
  ⟨⟨by decide, by decide, by decide⟩, by cbv, ⟨by cbv, by decide, by decide, by cbv⟩,
    ⟨by decide, by decide, by decide⟩, by cbv⟩

theorem leftovers_b : leftovers.node? ["b"] = some .directory := by
  simp [leftovers, node?_put_eq]

/-- The build directory in the root is made empty. -/
theorem run_prepare_b (there : files.node? ["b"] = some .directory) :
    (prepare [] "/b").run.run files = (.ok (), files.clear ["b"]) := by
  have found := inRoot_b.find_directory [] there
  have present : files.isPresent [] "/b" = true := by
    rw [isPresent, found]
    rfl
  rw [prepare, run_bind, FileAction.run_get]
  dsimp only
  rw [if_pos present, empty, run_bind, FileAction.run_query, directory, found]
  rfl

theorem write_b (there : files.node? ["b"] = some .directory)
    (missing : files.node? ["banks.h", "b"] = none) :
    files.write [] "/b/banks.h" "new".toUTF8
      = .ok (files.put ["banks.h", "b"] (.file "new".toUTF8)) := by
  have usable : IsUsable "/b/banks.h" := ⟨by decide, by decide, by decide⟩
  have start : start [] "/b/banks.h" = [] := by cbv
  have names : FilePath.names "/b/banks.h" = ["b", "banks.h"] := by cbv
  have slashed : "/b/banks.h".endsWith "/" = false := by cbv
  have short : ¬ nameLimit < "b".utf8ByteSize := by decide
  have short' : ¬ nameLimit < "banks.h".utf8ByteSize := by decide
  have entered : files.entry [] "/b/banks.h" = .ok ⟨["b"], "banks.h", false⟩ := by
    rw [entry, (origin_eq_ok_iff [] _ []).2 ⟨usable, start⟩, names, slashed]
    dsimp only [bind, Except.bind]
    simp [walk, there, short]
    rfl
  have located : files.locate true [] "/b/banks.h" = .ok ["banks.h", "b"] := by
    rw [locate_of_isUsable usable, start, pathNames, names, slashed]
    simp [walk, there, missing, short, short']
  rw [write, entered, located]
  dsimp only [bind, Except.bind]
  rw [missing]
  rfl

/-- The generated header is written into the build directory in the root. -/
theorem run_writeAll_b (there : files.node? ["b"] = some .directory)
    (missing : files.node? ["banks.h", "b"] = none) :
    (SourceFile.writeAll [] "/b" [generatedHeader]).run.run files
      = (.ok (), files.put ["banks.h", "b"] (.file "new".toUTF8)) := by
  have target : FilePath.join "/b" generatedHeader.path = "/b/banks.h" := by cbv
  have bytes : generatedHeader.contents.toBytes = "new".toUTF8 := rfl
  have ready : (FileAction.createDirectories [] "/b").run.run files = (.ok (), files) := by
    have called := (find_eq_ok (inRoot_b.find_eq [] there)).1
    have found := (find_eq_ok (inRoot_b.find_directory [] there)).1
    exact FileAction.run_createDirectories_of_there (by decide) (by cbv) called found there
  rw [SourceFile.writeAll, run_bind_of_ok ready, List.forM_eq_forM, List.forM_cons, List.forM_nil,
    run_bind, FileAction.run_change, target, bytes, write_b there missing]
  rfl

/-- All but the last alias is done in the same way whatever that alias is. -/
theorem run_stage_inTheRoot (dataLink : String) {old : String}
    (there : files.node? ["b"] = some .directory) (link : files.node? ["h"] = some (.link old)) :
    (stage [] (inTheRoot dataLink) [generatedHeader]).run.run files
      = (relink [] (inTheRoot dataLink).dataLinkPath "/b").run.run
          ((((files.clear ["b"]).put ["banks.h", "b"] (.file "new".toUTF8)).erase ["h"]).put ["h"]
            (.link "/b/banks.h")) := by
  have headerPath : (inTheRoot dataLink).headerLinkPath = "/h" :=
    (by cbv : FilePath.join "" "/h" = "/h")
  have made : absolute [] (inTheRoot dataLink).buildDir = .ok "/b" :=
    (by cbv : absolute [] "/b" = .ok "/b")
  have target : FilePath.join "/b" bankHeaderName = "/b/banks.h" := by cbv
  have cleared : (files.clear ["b"]).node? ["b"] = some .directory :=
    (node?_clear_of_not_inside _ fun inside => inside.2 rfl).trans there
  have missing : (files.clear ["b"]).node? ["banks.h", "b"] = none :=
    node?_clear_of_inside _ ⟨List.suffix_cons _ _, by simp⟩
  have link : ((files.clear ["b"]).put ["banks.h", "b"] (.file "new".toUTF8)).node? ["h"]
      = some (.link old) := by
    simp +decide [node?_put_eq, node?_clear, link]
  have relinked : (relink [] "/h" "/b/banks.h").run.run _ = _ :=
    inRoot_h.run_relink_link link (by decide) (by decide)
  rw [stage, made]
  dsimp only
  rw [pure_bind, run_bind_of_ok (run_blaming_of_ok (run_prepare_b there)),
    run_bind_of_ok (run_blaming_of_ok (run_writeAll_b cleared missing)), headerPath, target,
    run_bind_of_ok relinked]

theorem run_stage_leftovers (dataLink : String) :
    (stage [] (inTheRoot dataLink) [generatedHeader]).run.run leftovers
      = (relink [] (inTheRoot dataLink).dataLinkPath "/b").run.run halfway := by
  have link : leftovers.node? ["h"] = some (.link "/b/banks.h") := by
    simp [leftovers, node?_put_eq]
  exact run_stage_inTheRoot dataLink leftovers_b link

/-! ## What is visible -/

/-- **Behind the aliases are the generated files** and no other ones, whatever has been there before,
if the places are apart and the build directory is not named by way of something missing. -/
theorem stage_visible {config : Config} {header data : Alias}
    (made : absolute here config.buildDir = .ok buildDir)
    (buildWay : files.Way false [] (FilePath.steps buildDir) build)
    (headerAt : header.IsAt files here config.headerLinkPath)
    (dataAt : data.IsAt files here config.dataLinkPath)
    (apart : IsApart build header data)
    (vacant : files.isPresent here buildDir = true
      ∨ ∀ name, files.node? (name :: build.goal) = none)
    (plain : ∀ source ∈ sources, FilePath.IsPlain source.path)
    (distinct : (sources.map SourceFile.path).Nodup)
    (banks : ∃ source ∈ sources, source.path = bankHeaderName)
    (short : ∀ source ∈ sources,
      (FilePath.join config.dataLinkPath source.path).utf8ByteSize < pathLimit)
    (staged : (stage here config sources).run.run files = (.ok (), after)) :
    IsVisible here config sources after := by
  have nothing (name : String) : leftIn files here buildDir (name :: build.goal) = none := by
    unfold leftIn
    rcases vacant with present | none
    · exact if_pos present
    · simp [none]
  refine (stage_visible_iff made buildWay headerAt dataAt apart ?_ plain distinct banks short
    staged).2 ?_
  · intro source _ target
    simp [nothing]
  · refine vacant.imp id fun none name stale => ?_
    simp [none] at stale

/-- The next build finds its own file behind both aliases, and the old bank is gone. -/
theorem stage_visible_leftovers : ∃ after,
    leftovers.node? ["bank_009.c", "b"] = some (.file ⟨#[]⟩)
      ∧ (stage [] (inTheRoot "/d") [generatedHeader]).run.run leftovers = (.ok (), after)
      ∧ IsVisible [] (inTheRoot "/d") [generatedHeader] after := by
  have stale : leftovers.node? ["bank_009.c", "b"] = some (.file ⟨#[]⟩) := by
    simp [leftovers, node?_put_eq]
  have headerPath : (inTheRoot "/d").headerLinkPath = "/h" := by cbv
  have dataPath : (inTheRoot "/d").dataLinkPath = "/d" := by cbv
  have link : halfway.node? ["d"] = some (.link "/b") := by
    simp +decide [halfway, node?_put_eq, node?_erase, node?_clear, leftovers]
  have relinked : (relink [] "/d" "/b").run.run halfway
      = (.ok (), (halfway.erase ["d"]).put ["d"] (.link "/b")) :=
    inRoot_d.run_relink_link link (by decide) (by decide)
  have staged := run_stage_leftovers "/d"
  rw [dataPath, relinked] at staged
  have present : leftovers.isPresent [] "/b" = true := by
    rw [isPresent, inRoot_b.find_directory [] leftovers_b]
    rfl
  have buildWay : leftovers.Way false [] (FilePath.steps "/b") ⟨[[]], 0, ["b"]⟩ := by
    have steps : FilePath.steps "/b" = ["b"] := by cbv
    rw [steps]
    exact .down inRoot_b.looked (Or.inl leftovers_b) .stop
  have headerAt : Alias.IsAt ⟨⟨[], 0, []⟩, "h"⟩ leftovers [] (inTheRoot "/d").headerLinkPath := by
    rw [headerPath]
    exact inRoot_h.isAt
  have dataAt : Alias.IsAt ⟨⟨[], 0, []⟩, "d"⟩ leftovers [] (inTheRoot "/d").dataLinkPath := by
    rw [dataPath]
    exact inRoot_d.isAt
  have apart : IsApart ⟨[[]], 0, ["b"]⟩ ⟨⟨[], 0, []⟩, "h"⟩ ⟨⟨[], 0, []⟩, "d"⟩ := by
    constructor <;> decide
  refine ⟨_, stale, staged, stage_visible (by cbv) buildWay headerAt dataAt apart (Or.inl present)
    ?_ (by simp) ⟨_, List.mem_cons_self, rfl⟩ ?_ staged⟩
  · intro source found
    obtain rfl := List.mem_singleton.1 found
    exact isPlain_generatedHeader
  · intro source found
    obtain rfl := List.mem_singleton.1 found
    have path : FilePath.join "/d" generatedHeader.path = "/d/banks.h" := by cbv
    rw [dataPath, path]
    decide

/-- What leads to itself cannot be followed. -/
theorem walk_loop {name : String} (inRoot : InRoot path name)
    (loop : files.node? [name] = some (.link path)) (links : Nat) (rest : List String) :
    files.walk true links [] (name :: rest) = .error .tooManyLinks := by
  have absolute : path.startsWith "/" = true := inRoot.absolute
  have looked := inRoot.looked
  induction links generalizing rest with
  | zero =>
    rw [walk, if_neg looked.ne_point, if_neg looked.ne_points, if_neg (Nat.not_lt.2 looked.short),
      loop]
    simp
  | succ links ih =>
    rw [walk, if_neg looked.ne_point, if_neg looked.ne_points, if_neg (Nat.not_lt.2 looked.short),
      loop]
    simp [inRoot.calls.pathNames_eq, absolute, ih]

/-- With the alias of the directory in the place of the build directory all is lost, and nothing is
refused. -/
theorem not_isVisible_overlapping : ∃ after,
    generatedHeader.path = bankHeaderName ∧ FilePath.IsPlain generatedHeader.path
      ∧ (stage [] (inTheRoot "/b") [generatedHeader]).run.run leftovers = (.ok (), after)
      ∧ ¬ IsVisible [] (inTheRoot "/b") [generatedHeader] after := by
  have dataPath : (inTheRoot "/b").dataLinkPath = "/b" := by cbv
  have there : halfway.node? ["b"] = some .directory := by
    simp +decide [halfway, node?_put_eq, node?_erase, node?_clear, leftovers]
  have relinked : (relink [] "/b" "/b").run.run halfway
      = (.ok (), ((halfway.clear ["b"]).erase ["b"]).put ["b"] (.link "/b")) :=
    inRoot_b.run_relink_directory there (by decide) (by decide)
  have staged := run_stage_leftovers "/b"
  rw [dataPath, relinked] at staged
  refine ⟨_, rfl, isPlain_generatedHeader, staged, ?_⟩
  rintro ⟨-, -, names, listed, -⟩
  obtain ⟨place, found, -⟩ := bind_eq_ok listed
  obtain ⟨⟨place, node⟩, found, -⟩ := bind_eq_ok found
  have walked := (locate_eq_ok (find_eq_ok found).1).2
  rw [dataPath, inRoot_b.calls.pathNames_eq, inRoot_b.start_eq, List.nil_append,
    walk_loop inRoot_b (FileAction.node?_put_goal ?_)] at walked
  · cases walked
  · rw [node?_erase _ _ _ (by simp), if_pos rfl]

end Cartridge.Staging
