import Cartridge.Build.Staging
import Cartridge.Proofs.FileSystem.Frame

/-!
# What staging leaves

The generated files are written into the build directory, and two aliases are made of it and of one
of the files. What is done to one of the three places must not undo what was done to another one, on
whatever links and through whatever directories the paths lead there. `Staging.IsApart` says so of
the ways through the file system that staging starts with.

* `prepare_touches`, `Writes`, `removeAlias_spares`: what a step can change.
* `prepare_ok`, `writeAll_ok`, `relink_ok`: what each step leaves.
* `stage_ok`: **in the end the build directory holds the generated files**, and the aliases stand
  for it.
-/

namespace Cartridge.Staging

open FileSystem

/-- Where an alias is: its name, and the way to the directory that it is in. -/
structure Alias where
  way : Trail
  name : String

/-- The location of an alias. -/
def Alias.place (spot : Alias) : Location := spot.name :: spot.way.goal

/-- The locations of an alias and on the way there. -/
def Alias.places (spot : Alias) : List Location := spot.place :: spot.way.places

/-- An alias is where a path says, if what is missing on the way there is created. -/
structure Alias.IsAt (spot : Alias) (files : FileSystem) (here : Location) (path : String) : Prop where
  way : files.Way false (start here path) (FilePath.names path).dropLast spot.way
  name_eq : (FilePath.names path).getLastD "." = spot.name

/-- The three places do not get into each other's way. -/
structure IsApart (build : Trail) (header data : Alias) : Prop where
  /-- Emptying the build directory takes away nothing that a path leads through. -/
  build_apart : ∀ place ∈ build.places ++ header.places ++ data.places, ¬ Inside build.goal place
  /-- Replacing the alias of the header takes away nothing that another path leads through. -/
  header_apart : ∀ place ∈ build.places ++ header.way.places ++ data.places,
    ¬ header.place <:+ place
  /-- Nor does replacing the alias of the directory. -/
  data_apart : ∀ place ∈ build.places ++ header.places ++ data.way.places, ¬ data.place <:+ place
  /-- There are not too many links on the way through an alias. -/
  header_links : header.way.links + 1 + build.links ≤ linkLimit
  data_links : data.way.links + 1 + build.links ≤ linkLimit

/-- A directory holds generated files, and besides them what was left there. -/
structure Holds (files : FileSystem) (here : Location) (directory : String) (trail : Trail)
    (sources : List SourceFile) (left : Location → Option Node) : Prop where
  way : files.Way true (start here directory) (FilePath.names directory) trail
  there : files.node? trail.goal = some .directory
  stored : ∀ source ∈ sources, IsLookedUp source.path
    ∧ files.node? (source.path :: trail.goal) = some (.file source.contents.toBytes)
  besides : ∀ place, Inside trail.goal place →
    (∀ source ∈ sources, place ≠ source.path :: trail.goal) → files.node? place = left place

/-- A path is that of an alias, which stands for another path. -/
structure Alias.StandsFor (spot : Alias) (files : FileSystem) (here : Location)
    (path target : String) : Prop where
  usable : IsUsable path
  calls : ∃ before, Calls path before spot.name ∧ files.Way true (start here path) before spot.way
  looked : IsLookedUp spot.name
  link : files.node? spot.place = some (.link target)

/-- Nothing has changed but an alias, and directories may have been added on the way there. -/
def Alias.Replaced (spot : Alias) (before after : FileSystem) : Prop :=
  ∀ place, ¬ spot.place <:+ place → Grown before after place
    ∧ (place ∉ spot.way.places → after.node? place = before.node? place)

variable {files after : FileSystem} {here : Location} {path buildDir target : String}
  {build : Trail} {spot : Alias} {sources : List SourceFile} {left : Location → Option Node}

/-! ## The build directory -/

/-- What is left inside the build directory when it has been prepared: nothing, unless its path
leads nowhere. Then it is created, but it is not made empty. -/
def leftIn (files : FileSystem) (here : Location) (buildDir : String) (place : Location) :
    Option Node :=
  if files.isPresent here buildDir then none else files.node? place

section Prepare

variable {goal : Location} {places : List Location}

/-- Nothing changes outside the build directory when it is prepared, but it may be created. -/
theorem prepare_touches
    (found : ∀ place, files.find true here buildDir = .ok (place, .directory) → place = goal)
    (added : Adds places files ((FileAction.createDirectories here buildDir).run.run files).2) :
    Touches (Inside goal) places files ((prepare here buildDir).run.run files).2 := by
  rw [prepare, run_bind, FileAction.run_get]
  dsimp only
  split
  · rw [empty, run_bind, FileAction.run_query]
    cases looked : files.directory here buildDir with
    | error fault => exact Touches.refl _ _ _
    | ok place =>
      obtain ⟨⟨place', node⟩, there, isDirectory⟩ := bind_eq_ok looked
      cases node with
      | file contents => cases isDirectory
      | link target => cases isDirectory
      | directory =>
        cases isDirectory
        obtain rfl := found place there
        dsimp only
        rw [FileAction.run_change]
        exact touches_clear files place places
  · exact added.touches _

/-- **The build directory is made empty** if its path leads somewhere. -/
theorem prepare_ok (ended : (prepare here buildDir).run.run files = (.ok (), after))
    (found : ∀ place, files.find true here buildDir = .ok (place, .directory) → place = goal)
    (added : Adds places files ((FileAction.createDirectories here buildDir).run.run files).2)
    (own : ∀ place ∈ places, ¬ Inside goal place) {place : Location} (inside : Inside goal place) :
    after.node? place = leftIn files here buildDir place := by
  obtain ⟨_, _, looked, ended⟩ := run_bind_eq_ok ended
  rw [FileAction.run_get] at looked
  cases looked
  split at ended
  · next present =>
    obtain ⟨other, _, looked, cleared⟩ := run_bind_eq_ok ended
    obtain ⟨looked, rfl⟩ := FileAction.query_eq_ok looked
    cases FileAction.change_eq_ok cleared
    obtain ⟨⟨other', node⟩, there, isDirectory⟩ := bind_eq_ok looked
    cases node with
    | file contents => cases isDirectory
    | link target => cases isDirectory
    | directory =>
      cases isDirectory
      obtain rfl := found other there
      exact (node?_clear_of_inside _ inside).trans (if_pos present).symm
  · next absent =>
    rw [ended] at added
    rw [(added place).2 fun among => own place among inside, leftIn, if_neg absent]

end Prepare

/-- The locations of some files in a directory. -/
def IsAmong (sources : List SourceFile) (goal place : Location) : Prop :=
  ∃ source ∈ sources, place = source.path :: goal

/-- As long as something holds, each file is written into a directory, and then it still holds. -/
structure Writes (here : Location) (buildDir : String) (goal : Location) (sources : List SourceFile)
    (holds : FileSystem → Prop) : Prop where
  wrote : ∀ source ∈ sources, ∀ files after, holds files →
    files.write here (FilePath.join buildDir source.path) source.contents.toBytes = .ok after →
      after = files.put (source.path :: goal) (.file source.contents.toBytes)
  kept : ∀ source ∈ sources, ∀ files, holds files →
    holds (files.put (source.path :: goal) (.file source.contents.toBytes))

section Writes

variable {goal : Location} {holds : FileSystem → Prop}

theorem Writes.tail {source : SourceFile}
    (writes : Writes here buildDir goal (source :: sources) holds) :
    Writes here buildDir goal sources holds where
  wrote := fun other among => writes.wrote other (List.mem_cons_of_mem _ among)
  kept := fun other among => writes.kept other (List.mem_cons_of_mem _ among)

/-- Nothing is touched but the files that are to be written. -/
theorem Writes.touches (writes : Writes here buildDir goal sources holds) (known : holds files) :
    Touches (IsAmong sources goal) [] files
      ((sources.forM fun source => FileAction.change
        (·.write here (FilePath.join buildDir source.path) source.contents.toBytes)).run.run
          files).2 := by
  induction sources generalizing files with
  | nil => exact Touches.refl _ _ files
  | cons source sources ih =>
    rw [List.forM_eq_forM, List.forM_cons]
    have here := List.mem_cons_self (a := source) (l := sources)
    refine related_bind (Touches _ _) Touches.trans ?_ fun _ middle written => ?_
    · rw [FileAction.run_change]
      cases written : files.write _ _ _ with
      | error fault => exact Touches.refl _ _ files
      | ok middle =>
        rw [writes.wrote source here files middle known written]
        exact touches_put ⟨source, here, rfl⟩ files _ _
    · have written := FileAction.change_eq_ok written
      rw [writes.wrote source here files middle known written]
      refine (ih writes.tail (writes.kept source here files known)).mono ?_ (List.Subset.refl _)
      rintro place ⟨other, among, rfl⟩
      exact ⟨other, List.mem_cons_of_mem _ among, rfl⟩

/-- **Each file is written**, and stays as it was written. -/
theorem Writes.stored (writes : Writes here buildDir goal sources holds) (known : holds files)
    (distinct : (sources.map SourceFile.path).Nodup)
    (ended : (sources.forM fun source => FileAction.change
      (·.write here (FilePath.join buildDir source.path) source.contents.toBytes)).run.run files
        = (.ok (), after)) :
    ∀ source ∈ sources,
      after.node? (source.path :: goal) = some (.file source.contents.toBytes)
        ∧ ∃ middle written, holds middle
          ∧ middle.write here (FilePath.join buildDir source.path) source.contents.toBytes
            = .ok written
          ∧ Touches (IsAmong sources goal) [] middle after := by
  induction sources generalizing files with
  | nil => simp
  | cons source sources ih =>
    have whole := writes.touches known
    rw [ended] at whole
    rw [List.forM_eq_forM, List.forM_cons] at ended
    obtain ⟨_, middle, written, ended⟩ := run_bind_eq_ok ended
    have written := FileAction.change_eq_ok written
    have here := List.mem_cons_self (a := source) (l := sources)
    obtain rfl := writes.wrote source here files middle known written
    have still := writes.kept source here files known
    have touched := writes.tail.touches still
    rw [List.forM_eq_forM, ended] at touched
    obtain ⟨fresh, distinct⟩ := List.nodup_cons.1 distinct
    intro other among
    rcases List.mem_cons.1 among with rfl | among
    · refine ⟨?_, files, _, known, written, whole⟩
      rw [(touched _ ?_).2 (by simp), node?_put_eq, if_pos (by simp)]
      rintro ⟨again, later, same⟩
      exact fresh (List.mem_map.2 ⟨again, later, (List.cons.inj same).1.symm⟩)
    · obtain ⟨there, middle, written, holds, wrote, touched⟩ :=
        ih writes.tail still distinct ended other among
      refine ⟨there, middle, written, holds, wrote, touched.mono ?_ (List.Subset.refl _)⟩
      rintro place ⟨other, among, rfl⟩
      exact ⟨other, List.mem_cons_of_mem _ among, rfl⟩

end Writes

/-- A file is put where nothing is on the way to the directory. -/
theorem node?_put_of_own (own : ∀ place ∈ build.places, ¬ Inside build.goal place)
    {source : SourceFile} {node : Node} {place : Location} (among : place ∈ build.places) :
    (files.put (source.path :: build.goal) node).node? place = files.node? place := by
  rw [node?_put_eq, if_neg]
  rintro ⟨rfl, -⟩
  exact own _ among ⟨List.suffix_cons _ _, by simp⟩

/-- Files are written along a way to their directory, where no link has their names. -/
theorem writes_of_way (plain : ∀ source ∈ sources, FilePath.IsPlain source.path)
    (given : buildDir ≠ "") (own : ∀ place ∈ build.places, ¬ Inside build.goal place) :
    Writes here buildDir build.goal sources fun files =>
      files.Way false (start here buildDir) (FilePath.names buildDir) build
        ∧ ∀ source ∈ sources, ∀ target,
          files.node? (source.path :: build.goal) ≠ some (.link target) where
  wrote := by
    rintro source among files after ⟨way, free⟩ written
    rw [← start_join here given (plain source among)] at way
    have calls := calls_join given (plain source among)
    exact (write_eq_ok calls written way (free source among)).2.2.2.2.2
  kept := by
    rintro source among files ⟨way, free⟩
    refine ⟨way.grow fun place found => Or.inl (node?_put_of_own own found), ?_⟩
    intro other found target
    rw [node?_put_eq]
    split
    · simp
    · exact free other found target

/-- **The generated files are written into the build directory**, whose other contents stay. -/
theorem writeSources_ok
    (ended : (sources.forM fun source => FileAction.change
      (·.write here (FilePath.join buildDir source.path) source.contents.toBytes)).run.run files
        = (.ok (), after))
    (plain : ∀ source ∈ sources, FilePath.IsPlain source.path)
    (distinct : (sources.map SourceFile.path).Nodup) (given : buildDir ≠ "")
    (way : files.Way false (start here buildDir) (FilePath.names buildDir) build)
    (own : ∀ place ∈ build.places, ¬ Inside build.goal place)
    (free : ∀ source ∈ sources, ∀ target,
      files.node? (source.path :: build.goal) ≠ some (.link target)) :
    (∀ place, (∀ source ∈ sources, place ≠ source.path :: build.goal) →
        after.node? place = files.node? place)
      ∧ ∀ source ∈ sources, IsUsable (FilePath.join buildDir source.path)
        ∧ IsLookedUp source.path
        ∧ after.node? (source.path :: build.goal) = some (.file source.contents.toBytes)
        ∧ after.Way true (start here buildDir) (FilePath.names buildDir) build
        ∧ build.links ≤ linkLimit := by
  have writes : Writes here buildDir build.goal sources _ := writes_of_way plain given own
  have touched := writes.touches ⟨way, free⟩
  rw [ended] at touched
  constructor
  · intro place apart
    refine (touched place ?_).2 (by simp)
    rintro ⟨source, among, same⟩
    exact apart source among same
  · intro source among
    obtain ⟨there, middle, written, ⟨way, free⟩, wrote, kept⟩ :=
      writes.stored ⟨way, free⟩ distinct ended source among
    have same := start_join here given (plain source among)
    rw [← same] at way
    obtain ⟨usable, looked, solid, enough, -, -⟩ :=
      write_eq_ok (calls_join given (plain source among)) wrote way (free source among)
    rw [same] at solid
    refine ⟨usable, looked, there, solid.grow fun place found => (kept place ?_).1, enough⟩
    rintro ⟨other, -, rfl⟩
    exact own _ found ⟨List.suffix_cons _ _, by simp⟩

/-- **The build directory holds the generated files in the end.** -/
theorem writeAll_ok
    (ended : (SourceFile.writeAll here buildDir sources).run.run files = (.ok (), after))
    (plain : ∀ source ∈ sources, FilePath.IsPlain source.path)
    (distinct : (sources.map SourceFile.path).Nodup) (several : sources ≠ [])
    (given : buildDir ≠ "")
    (way : files.Way false (start here buildDir) (FilePath.steps buildDir) build)
    (own : ∀ place ∈ build.places, ¬ Inside build.goal place)
    (inherited : ∀ place, Inside build.goal place → files.node? place = left place)
    (free : ∀ source ∈ sources, ∀ target,
      left (source.path :: build.goal) ≠ some (.link target)) :
    Holds after here buildDir build sources left
      ∧ (∀ source ∈ sources, IsUsable (FilePath.join buildDir source.path))
      ∧ ∀ place, ¬ Inside build.goal place → Grown files after place := by
  obtain ⟨_, middle, created, ended⟩ := run_bind_eq_ok ended
  have there := FileAction.node?_of_createDirectories given created way
  have added := FileAction.createDirectories_adds (Or.inr ⟨rfl, rfl⟩) way
  rw [created] at added
  have still := way.grow fun place _ => (added place).1
  have unchanged (place : Location) (inside : Inside build.goal place) :
      middle.node? place = left place := by
    rw [(added place).2 fun among => own place among inside]
    exact inherited place inside
  have inside (source : SourceFile) : Inside build.goal (source.path :: build.goal) :=
    ⟨List.suffix_cons _ _, by simp⟩
  obtain ⟨kept, stored⟩ := writeSources_ok ended plain distinct given
    (still.congr_points (by simp [Way.pointless, FilePath.steps])) own fun source found target => by
      rw [unchanged _ (inside source)]
      exact free source found target
  have outside (place : Location) (out : ¬ Inside build.goal place) :
      after.node? place = middle.node? place := by
    refine kept place fun source _ => ?_
    rintro rfl
    exact out (inside source)
  obtain ⟨first, among⟩ := List.exists_mem_of_ne_nil sources several
  obtain ⟨-, -, -, solid, -⟩ := stored first among
  refine ⟨⟨solid, ?_, ?_, ?_⟩, ?_, ?_⟩
  · rw [outside _ fun inside => inside.2 rfl, there]
  · intro source found
    obtain ⟨-, looked, file, -, -⟩ := stored source found
    exact ⟨looked, file⟩
  · intro place inside apart
    rw [kept place apart, unchanged place inside]
  · intro source found
    exact (stored source found).1
  · intro place out
    exact (added place).1.trans (Or.inl (outside place out))

/-! ## Aliases -/

/-- What is in the place of an alias is taken away, and nothing else. -/
theorem removeAlias_spares {outer : Location} {holds : FileSystem → Prop}
    (named : FileAction.Names here path outer holds) (known : holds files)
    (found : ∀ place node, files.find false here path = .ok (place, node) → place = outer) :
    Spares outer files ((removeAlias here path).run.run files).2 := by
  rw [removeAlias, run_bind, FileAction.run_get]
  dsimp only
  split
  · exact Spares.refl _ files
  · exact Spares.refl _ files
  · exact FileAction.removeTree_spares named known found
  · exact FileAction.removeFile_spares found

/-- What is in the place of an alias is taken away, the directory that it is in is created, and the
alias is. -/
theorem steps_of_relink (ended : (relink here path target).run.run files = (.ok (), after)) :
    ∃ first second, (removeAlias here path).run.run files = (.ok (), first)
      ∧ (∀ parent, FilePath.parent? path = some parent →
        (FileAction.createDirectories here parent).run.run first = (.ok (), second))
      ∧ (FilePath.parent? path = none → second = first)
      ∧ second.createLink here target path = .ok after := by
  obtain ⟨_, first, removed, ended⟩ := run_bind_eq_ok ended
  dsimp only at ended
  have removed := run_eq_ok_of_blaming removed
  split at ended
  · next parent found =>
    obtain ⟨_, second, created, linked⟩ := run_bind_eq_ok ended
    refine ⟨first, second, removed, fun other same => ?_, fun none => ?_,
      FileAction.change_eq_ok (run_eq_ok_of_blaming linked)⟩
    · obtain rfl := Option.some.inj (found.symm.trans same)
      exact run_eq_ok_of_blaming created
    · cases found.symm.trans none
  · next none =>
    refine ⟨first, first, removed, fun other same => ?_, fun _ => rfl,
      FileAction.change_eq_ok (run_eq_ok_of_blaming ended)⟩
    cases none.symm.trans same

/-- **An alias is replaced**, and nothing else is taken away. -/
theorem relink_ok (ended : (relink here path target).run.run files = (.ok (), after))
    (located : spot.IsAt files here path) (own : ∀ place ∈ spot.way.places, ¬ spot.place <:+ place) :
    spot.StandsFor after here path target ∧ spot.Replaced files after := by
  obtain ⟨first, second, removed, created, -, linked⟩ := steps_of_relink ended
  obtain ⟨before, name, trail, usable, calls, looked, solid, enough, free, rfl⟩ :=
    createLink_eq_ok linked
  obtain ⟨way, named⟩ := located
  rw [calls.names_eq, List.dropLast_concat] at way
  obtain rfl : name = spot.name := by
    rw [← named, calls.names_eq, List.getLastD_concat]
  have spared := removeAlias_spares (FileAction.names_of_calls calls own) way
    fun place node there => (find_calls calls there way).1
  rw [removed] at spared
  have emptied : first.Way false (start here path) before spot.way :=
    way.grow fun place among => Or.inl (spared place (own place among))
  obtain ⟨parent, found, leads⟩ := FilePath.leads_parent calls.names_eq calls.ne_point
  have added := FileAction.createDirectories_adds leads
    (emptied.congr_points (by simp [Way.pointless]))
  rw [created parent found] at added
  obtain rfl : trail = spot.way := solid.eq (emptied.grow fun place _ => (added place).1)
  have put (place : Location) (apart : ¬ spot.place <:+ place) :
      (second.put spot.place (.link target)).node? place = second.node? place := by
    rw [node?_put_eq, if_neg]
    rintro ⟨rfl, -⟩
    exact apart List.suffix_rfl
  have beyond := solid.grow fun place among => Or.inl (put place (own place among))
  refine ⟨⟨usable, ⟨before, calls, beyond⟩, looked, FileAction.node?_put_goal free⟩,
    fun place apart => ?_⟩
  have same : Grown files second place := by
    have grown := (added place).1
    unfold Grown at grown ⊢
    rwa [spared place apart] at grown
  refine ⟨same.trans (Or.inl (put place apart)), fun beside => ?_⟩
  rw [← spared place apart, ← (added place).2 beside]
  exact put place apart

/-! ## What stays true -/

theorem Alias.StandsFor.grow (stands : spot.StandsFor files here path target)
    (grown : ∀ place ∈ spot.places, Grown files after place) :
    spot.StandsFor after here path target := by
  obtain ⟨usable, ⟨before, calls, way⟩, looked, link⟩ := stands
  have beyond := way.grow fun place among => grown place (List.mem_cons_of_mem _ among)
  refine ⟨usable, ⟨before, calls, beyond⟩, looked, ?_⟩
  rcases grown spot.place List.mem_cons_self with same | ⟨none, -⟩
  · exact same.trans link
  · simp [link] at none

theorem Alias.IsAt.grow (located : spot.IsAt files here path)
    (grown : ∀ place ∈ spot.way.places, Grown files after place) : spot.IsAt after here path :=
  ⟨located.way.grow grown, located.name_eq⟩

/-- Replacing an alias that is apart from a directory leaves what is in it. -/
theorem Holds.relinked (holds : Holds files here buildDir build sources left)
    (replaced : spot.Replaced files after)
    (outside : ∀ place ∈ spot.places, ¬ Inside build.goal place)
    (apart : ∀ place ∈ build.places, ¬ spot.place <:+ place) :
    Holds after here buildDir build sources left := by
  have same (place : Location) (inside : Inside build.goal place) :
      after.node? place = files.node? place := by
    refine (replaced place fun behind => ?_).2 fun among =>
      outside place (List.mem_cons_of_mem _ among) inside
    have itself := apart build.goal (Way.goal_mem build)
    rcases List.suffix_or_suffix_of_suffix behind inside.1 with above | below
    · exact itself above
    · exact outside spot.place List.mem_cons_self
        ⟨below, fun equal => itself (equal ▸ List.suffix_rfl)⟩
  refine ⟨holds.way.grow fun place among => (replaced place (apart place among)).1, ?_, ?_, ?_⟩
  · rcases (replaced build.goal (apart _ (Way.goal_mem build))).1 with same | ⟨none, -⟩
    · exact same.trans holds.there
    · simp [holds.there] at none
  · intro source found
    obtain ⟨looked, file⟩ := holds.stored source found
    exact ⟨looked, (same _ ⟨List.suffix_cons _ _, by simp⟩).trans file⟩
  · intro place inside others
    exact (same place inside).trans (holds.besides place inside others)

/-! ## All steps -/

/-- What is made absolute is a path from the root. -/
theorem isAbsolute_of_absolute (made : absolute here path = .ok buildDir) :
    FilePath.isAbsolute buildDir = true := by
  unfold absolute at made
  split at made
  · cases made
  · cases made
    generalize (if FilePath.isAbsolute path then [] else here.reverse)
      ++ (FilePath.names path).filter (· != ".") = names
    rw [FilePath.isAbsolute_iff]
    cases names with
    | nil => split <;> simp
    | cons name names => split <;> simp

theorem nonempty_of_isAbsolute (root : FilePath.isAbsolute path = true) : path ≠ "" := by
  rintro rfl
  simp [FilePath.isAbsolute_iff] at root

/-- Staging that is not refused does all of its steps. -/
theorem steps_of_stage {config : Config} (made : absolute here config.buildDir = .ok buildDir)
    (staged : (stage here config sources).run.run files = (.ok (), after)) :
    ∃ emptied written linked, (prepare here buildDir).run.run files = (.ok (), emptied)
      ∧ (SourceFile.writeAll here buildDir sources).run.run emptied = (.ok (), written)
      ∧ (relink here config.headerLinkPath (FilePath.join buildDir bankHeaderName)).run.run written
        = (.ok (), linked)
      ∧ (relink here config.dataLinkPath buildDir).run.run linked = (.ok (), after) := by
  unfold stage at staged
  rw [made] at staged
  obtain ⟨_, _, same, staged⟩ := run_bind_eq_ok staged
  cases same
  obtain ⟨_, emptied, prepared, staged⟩ := run_bind_eq_ok staged
  obtain ⟨_, written, wrote, staged⟩ := run_bind_eq_ok staged
  obtain ⟨_, linked, linkedHeader, linkedData⟩ := run_bind_eq_ok staged
  exact ⟨emptied, written, linked, run_eq_ok_of_blaming prepared, run_eq_ok_of_blaming wrote,
    linkedHeader, linkedData⟩

/-- **In the end the build directory holds the generated files, and the aliases stand for it.** -/
theorem stage_ok {config : Config} {header data : Alias}
    (made : absolute here config.buildDir = .ok buildDir)
    (buildWay : files.Way false [] (FilePath.steps buildDir) build)
    (headerAt : header.IsAt files here config.headerLinkPath)
    (dataAt : data.IsAt files here config.dataLinkPath)
    (apart : IsApart build header data)
    (free : ∀ source ∈ sources, ∀ target,
      leftIn files here buildDir (source.path :: build.goal) ≠ some (.link target))
    (plain : ∀ source ∈ sources, FilePath.IsPlain source.path)
    (distinct : (sources.map SourceFile.path).Nodup) (several : sources ≠ [])
    (staged : (stage here config sources).run.run files = (.ok (), after)) :
    Holds after here buildDir build sources (leftIn files here buildDir)
      ∧ (∀ source ∈ sources, IsUsable (FilePath.join buildDir source.path))
      ∧ header.StandsFor after here config.headerLinkPath (FilePath.join buildDir bankHeaderName)
      ∧ data.StandsFor after here config.dataLinkPath buildDir := by
  obtain ⟨outside, outsideHeader, outsideData, -, -⟩ := apart
  simp only [List.mem_append] at outside outsideHeader outsideData
  have absolute := isAbsolute_of_absolute made
  have given : buildDir ≠ "" := nonempty_of_isAbsolute absolute
  have root : start here buildDir = [] := by
    rw [start, if_pos absolute]
  rw [← root] at buildWay
  obtain ⟨emptied, written, linked, prepared, wrote, linkedHeader, linkedData⟩ :=
    steps_of_stage made staged
  -- the build directory
  have own (place : Location) (among : place ∈ build.places) : ¬ Inside build.goal place :=
    outside place (Or.inl (Or.inl among))
  have added := FileAction.createDirectories_adds (Or.inr ⟨rfl, rfl⟩) buildWay
  have found (place : Location) (there : files.find true here buildDir = .ok (place, .directory)) :
      place = build.goal := (find_directory there buildWay).1
  have touched := prepare_touches found added
  rw [prepared] at touched
  have growth (place : Location) (out : ¬ Inside build.goal place) : Grown files emptied place :=
    (touched place out).1
  have inherited (place : Location) (inside : Inside build.goal place) :
      emptied.node? place = leftIn files here buildDir place :=
    prepare_ok prepared found added own inside
  have buildWay := buildWay.grow fun place among => growth place (own place among)
  obtain ⟨holds, usable, growth'⟩ := writeAll_ok wrote plain distinct several
    given buildWay own inherited free
  have grown (place : Location) (out : ¬ Inside build.goal place) : Grown files written place :=
    (growth place out).trans (growth' place out)
  -- the alias of the header
  have headerAt := headerAt.grow fun place among =>
    grown place (outside place (Or.inl (Or.inr (List.mem_cons_of_mem _ among))))
  obtain ⟨standsHeader, replaced⟩ := relink_ok linkedHeader headerAt fun place among =>
    outsideHeader place (Or.inl (Or.inr among))
  have holds := holds.relinked replaced (fun place among => outside place (Or.inl (Or.inr among)))
    fun place among => outsideHeader place (Or.inl (Or.inl among))
  -- the alias of the directory
  have dataAt := dataAt.grow fun place among =>
    (grown place (outside place (Or.inr (List.mem_cons_of_mem _ among)))).trans
      (replaced place (outsideHeader place (Or.inr (List.mem_cons_of_mem _ among)))).1
  obtain ⟨standsData, replaced⟩ := relink_ok linkedData dataAt fun place among =>
    outsideData place (Or.inr among)
  refine ⟨?_, usable, ?_, standsData⟩
  · exact holds.relinked replaced (fun place among => outside place (Or.inr among))
      fun place among => outsideData place (Or.inl (Or.inl among))
  · exact standsHeader.grow fun place among =>
      (replaced place (outsideData place (Or.inl (Or.inr among)))).1

end Cartridge.Staging
