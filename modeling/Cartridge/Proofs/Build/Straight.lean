import Cartridge.Proofs.Build.Staging
import Cartridge.Proofs.FileSystem.Route

/-!
# Staging along paths without links

What each step of staging changes and what it leaves, where the paths lead through no links. The
frames hold of every run, also of one that is refused half-way.

* `prepare_touches_of_free`, `writeAll_touches`, `relink_touches`: **what each step can change**.
* `writeAll_stands`: the build directory has the generated files, and `HasSources` says what else.
* `relink_stands`: an alias has been put, and nothing is in it.
* `leftIn_of_direct`: nothing is left in a build directory whose path leads only down.
-/

namespace Cartridge.Staging

open FileSystem

variable {files after : FileSystem} {here : Location} {path buildDir target : String}
  {sources : List SourceFile} {left : Location → Option Node}

/-- What is around a location in another one is in that one, or it is that one. -/
theorem inside_of_suffix {outer middle place : Location} (inside : Inside outer middle)
    (around : middle <:+ place) : Inside outer place := by
  refine ⟨inside.1.trans around, ?_⟩
  rintro rfl
  exact inside.2 (around.eq_of_length_le inside.1.length_le)

/-- What is in one of two locations that are apart is not in the other one. -/
theorem not_suffix_of_suffix {first second place : Location} (apart : ¬ first <:+ second)
    (alsoApart : ¬ second <:+ first) (inside : first <:+ place) : ¬ second <:+ place := by
  intro alsoInside
  rcases List.suffix_or_suffix_of_suffix inside alsoInside with around | around
  · exact apart around
  · exact alsoApart around

/-- Nothing is stored in what is no directory. -/
theorem none_of_inside {outer : Location}
    (tree : ∀ name place, outer <:+ place → (files.node? (name :: place)).isSome = true →
      files.node? place = some .directory)
    (other : files.node? outer ≠ some .directory) :
    ∀ place, Inside outer place → files.node? place = none := by
  intro place inside
  induction place with
  | nil => exact absurd (List.suffix_nil.1 inside.1).symm inside.2
  | cons name place ih =>
    have around : outer <:+ place :=
      (List.suffix_cons_iff.1 inside.1).resolve_left fun same => inside.2 same.symm
    by_contra stored
    have there := tree name place around (Option.isSome_iff_ne_none.2 stored)
    by_cases itself : place = outer
    · exact other (itself ▸ there)
    · cases there.symm.trans (ih ⟨around, itself⟩)

/-- The generated files are in the build directory, and besides them what was left there. -/
structure HasSources (here : Location) (buildDir : String) (sources : List SourceFile)
    (left : Location → Option Node) (files : FileSystem) : Prop where
  stands : ∀ place ∈ route here buildDir, files.Stands place
  stored : ∀ source ∈ sources, files.node? (source.path :: Location.ofPath here buildDir)
    = some (.file source.contents.toBytes)
  besides : ∀ place, Inside (Location.ofPath here buildDir) place →
    ¬ IsAmong sources (Location.ofPath here buildDir) place → files.node? place = left place

/-- A path is an alias of another one, and nothing is in it. -/
structure HasAlias (here : Location) (path target : String) (files : FileSystem) : Prop where
  link : files.node? (Location.ofPath here path) = some (.link target)
  inside : ∀ place, Inside (Location.ofPath here path) place → files.node? place = none
  stands : ∀ place ∈ parents here path, files.Stands place

theorem inside_of_isAmong {goal place : Location} (among : IsAmong sources goal place) :
    Inside goal place := by
  obtain ⟨source, -, rfl⟩ := among
  exact ⟨List.suffix_cons _ _, by simp⟩

/-! ## The build directory -/

section Directory

/-- Preparing the build directory changes nothing but what is in it and the way there. -/
theorem prepare_touches_of_free (free : files.Free (route here buildDir)) :
    Touches (Inside (Location.ofPath here buildDir)) (route here buildDir) files
      ((prepare here buildDir).run.run files).2 := by
  refine prepare_touches (fun place found => ?_)
    (FileAction.createDirectories_adds_of_free (Or.inr ⟨rfl, rfl⟩) free)
  exact find_of_free found (free.mono (passed_subset_route _ _))
    fun _ => free _ (ofPath_mem_route _ _)

/-- Files are written where a path says, if none of them is a link. -/
theorem writes_of_free (given : buildDir ≠ "")
    (plain : ∀ source ∈ sources, FilePath.IsPlain source.path)
    (own : ∀ place ∈ route here buildDir, ¬ Inside (Location.ofPath here buildDir) place) :
    Writes here buildDir (Location.ofPath here buildDir) sources fun files =>
      files.Free (route here buildDir) ∧ ∀ source ∈ sources, ∀ target,
        files.node? (source.path :: Location.ofPath here buildDir) ≠ some (.link target) where
  wrote := by
    rintro source among files after ⟨free, unlinked⟩ written
    exact write_of_free given (plain source among) written free (unlinked source among)
  kept := by
    rintro source among files ⟨free, unlinked⟩
    constructor
    · refine free.grow fun place found => Or.inl ?_
      rw [node?_put_eq, if_neg]
      rintro ⟨rfl, -⟩
      exact own _ found ⟨List.suffix_cons _ _, by simp⟩
    · intro other found target
      rw [node?_put_eq]
      split
      · simp
      · exact unlinked other found target

/-- Writing the generated files changes nothing but what is in the build directory and the way
there. -/
theorem writeAll_touches (given : buildDir ≠ "")
    (plain : ∀ source ∈ sources, FilePath.IsPlain source.path)
    (own : ∀ place ∈ route here buildDir, ¬ Inside (Location.ofPath here buildDir) place)
    (free : files.Free (route here buildDir))
    (unlinked : ∀ source ∈ sources, ∀ target,
      files.node? (source.path :: Location.ofPath here buildDir) ≠ some (.link target)) :
    Touches (Inside (Location.ofPath here buildDir)) (route here buildDir) files
      ((SourceFile.writeAll here buildDir sources).run.run files).2 := by
  have added := FileAction.createDirectories_adds_of_free (Or.inr ⟨rfl, rfl⟩) free
  refine related_bind (Touches _ _) Touches.trans (added.touches _) fun _ middle created => ?_
  rw [created] at added
  have still := free.grow fun place _ => (added place).1
  have touched := (writes_of_free given plain own).touches ⟨still, fun source among target link => ?_⟩
  · exact touched.mono (fun _ => inside_of_isAmong) (List.nil_subset _)
  · rw [(added _).2 fun found => own _ found (inside_of_isAmong ⟨source, among, rfl⟩)] at link
    exact unlinked source among target link

/-- **The generated files are in the build directory in the end**, which stands, and what else is in
it stays. -/
theorem writeAll_stands (given : buildDir ≠ "")
    (plain : ∀ source ∈ sources, FilePath.IsPlain source.path)
    (distinct : (sources.map SourceFile.path).Nodup)
    (own : ∀ place ∈ route here buildDir, ¬ Inside (Location.ofPath here buildDir) place)
    (free : files.Free (route here buildDir))
    (unlinked : ∀ source ∈ sources, ∀ target,
      files.node? (source.path :: Location.ofPath here buildDir) ≠ some (.link target))
    (stands : files.Stands (start here buildDir))
    (ended : (SourceFile.writeAll here buildDir sources).run.run files = (.ok (), after)) :
    HasSources here buildDir sources files.node? after := by
  have added := FileAction.createDirectories_adds_of_free (Or.inr ⟨rfl, rfl⟩) free
  obtain ⟨_, middle, created, ended⟩ := run_bind_eq_ok ended
  rw [created] at added
  have standing := FileAction.stands_of_createDirectories given created free stands
  have still := free.grow fun place _ => (added place).1
  have unchanged (place : Location) (inside : Inside (Location.ofPath here buildDir) place) :
      middle.node? place = files.node? place := (added place).2 fun found => own _ found inside
  have writes := writes_of_free given plain own
  have known : middle.Free (route here buildDir) ∧ ∀ source ∈ sources, ∀ target,
      middle.node? (source.path :: Location.ofPath here buildDir) ≠ some (.link target) := by
    refine ⟨still, fun source found target => ?_⟩
    rw [unchanged _ (inside_of_isAmong ⟨source, found, rfl⟩)]
    exact unlinked source found target
  have touched := writes.touches known
  rw [ended] at touched
  refine ⟨fun place found => (standing place found).grow fun outer around => ?_,
    fun source found => (writes.stored known distinct ended source found).1,
    fun place inside other => ?_⟩
  · refine (touched outer fun inner => own place found ?_).1
    exact inside_of_suffix (inside_of_isAmong inner) around
  · exact ((touched place other).2 (by simp)).trans (unchanged place inside)

/-- **Nothing is left** in a build directory whose path leads only down. -/
theorem leftIn_of_direct (given : buildDir ≠ "") (direct : ".." ∉ FilePath.steps buildDir)
    (tree : files.IsTree) (free : files.Free (route here buildDir))
    (prepared : (prepare here buildDir).run.run files = (.ok (), after)) {place : Location}
    (inside : Inside (Location.ofPath here buildDir) place) :
    leftIn files here buildDir place = none := by
  unfold leftIn
  split
  · rfl
  next absent =>
    rw [prepare, run_bind, FileAction.run_get] at prepared
    dsimp only at prepared
    rw [if_neg absent] at prepared
    by_contra stored
    have there : files.node? (Location.ofPath here buildDir) = some .directory := by
      by_contra other
      exact stored (none_of_inside (fun name place _ => tree name place) other place inside)
    -- all on the way is there, so that it is the same after all has been created
    have standing := tree.stands there
    obtain ⟨middle, added, outcome⟩ := FileAction.cases_of_createDirectories given
      (fun _ => FileAction.keeps_createDirectory_of_free (Or.inr ⟨rfl, rfl⟩) given) prepared
    have added := added free
    have same (place : Location) : middle.node? place = files.node? place := by
      by_cases among : place ∈ route here buildDir
      · rcases (added place).1 with same | ⟨missing, -⟩
        · exact same
        · rw [(standing.outer (suffix_of_direct direct among)).there] at missing
          cases missing
      · exact (added place).2 among
    rcases outcome with created | ⟨-, place, found⟩
    · have still := free.grow fun place _ => (added place).1
      rw [← same, (createDirectory_of_free created still).1] at there
      cases there
    · rw [find_congr same] at found
      rw [isPresent, found] at absent
      exact absent rfl

/-- What is there of the generated files stays when something else is changed. -/
theorem HasSources.kept {goal : Location} {places : List Location}
    (has : HasSources here buildDir sources left files)
    (touched : Touches (goal <:+ ·) places files after)
    (route_out : ∀ place ∈ route here buildDir, ¬ goal <:+ place)
    (inside_out : ∀ place, Inside (Location.ofPath here buildDir) place →
      ¬ goal <:+ place ∧ place ∉ places) :
    HasSources here buildDir sources left after := by
  have same (place : Location) (inside : Inside (Location.ofPath here buildDir) place) :
      after.node? place = files.node? place :=
    (touched place (inside_out place inside).1).2 (inside_out place inside).2
  refine ⟨fun place among => ?_, fun source among => ?_, fun place inside other => ?_⟩
  · exact (has.stands place among).grow fun outer around =>
      (touched outer fun within => route_out place among (within.trans around)).1
  · exact (same _ (inside_of_isAmong ⟨source, among, rfl⟩)).trans (has.stored source among)
  · exact (same place inside).trans (has.besides place inside other)

end Directory

/-! ## The aliases -/

section Link

/-- Making a path an alias changes nothing but what is in its place, and the way there. -/
theorem relink_touches (free : files.Free (passed here path))
    (apart : ∀ place ∈ parents here path, ¬ Location.ofPath here path <:+ place) :
    Touches (Location.ofPath here path <:+ ·) (parents here path) files
      ((relink here path target).run.run files).2 := by
  have known := free.mono (parents_subset_passed here path)
  have spared := removeAlias_spares (FileAction.names_of_free apart) known
    fun place node found => find_of_free found free (by simp)
  unfold relink
  refine related_bind (Touches _ _) Touches.trans ?_ fun _ first removed => ?_
  · rw [run_blaming]
    exact spared.touches _
  rw [run_eq_ok_of_blaming removed] at spared
  have known := known.grow fun place among => Or.inl (spared place (apart place among))
  have linked (files : FileSystem) (free : files.Free (parents here path)) :
      Touches (Location.ofPath here path <:+ ·) (parents here path) files
        ((blaming path (FileAction.change (·.createLink here target path))).run.run files).2 := by
    rw [run_blaming, FileAction.run_change]
    cases created : files.createLink here target path with
    | error fault => exact Touches.refl _ _ files
    | ok after =>
      rw [(createLink_of_free created free).2.1]
      exact touches_put List.suffix_rfl files _ _
  split
  · next parent found =>
    have added := FileAction.createDirectories_adds_of_free (FilePath.leads_of_parent found) known
    refine related_bind (Touches _ _) Touches.trans ?_ fun _ second created => ?_
    · rw [run_blaming]
      exact added.touches _
    · rw [run_eq_ok_of_blaming created] at added
      exact linked second (known.grow fun place _ => (added place).1)
  · exact linked first known

/-- What was not there is not there when something else is erased. -/
theorem node?_erase_of_none {outer place : Location} (missing : files.node? place = none) :
    (files.erase outer).node? place = none := by
  have below : place ≠ [] := by
    rintro rfl
    cases missing
  rw [node?_erase files outer place below]
  split
  · rfl
  · exact missing

/-- In a directory that has been taken away nothing is left. -/
theorem removeTree_inside {outer : Location} {holds : FileSystem → Prop}
    (named : FileAction.Names here path outer holds) (known : holds files)
    (there : files.find false here path = .ok (outer, .directory))
    (ended : (FileAction.removeTree here path).run.run files = (.ok (), after)) {place : Location}
    (inside : Inside outer place) : after.node? place = none := by
  have gone := node?_clear_of_inside files inside
  rw [FileAction.removeTree, run_bind, FileAction.run_query, there] at ended
  dsimp only at ended
  rw [run_bind, FileAction.run_change] at ended
  dsimp only at ended
  rw [FileAction.ifPresent, run_tryCatch, FileAction.run_change] at ended
  cases removed : (files.clear outer).removeDirectory here path with
  | ok cleared =>
    rw [removed] at ended
    cases ended
    have still := named.kept _ _ known (spares_clear files outer)
    rw [named.removed _ _ still removed]
    exact node?_erase_of_none gone
  | error fault =>
    rw [removed] at ended
    dsimp only at ended
    split at ended
    · cases ended
      exact gone
    · cases ended

/-- Nothing is in what is no directory, before it is taken away and then. -/
theorem removeFile_inside {outer : Location} {node : Node}
    (tree : ∀ name place, outer <:+ place → (files.node? (name :: place)).isSome = true →
      files.node? place = some .directory)
    (there : files.find false here path = .ok (outer, node)) (other : node ≠ .directory)
    (removed : files.removeFile here path = .ok after) {place : Location}
    (inside : Inside outer place) : after.node? place = none := by
  have missing : files.node? place = none := by
    refine none_of_inside tree ?_ place inside
    rw [(find_eq_ok there).2]
    exact fun directory => other (Option.some.inj directory)
  rw [removeFile, there] at removed
  cases node with
  | directory => cases removed
  | file contents =>
    cases removed
    exact node?_erase_of_none missing
  | link target =>
    cases removed
    exact node?_erase_of_none missing

/-- Where an alias has been taken away, there is nothing in it any more, unless it was not found. -/
theorem removeAlias_inside {outer : Location} {holds : FileSystem → Prop}
    (named : FileAction.Names here path outer holds) (known : holds files)
    (found : ∀ place node, files.find false here path = .ok (place, node) → place = outer)
    (tree : ∀ name place, outer <:+ place → (files.node? (name :: place)).isSome = true →
      files.node? place = some .directory)
    (ended : (removeAlias here path).run.run files = (.ok (), after)) :
    after = files ∨ ∀ place, Inside outer place → after.node? place = none := by
  rw [removeAlias, run_bind, FileAction.run_get] at ended
  dsimp only at ended
  split at ended
  · cases ended
    exact Or.inl rfl
  · cases ended
  · next place there =>
    obtain rfl := found place _ there
    exact Or.inr fun _ => removeTree_inside named known there ended
  · next entry other there =>
    obtain ⟨place, node⟩ := entry
    obtain rfl := found place node there
    refine Or.inr fun _ => removeFile_inside tree there ?_ (FileAction.change_eq_ok ended)
    rintro rfl
    exact other place rfl

/-- **An alias stands for another path in the end**: what it is in stands, and nothing is in it. -/
theorem relink_stands (ended : (relink here path target).run.run files = (.ok (), after))
    (free : files.Free (passed here path))
    (apart : ∀ place ∈ parents here path, ¬ Location.ofPath here path <:+ place)
    (tree : ∀ name place, Location.ofPath here path <:+ place →
      (files.node? (name :: place)).isSome = true → files.node? place = some .directory)
    (stands : files.Stands (start here path)) : HasAlias here path target after := by
  have known := free.mono (parents_subset_passed here path)
  have named := FileAction.names_of_free apart
  have found (place : Location) (node : Node)
      (there : files.find false here path = .ok (place, node)) :
      place = Location.ofPath here path := find_of_free there free (by simp)
  obtain ⟨first, second, removed, created, unneeded, linked⟩ := steps_of_relink ended
  have spared := removeAlias_spares named known found
  have emptied := removeAlias_inside named known found tree removed
  rw [removed] at spared
  have known := known.grow fun place among => Or.inl (spared place (apart place among))
  have added : Adds (parents here path) first second := by
    cases isParent : FilePath.parent? path with
    | none =>
      rw [unneeded isParent]
      exact Adds.refl _ _
    | some parent =>
      have added :=
        FileAction.createDirectories_adds_of_free (FilePath.leads_of_parent isParent) known
      rwa [created parent isParent] at added
  have first_mem : start here path ∈ parents here path := Location.first_mem_route _ _
  have standing : second.Stands (start here path) := by
    refine stands.grow fun outer around => ?_
    have out : ¬ Location.ofPath here path <:+ outer := fun inside =>
      apart _ first_mem (inside.trans around)
    have grown := (added outer).1
    unfold Grown at grown ⊢
    rwa [spared outer out] at grown
  obtain ⟨missing, rfl, all⟩ := createLink_of_free linked
    (known.grow fun place _ => (added place).1)
  refine ⟨FileAction.node?_put_goal missing, ?_,
    fun place among => (all standing place among).put missing⟩
  intro place inside
  rw [node?_put_eq, if_neg fun same => inside.2 same.1.symm,
    (added place).2 fun among => apart place among inside.1]
  rcases emptied with rfl | none
  · refine none_of_inside tree (fun directory => ?_) place inside
    rcases (added (Location.ofPath here path)).1 with same | ⟨absent, -⟩
    · cases missing.symm.trans (same.trans directory)
    · cases absent.symm.trans directory
  · exact none place inside

/-- **An alias is put after something else has been changed**, neither on its way nor in its
place. -/
theorem relink_stands_of_touches {middle : FileSystem} {within : Location → Prop}
    {places : List Location} (ended : (relink here path target).run.run middle = (.ok (), after))
    (begun : Touches within places files middle)
    (spreads : ∀ outer place, outer <:+ place → within outer → within place)
    (route_out : ∀ place ∈ route here path, ¬ within place)
    (inside_out : ∀ place, Location.ofPath here path <:+ place → ¬ within place ∧ place ∉ places)
    (free : files.Free (passed here path))
    (apart : ∀ place ∈ parents here path, ¬ Location.ofPath here path <:+ place)
    (tree : files.IsTree) (stands : files.Stands (start here path)) :
    HasAlias here path target after := by
  have same (place : Location) (inside : Location.ofPath here path <:+ place) :
      middle.node? place = files.node? place :=
    (begun place (inside_out place inside).1).2 (inside_out place inside).2
  have still := free.grow fun place among =>
    (begun place (route_out place (passed_subset_route _ _ among))).1
  have standing := stands.grow fun outer around => (begun outer fun inside =>
    route_out _ (Location.first_mem_route _ _) (spreads outer _ around inside)).1
  refine relink_stands ended still apart (fun name place inside => ?_) standing
  rw [same _ inside, same _ (inside.trans (List.suffix_cons _ _))]
  exact tree name place

/-- An alias stays as it is when something else is changed. -/
theorem HasAlias.kept {goal : Location} {places : List Location}
    (has : HasAlias here path target files) (touched : Touches (goal <:+ ·) places files after)
    (route_out : ∀ place ∈ parents here path, ¬ goal <:+ place)
    (inside_out : ∀ place, Location.ofPath here path <:+ place →
      ¬ goal <:+ place ∧ place ∉ places) :
    HasAlias here path target after := by
  have same (place : Location) (inside : Location.ofPath here path <:+ place) :
      after.node? place = files.node? place :=
    (touched place (inside_out place inside).1).2 (inside_out place inside).2
  refine ⟨(same _ List.suffix_rfl).trans has.link, fun place inside => ?_, fun place among => ?_⟩
  · exact (same place inside.1).trans (has.inside place inside)
  · exact (has.stands place among).grow fun outer around =>
      (touched outer fun within => route_out place among (within.trans around)).1

end Link

end Cartridge.Staging
