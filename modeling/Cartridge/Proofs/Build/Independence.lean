import Cartridge.Proofs.Build.Straight
import Cartridge.Proofs.Build.Visibility

/-!
# Staging again and again

Whatever has been left where staging puts its files and aliases, the same is there in the end, and
nothing else has changed. `Staging.IsIndependent` says so of all file systems in which the three
paths lead where they say.

* `stage_touches`: **nothing else is touched by staging**, whether it is refused or not.
* `stage_stands`: in the end there are the generated files and the two aliases.
* `stage_isIndependent`: **what was left does not matter**, but for a build directory whose path leads
  through something missing: what was left in that one stays.
* `areApart_of_direct`: places whose paths lead only down are apart if none is in another one.
-/

namespace Cartridge.Staging

open FileSystem

variable {files after : FileSystem} {here : Location} {buildDir header data : String}
  {sources : List SourceFile} {left : Location → Option Node}

/-! ## Places -/

/-- **The three places are apart**: no path leads through what is taken away for another one. -/
structure AreApart (here : Location) (buildDir header data : String) : Prop where
  /-- Emptying the build directory takes away nothing on its way, nor on those to the aliases; -/
  build_own : ∀ place ∈ route here buildDir, ¬ Inside (Location.ofPath here buildDir) place
  build_header : ∀ place ∈ route here header, ¬ Inside (Location.ofPath here buildDir) place
  build_data : ∀ place ∈ route here data, ¬ Inside (Location.ofPath here buildDir) place
  /-- nor does replacing the alias of the header, -/
  header_build : ∀ place ∈ route here buildDir, ¬ Location.ofPath here header <:+ place
  header_own : ∀ place ∈ parents here header, ¬ Location.ofPath here header <:+ place
  header_data : ∀ place ∈ route here data, ¬ Location.ofPath here header <:+ place
  /-- nor the alias of the directory. -/
  data_build : ∀ place ∈ route here buildDir, ¬ Location.ofPath here data <:+ place
  data_header : ∀ place ∈ route here header, ¬ Location.ofPath here data <:+ place
  data_own : ∀ place ∈ parents here data, ¬ Location.ofPath here data <:+ place

/-- **Places whose paths lead only down are apart** if none is in another one. -/
theorem areApart_of_direct (direct : ∀ path ∈ [buildDir, header, data], ".." ∉ FilePath.steps path)
    (named : FilePath.steps header ≠ [] ∧ FilePath.steps data ≠ [])
    (apart : ([buildDir, header, data].map (Location.ofPath here)).Pairwise fun first second =>
      ¬ first <:+ second ∧ ¬ second <:+ first) :
    AreApart here buildDir header data := by
  simp only [List.forall_mem_cons, List.not_mem_nil, false_implies, implies_true,
    and_true] at direct
  obtain ⟨downBuild, downHeader, downData⟩ := direct
  simp only [List.map_cons, List.map_nil, List.pairwise_cons, List.forall_mem_cons,
    List.not_mem_nil, false_implies, implies_true, and_true, List.Pairwise.nil] at apart
  obtain ⟨⟨⟨buildHeader, headerBuild⟩, buildData, dataBuild⟩, headerData, dataHeader⟩ := apart
  constructor
  · intro place among inside
    exact inside.2 ((suffix_of_direct downBuild among).eq_of_length_le inside.1.length_le)
  · exact fun place among inside => buildHeader (inside.1.trans (suffix_of_direct downHeader among))
  · exact fun place among inside => buildData (inside.1.trans (suffix_of_direct downData among))
  · exact fun place among inside => headerBuild (inside.trans (suffix_of_direct downBuild among))
  · exact fun place => not_suffix_of_direct downHeader named.1
  · exact fun place among inside => headerData (inside.trans (suffix_of_direct downData among))
  · exact fun place among inside => dataBuild (inside.trans (suffix_of_direct downBuild among))
  · exact fun place among inside => dataHeader (inside.trans (suffix_of_direct downHeader among))
  · exact fun place => not_suffix_of_direct downData named.2

/-- **A file system in which the three paths lead where they say.** -/
structure IsStraight (here : Location) (buildDir header data : String) (sources : List SourceFile)
    (files : FileSystem) : Prop where
  tree : files.IsTree
  there : files.node? here = some .directory
  /-- No link is on the way to the build directory, nor is that one, -/
  build_free : files.Free (route here buildDir)
  /-- nor is a link on the ways to the aliases, which may be links themselves; but an alias whose path
  ends with a separator is on its way. -/
  header_free : files.Free (passed here header)
  data_free : files.Free (passed here data)
  /-- No link with the name of a generated file is left in the build directory. -/
  unlinked : ".." ∈ FilePath.steps buildDir → ∀ source ∈ sources, ∀ target,
    leftIn files here buildDir (source.path :: Location.ofPath here buildDir) ≠ some (.link target)

/-- **A file system in which everything has been staged.** -/
structure IsStaged (here : Location) (buildDir header data : String) (sources : List SourceFile)
    (left : Location → Option Node) (files : FileSystem) : Prop where
  sources : HasSources here buildDir sources left files
  header : HasAlias here header (FilePath.join buildDir bankHeaderName) files
  data : HasAlias here data buildDir files

/-- What is taken away or replaced: what is in the build directory, and the aliases with what is in
them. -/
def IsWithin (here : Location) (buildDir header data : String) (place : Location) : Prop :=
  Inside (Location.ofPath here buildDir) place ∨ Location.ofPath here header <:+ place
    ∨ Location.ofPath here data <:+ place

namespace AreApart

variable {place : Location} (apart : AreApart here buildDir header data)
include apart

theorem not_build_header : ¬ Location.ofPath here buildDir <:+ Location.ofPath here header := by
  intro around
  refine apart.build_header _ (ofPath_mem_route _ _) ⟨around, fun same => ?_⟩
  exact apart.header_build _ (ofPath_mem_route _ _) (same ▸ List.suffix_rfl)

theorem not_build_data : ¬ Location.ofPath here buildDir <:+ Location.ofPath here data := by
  intro around
  refine apart.build_data _ (ofPath_mem_route _ _) ⟨around, fun same => ?_⟩
  exact apart.data_build _ (ofPath_mem_route _ _) (same ▸ List.suffix_rfl)

/-- What is in the build directory is in no alias, -/
theorem outside_of_build (inside : Location.ofPath here buildDir <:+ place) :
    ¬ Location.ofPath here header <:+ place ∧ ¬ Location.ofPath here data <:+ place :=
  ⟨not_suffix_of_suffix apart.not_build_header (apart.header_build _ (ofPath_mem_route _ _)) inside,
    not_suffix_of_suffix apart.not_build_data (apart.data_build _ (ofPath_mem_route _ _)) inside⟩

/-- what is in the alias of the header is neither in the build directory nor in the other alias, -/
theorem outside_of_header (inside : Location.ofPath here header <:+ place) :
    ¬ Location.ofPath here buildDir <:+ place ∧ ¬ Location.ofPath here data <:+ place :=
  ⟨not_suffix_of_suffix (apart.header_build _ (ofPath_mem_route _ _)) apart.not_build_header inside,
    not_suffix_of_suffix (apart.header_data _ (ofPath_mem_route _ _))
      (apart.data_header _ (ofPath_mem_route _ _)) inside⟩

/-- and so with the alias of the directory. -/
theorem outside_of_data (inside : Location.ofPath here data <:+ place) :
    ¬ Location.ofPath here buildDir <:+ place ∧ ¬ Location.ofPath here header <:+ place :=
  ⟨not_suffix_of_suffix (apart.data_build _ (ofPath_mem_route _ _)) apart.not_build_data inside,
    not_suffix_of_suffix (apart.data_header _ (ofPath_mem_route _ _))
      (apart.header_data _ (ofPath_mem_route _ _)) inside⟩

end AreApart

/-! ### Every run -/

/-- What there is when the build directory has been prepared. -/
structure IsPrepared (here : Location) (buildDir header data : String) (sources : List SourceFile)
    (files after : FileSystem) : Prop where
  touches : Touches (Inside (Location.ofPath here buildDir)) (route here buildDir) files after
  inherited : ∀ place, Inside (Location.ofPath here buildDir) place →
    after.node? place = leftIn files here buildDir place
  build_free : after.Free (route here buildDir)
  header_free : after.Free (passed here header)
  data_free : after.Free (passed here data)
  unlinked : ∀ source ∈ sources, ∀ target,
    after.node? (source.path :: Location.ofPath here buildDir) ≠ some (.link target)

theorem IsStraight.prepared (straight : IsStraight here buildDir header data sources files)
    (apart : AreApart here buildDir header data) (given : buildDir ≠ "")
    (prepared : (prepare here buildDir).run.run files = (.ok (), after)) :
    IsPrepared here buildDir header data sources files after := by
  have touched := prepare_touches_of_free straight.build_free
  rw [prepared] at touched
  have inherited (place : Location) (inside : Inside (Location.ofPath here buildDir) place) :
      after.node? place = leftIn files here buildDir place := by
    refine prepare_ok prepared (fun place there => ?_)
      (FileAction.createDirectories_adds_of_free (Or.inr ⟨rfl, rfl⟩) straight.build_free)
      apart.build_own inside
    exact find_of_free there (straight.build_free.mono (passed_subset_route _ _))
      fun _ => straight.build_free _ (ofPath_mem_route _ _)
  refine ⟨touched, inherited, ?_, ?_, ?_, ?_⟩
  · exact straight.build_free.grow fun place among => (touched place (apart.build_own place among)).1
  · exact straight.header_free.grow fun place among =>
      (touched place (apart.build_header place (passed_subset_route _ _ among))).1
  · exact straight.data_free.grow fun place among =>
      (touched place (apart.build_data place (passed_subset_route _ _ among))).1
  · intro source among target
    have inside : Inside (Location.ofPath here buildDir)
        (source.path :: Location.ofPath here buildDir) := inside_of_isAmong ⟨source, among, rfl⟩
    rw [inherited _ inside]
    by_cases up : ".." ∈ FilePath.steps buildDir
    · exact straight.unlinked up source among target
    · rw [leftIn_of_direct given up straight.tree straight.build_free prepared inside]
      simp

/-- **Nothing else is touched by staging**, whether it is refused or not. -/
theorem stage_touches {config : Config} (made : absolute here config.buildDir = .ok buildDir)
    (apart : AreApart here buildDir config.headerLinkPath config.dataLinkPath)
    (plain : ∀ source ∈ sources, FilePath.IsPlain source.path)
    (straight :
      IsStraight here buildDir config.headerLinkPath config.dataLinkPath sources files) :
    Touches (IsWithin here buildDir config.headerLinkPath config.dataLinkPath)
      (route here buildDir ++ parents here config.headerLinkPath ++ parents here config.dataLinkPath)
      files ((stage here config sources).run.run files).2 := by
  have given : buildDir ≠ "" := nonempty_of_isAbsolute (isAbsolute_of_absolute made)
  rw [stage, made]
  dsimp only
  rw [pure_bind]
  refine related_bind (Touches _ _) Touches.trans ?_ fun _ emptied done => ?_
  · rw [run_blaming]
    exact (prepare_touches_of_free straight.build_free).mono (fun _ => Or.inl) (by simp)
  have prepared := straight.prepared apart given (run_eq_ok_of_blaming done)
  have wrote := writeAll_touches given plain apart.build_own prepared.build_free prepared.unlinked
  refine related_bind (Touches _ _) Touches.trans ?_ fun _ written done => ?_
  · rw [run_blaming]
    exact wrote.mono (fun _ => Or.inl) (by simp)
  rw [run_eq_ok_of_blaming done] at wrote
  have header_free := prepared.header_free.grow fun place among =>
    (wrote place (apart.build_header place (passed_subset_route _ _ among))).1
  have data_free := prepared.data_free.grow fun place among =>
    (wrote place (apart.build_data place (passed_subset_route _ _ among))).1
  have relinked : Touches _ _ written ((relink here config.headerLinkPath
      (FilePath.join buildDir bankHeaderName)).run.run written).2 :=
    relink_touches header_free apart.header_own
  refine related_bind (Touches _ _) Touches.trans ?_ fun _ linked done => ?_
  · exact relinked.mono (fun _ within => Or.inr (Or.inl within)) (by simp)
  rw [done] at relinked
  have data_free := data_free.grow fun place among =>
    (relinked place (apart.header_data place (passed_subset_route _ _ among))).1
  exact (relink_touches data_free apart.data_own).mono (fun _ within => Or.inr (Or.inr within))
    (by simp)

/-! ### Runs to the end -/

/-- Where a path starts from stands. -/
theorem IsStraight.start_stands (straight : IsStraight here buildDir header data sources files)
    (path : String) : files.Stands (start here path) := by
  unfold start
  split
  · exact stands_nil files
  · exact straight.tree.stands straight.there

/-- What there is when the generated files have been written. -/
structure IsWritten (here : Location) (buildDir : String) (sources : List SourceFile)
    (files after : FileSystem) : Prop where
  touches : Touches (Inside (Location.ofPath here buildDir)) (route here buildDir) files after
  sources : HasSources here buildDir sources (leftIn files here buildDir) after

/-- What there is when the alias of the header has been put as well. -/
structure IsLinked (here : Location) (buildDir header : String) (sources : List SourceFile)
    (files after : FileSystem) : Prop where
  touches : Touches
    (fun place => Inside (Location.ofPath here buildDir) place
      ∨ Location.ofPath here header <:+ place)
    (route here buildDir ++ parents here header) files after
  sources : HasSources here buildDir sources (leftIn files here buildDir) after
  header : HasAlias here header (FilePath.join buildDir bankHeaderName) after

/-- The generated files are written into the directory that has been prepared. -/
theorem IsStraight.written {emptied : FileSystem}
    (straight : IsStraight here buildDir header data sources files)
    (apart : AreApart here buildDir header data) (given : buildDir ≠ "")
    (plain : ∀ source ∈ sources, FilePath.IsPlain source.path)
    (distinct : (sources.map SourceFile.path).Nodup)
    (prepared : (prepare here buildDir).run.run files = (.ok (), emptied))
    (wrote : (SourceFile.writeAll here buildDir sources).run.run emptied = (.ok (), after)) :
    IsWritten here buildDir sources files after := by
  have prepared := straight.prepared apart given prepared
  have touched := writeAll_touches given plain apart.build_own prepared.build_free prepared.unlinked
  rw [wrote] at touched
  have standing := (straight.start_stands buildDir).grow fun outer around =>
    (prepared.touches outer fun inside =>
      apart.build_own _ (Location.first_mem_route _ _) (inside_of_suffix inside around)).1
  obtain ⟨stands, stored, besides⟩ := writeAll_stands given plain distinct apart.build_own
    prepared.build_free prepared.unlinked standing wrote
  exact ⟨prepared.touches.trans touched, stands, stored, fun place inside other =>
    (besides place inside other).trans (prepared.inherited place inside)⟩

/-- The alias of the header is put, and the generated files stay. -/
theorem IsWritten.linked {middle : FileSystem} (written : IsWritten here buildDir sources files middle)
    (straight : IsStraight here buildDir header data sources files)
    (apart : AreApart here buildDir header data)
    (ended : (relink here header (FilePath.join buildDir bankHeaderName)).run.run middle
      = (.ok (), after)) :
    IsLinked here buildDir header sources files after := by
  have free := straight.header_free.grow fun place among =>
    (written.touches place (apart.build_header place (passed_subset_route _ _ among))).1
  have relinked : Touches _ _ middle
      ((relink here header (FilePath.join buildDir bankHeaderName)).run.run middle).2 :=
    relink_touches free apart.header_own
  rw [ended] at relinked
  refine ⟨(written.touches.mono (fun _ => Or.inl) (by simp)).trans
    (relinked.mono (fun _ => Or.inr) (by simp)), ?_, ?_⟩
  · refine written.sources.kept relinked apart.header_build fun place inside => ?_
    exact ⟨(apart.outside_of_build inside.1).1, fun among =>
      apart.build_header place (parents_subset_route _ _ among) inside⟩
  · refine relink_stands_of_touches ended written.touches ?_ apart.build_header ?_
      straight.header_free apart.header_own straight.tree (straight.start_stands _)
    · exact fun _ _ around inside => inside_of_suffix inside around
    · exact fun place inside => ⟨fun within => (apart.outside_of_header inside).1 within.1,
        fun among => apart.header_build place among inside⟩

/-- The alias of the directory is put, and all else stays. -/
theorem IsLinked.staged {middle : FileSystem}
    (linked : IsLinked here buildDir header sources files middle)
    (straight : IsStraight here buildDir header data sources files)
    (apart : AreApart here buildDir header data)
    (ended : (relink here data buildDir).run.run middle = (.ok (), after)) :
    IsStaged here buildDir header data sources (leftIn files here buildDir) after := by
  have out (place : Location) (among : place ∈ route here data) :=
    not_or.2 ⟨apart.build_data place among, apart.header_data place among⟩
  have free := straight.data_free.grow fun place among =>
    (linked.touches place (out place (passed_subset_route _ _ among))).1
  have relinked : Touches _ _ middle ((relink here data buildDir).run.run middle).2 :=
    relink_touches free apart.data_own
  rw [ended] at relinked
  refine ⟨?_, ?_, ?_⟩
  · refine linked.sources.kept relinked apart.data_build fun place inside => ?_
    exact ⟨(apart.outside_of_build inside.1).2, fun among =>
      apart.build_data place (parents_subset_route _ _ among) inside⟩
  · refine linked.header.kept relinked
      (fun place among => apart.data_header place (parents_subset_route _ _ among)) ?_
    exact fun place inside => ⟨(apart.outside_of_header inside).2, fun among =>
      apart.header_data place (parents_subset_route _ _ among) inside⟩
  · refine relink_stands_of_touches ended linked.touches ?_ out ?_ straight.data_free
      apart.data_own straight.tree (straight.start_stands _)
    · exact fun _ _ around => Or.imp (inside_of_suffix · around) (·.trans around)
    · intro place inside
      obtain ⟨outBuild, outHeader⟩ := apart.outside_of_data inside
      refine ⟨not_or.2 ⟨fun within => outBuild within.1, outHeader⟩, fun among => ?_⟩
      rcases List.mem_append.1 among with among | among
      · exact apart.data_build place among inside
      · exact apart.data_header place (parents_subset_route _ _ among) inside

/-- **In the end there are the generated files and the aliases**, and in the build directory what was
left when it was prepared. -/
theorem stage_stands {config : Config} (made : absolute here config.buildDir = .ok buildDir)
    (apart : AreApart here buildDir config.headerLinkPath config.dataLinkPath)
    (plain : ∀ source ∈ sources, FilePath.IsPlain source.path)
    (distinct : (sources.map SourceFile.path).Nodup)
    (straight : IsStraight here buildDir config.headerLinkPath config.dataLinkPath sources files)
    (ended : (stage here config sources).run.run files = (.ok (), after)) :
    IsStaged here buildDir config.headerLinkPath config.dataLinkPath sources
      (leftIn files here buildDir) after := by
  obtain ⟨emptied, written, linked, prepared, wrote, linkedHeader, linkedData⟩ :=
    steps_of_stage made ended
  have written := straight.written apart (nonempty_of_isAbsolute (isAbsolute_of_absolute made))
    plain distinct prepared wrote
  exact (written.linked straight apart linkedHeader).staged straight apart linkedData

/-! ## Whatever was left -/

/-- Two runs that leave the same in the build directory end with the same files and aliases. -/
theorem IsStaged.node?_eq {other : FileSystem} {left' : Location → Option Node}
    (staged : IsStaged here buildDir header data sources left files)
    (also : IsStaged here buildDir header data sources left' other)
    (same : ∀ place, Inside (Location.ofPath here buildDir) place →
      ¬ IsAmong sources (Location.ofPath here buildDir) place → left place = left' place)
    {place : Location} (within : IsWithin here buildDir header data place
      ∨ place ∈ route here buildDir ++ parents here header ++ parents here data) :
    files.node? place = other.node? place := by
  simp only [IsWithin, List.mem_append, or_assoc] at within
  rcases within with inside | inside | inside | among | among | among
  · by_cases among : IsAmong sources (Location.ofPath here buildDir) place
    · obtain ⟨source, found, rfl⟩ := among
      rw [staged.sources.stored source found, also.sources.stored source found]
    · rw [staged.sources.besides place inside among, also.sources.besides place inside among]
      exact same place inside among
  · by_cases itself : place = Location.ofPath here header
    · rw [itself, staged.header.link, also.header.link]
    · rw [staged.header.inside place ⟨inside, itself⟩, also.header.inside place ⟨inside, itself⟩]
  · by_cases itself : place = Location.ofPath here data
    · rw [itself, staged.data.link, also.data.link]
    · rw [staged.data.inside place ⟨inside, itself⟩, also.data.inside place ⟨inside, itself⟩]
  · rw [(staged.sources.stands place among).there, (also.sources.stands place among).there]
  · rw [(staged.header.stands place among).there, (also.header.stands place among).there]
  · rw [(staged.data.stands place among).there, (also.data.stands place among).there]

/-- **A run depends on nothing that it replaces**, and changes nothing else. -/
structure IsIndependent (here : Location) (buildDir header data : String)
    (sources : List SourceFile) (run : FileSystem → Except BuildError Unit × FileSystem) : Prop where
  /-- Refused or not, it changes nothing else, but missing directories may be created on the way. -/
  touches : ∀ files, IsStraight here buildDir header data sources files →
    Touches (IsWithin here buildDir header data)
      (route here buildDir ++ parents here header ++ parents here data) files (run files).2
  /-- In the end there are the generated files and the aliases. -/
  staged : ∀ files after, IsStraight here buildDir header data sources files →
    run files = (.ok (), after) →
      IsStaged here buildDir header data sources (leftIn files here buildDir) after
  /-- There are no other files in the build directory just if none was left there. -/
  only_generated_iff : ∀ files after, IsStraight here buildDir header data sources files →
    run files = (.ok (), after) →
      ((∀ place, Inside (Location.ofPath here buildDir) place →
          (after.node? place).isSome = true →
            IsAmong sources (Location.ofPath here buildDir) place)
        ↔ ∀ place, Inside (Location.ofPath here buildDir) place →
            ¬ IsAmong sources (Location.ofPath here buildDir) place →
              leftIn files here buildDir place = none)
  /-- File systems that differ only in the three places are the same in the end just if the same was
  left in the build directory. -/
  same_iff : ∀ files other after after', IsStraight here buildDir header data sources files →
    IsStraight here buildDir header data sources other →
    (∀ place, ¬ IsWithin here buildDir header data place →
      place ≠ Location.ofPath here buildDir → files.node? place = other.node? place) →
    run files = (.ok (), after) → run other = (.ok (), after') →
      ((∀ place, after.node? place = after'.node? place)
        ↔ ∀ place, Inside (Location.ofPath here buildDir) place →
            ¬ IsAmong sources (Location.ofPath here buildDir) place →
              leftIn files here buildDir place = leftIn other here buildDir place)
  /-- Nothing is left there if its path leads only down. -/
  nothing_left : ".." ∉ FilePath.steps buildDir → ∀ files after,
    IsStraight here buildDir header data sources files → run files = (.ok (), after) →
      ∀ place, Inside (Location.ofPath here buildDir) place →
        leftIn files here buildDir place = none

/-- **What was left does not matter** where staging puts its files and aliases, unless the path of
the build directory leads through something missing, and nothing else is touched. -/
theorem stage_isIndependent {config : Config} (made : absolute here config.buildDir = .ok buildDir)
    (apart : AreApart here buildDir config.headerLinkPath config.dataLinkPath)
    (plain : ∀ source ∈ sources, FilePath.IsPlain source.path)
    (distinct : (sources.map SourceFile.path).Nodup) :
    IsIndependent here buildDir config.headerLinkPath config.dataLinkPath sources
      (stage here config sources).run.run := by
  have staged (files after : FileSystem)
      (straight : IsStraight here buildDir config.headerLinkPath config.dataLinkPath sources files)
      (ended : (stage here config sources).run.run files = (.ok (), after)) :=
    stage_stands made apart plain distinct straight ended
  refine ⟨fun files => stage_touches made apart plain, staged, ?_, ?_, ?_⟩
  · intro files after straight ended
    have sources := (staged files after straight ended).sources
    refine forall₂_congr fun place inside => ?_
    rw [← not_imp_not, Bool.not_eq_true, Option.isSome_eq_false_iff, Option.isNone_iff_eq_none]
    exact imp_congr_right fun other => by rw [sources.besides place inside other]
  · intro files other after after' straight alsoStraight same ended alsoEnded
    have first := staged files after straight ended
    have second := staged other after' alsoStraight alsoEnded
    constructor
    · intro equal place inside among
      rw [← first.sources.besides place inside among, equal place,
        second.sources.besides place inside among]
    · intro left place
      by_cases put : IsWithin here buildDir config.headerLinkPath config.dataLinkPath place
          ∨ place ∈ route here buildDir ++ parents here config.headerLinkPath
            ++ parents here config.dataLinkPath
      · exact first.node?_eq second left put
      · obtain ⟨out, beside⟩ := not_or.1 put
        have touched := stage_touches made apart plain straight place out
        have touched' := stage_touches made apart plain alsoStraight place out
        rw [ended] at touched
        rw [alsoEnded] at touched'
        rw [touched.2 beside, touched'.2 beside]
        refine same place out fun itself => beside ?_
        rw [itself]
        simp [ofPath_mem_route]
  · intro direct files after straight ended place inside
    obtain ⟨_, _, _, prepared, -⟩ := steps_of_stage made ended
    exact leftIn_of_direct (nonempty_of_isAbsolute (isAbsolute_of_absolute made)) direct
      straight.tree straight.build_free prepared inside

/-! ## Two histories -/

section InRoot

variable {path name : String}

theorem InRoot.steps_eq (inRoot : InRoot path name) : FilePath.steps path = [name] := by
  have looked := inRoot.looked
  rw [steps_of_last inRoot.calls.names_eq looked.ne_point]
  rfl

theorem InRoot.ofPath_eq (inRoot : InRoot path name) : Location.ofPath here path = [name] := by
  have looked := inRoot.looked
  rw [Location.ofPath_eq, inRoot.steps_eq, inRoot.start_eq, List.foldl_cons, List.foldl_nil,
    next_of_isLookedUp looked]

theorem InRoot.passed_eq (inRoot : InRoot path name) : passed here path = [[]] := by
  rw [passed, inRoot.calls.pathNames_eq, inRoot.start_eq]
  rfl

theorem InRoot.route_eq (inRoot : InRoot path name) : route here path = [[], [name]] := by
  rw [route, inRoot.steps_eq, inRoot.start_eq]
  simp [Location.route, next_of_isLookedUp inRoot.looked]

end InRoot

/-- Different places in the root are apart. -/
theorem areApart_inTheRoot : AreApart [] "/b" "/h" "/d" := by
  refine areApart_of_direct ?_ ?_ ?_
  · simp [inRoot_b.steps_eq, inRoot_h.steps_eq, inRoot_d.steps_eq]
  · simp [inRoot_h.steps_eq, inRoot_d.steps_eq]
  · simp only [List.map_cons, List.map_nil, inRoot_b.ofPath_eq, inRoot_h.ofPath_eq,
      inRoot_d.ofPath_eq]
    decide

/-- Paths lead straight to places in the root. -/
theorem isStraight_inTheRoot (tree : files.IsTree) (there : files.node? ["b"] = some .directory) :
    IsStraight [] "/b" "/h" "/d" [generatedHeader] files := by
  refine ⟨tree, node?_nil files, ?_, ?_, ?_, ?_⟩
  · simp [Free, inRoot_b.route_eq, node?_nil, there]
  · simp [Free, inRoot_h.passed_eq, node?_nil]
  · simp [Free, inRoot_d.passed_eq, node?_nil]
  · simp [inRoot_b.steps_eq]

/-- What a build that was broken off has left: files of other programs in a directory in the build
directory, a link to the root, an alias that leads elsewhere, and a directory in the place of the
other alias. -/
def brokenOff : FileSystem :=
  (((((FileSystem.empty.put ["b"] .directory).put ["old", "b"] .directory).put ["notes", "old", "b"]
    (.file "mine".toUTF8)).put ["up", "b"] (.link "/")).put ["h"] (.link "/b/old")).put ["d"]
      .directory

theorem isTree_leftovers : leftovers.IsTree := by
  refine (((isTree_empty.put _ ?_ ?_).put _ ?_ ?_).put _ ?_ ?_).put _ ?_ ?_ <;>
    simp [node?_put_eq, node?_empty, node?_nil]

theorem isTree_brokenOff : brokenOff.IsTree := by
  refine (((((isTree_empty.put _ ?_ ?_).put _ ?_ ?_).put _ ?_ ?_).put _ ?_ ?_).put _ ?_ ?_).put
    _ ?_ ?_ <;> simp [node?_put_eq, node?_empty, node?_nil]

/-- Different leftovers are in the same places. -/
theorem node?_leftovers_eq {place : Location} (out : ¬ IsWithin [] "/b" "/h" "/d" place)
    (other : place ≠ ["b"]) : leftovers.node? place = brokenOff.node? place := by
  simp only [IsWithin, inRoot_b.ofPath_eq, inRoot_h.ofPath_eq, inRoot_d.ofPath_eq, not_or] at out
  obtain ⟨inside, header, data⟩ := out
  have apart (around : Location) (within : Inside ["b"] around) : around ≠ place := by
    rintro rfl
    exact inside within
  have header : ["h"] ≠ place := fun same => header (same ▸ List.suffix_rfl)
  have data : ["d"] ≠ place := fun same => data (same ▸ List.suffix_rfl)
  have bank := apart ["bank_009.c", "b"] (by decide)
  have old := apart ["old", "b"] (by decide)
  have notes := apart ["notes", "old", "b"] (by decide)
  have up := apart ["up", "b"] (by decide)
  simp only [leftovers, brokenOff, node?_put_eq, other.symm, header, data, bank, old, notes, up,
    false_and, if_false]

/-- It makes no difference to the next build whether the last one was broken off. -/
theorem stage_isIndependent_leftovers : ∃ after after',
    leftovers.node? ["h"] ≠ brokenOff.node? ["h"]
      ∧ (stage [] (inTheRoot "/d") [generatedHeader]).run.run leftovers = (.ok (), after)
      ∧ (stage [] (inTheRoot "/d") [generatedHeader]).run.run brokenOff = (.ok (), after')
      ∧ ∀ place, after.node? place = after'.node? place := by
  have headerPath : (inTheRoot "/d").headerLinkPath = "/h" := by cbv
  have dataPath : (inTheRoot "/d").dataLinkPath = "/d" := by cbv
  have header : leftovers.node? ["h"] = some (.link "/b/banks.h") := by
    simp [leftovers, node?_put_eq]
  have header' : brokenOff.node? ["h"] = some (.link "/b/old") := by
    simp [brokenOff, node?_put_eq]
  have there : brokenOff.node? ["b"] = some .directory := by simp [brokenOff, node?_put_eq]
  have ended := run_stage_inTheRoot "/d" leftovers_b header
  have ended' := run_stage_inTheRoot "/d" there header'
  have data : ((((leftovers.clear ["b"]).put ["banks.h", "b"] (.file "new".toUTF8)).erase
      ["h"]).put ["h"] (.link "/b/banks.h")).node? ["d"] = some (.link "/b") := by
    simp +decide [node?_put_eq, node?_erase, node?_clear, leftovers]
  have data' : ((((brokenOff.clear ["b"]).put ["banks.h", "b"] (.file "new".toUTF8)).erase
      ["h"]).put ["h"] (.link "/b/banks.h")).node? ["d"] = some .directory := by
    simp +decide [node?_put_eq, node?_erase, node?_clear, brokenOff]
  rw [dataPath, inRoot_d.run_relink_link data (by decide) (by decide)] at ended
  rw [dataPath, inRoot_d.run_relink_directory data' (by decide) (by decide)] at ended'
  refine ⟨_, _, by simp [header, header'], ended, ended', ?_⟩
  have plain : ∀ source ∈ [generatedHeader], FilePath.IsPlain source.path := by
    simpa using isPlain_generatedHeader
  have made : absolute [] (inTheRoot "/d").buildDir = .ok "/b" := by cbv
  have apart : AreApart [] "/b" (inTheRoot "/d").headerLinkPath (inTheRoot "/d").dataLinkPath := by
    rw [headerPath, dataPath]
    exact areApart_inTheRoot
  have independent := stage_isIndependent made apart plain (by simp)
  rw [headerPath, dataPath] at independent
  have straight := isStraight_inTheRoot isTree_leftovers leftovers_b
  have straight' := isStraight_inTheRoot isTree_brokenOff there
  refine (independent.same_iff _ _ _ _ straight straight' ?_ ended ended').2 ?_
  · intro place out other
    exact node?_leftovers_eq out (by rwa [inRoot_b.ofPath_eq] at other)
  · intro place inside _
    have down : ".." ∉ FilePath.steps "/b" := by simp [inRoot_b.steps_eq]
    rw [independent.nothing_left down _ _ straight ended place inside,
      independent.nothing_left down _ _ straight' ended' place inside]

end Cartridge.Staging
