import Cartridge.FileSystem.Difference
import Cartridge.Proofs.FileSystem.Frame

/-!
# Paths without links

Where there are no links, names lead where they say, whatever else is there. So it is known which
locations an action can have changed, also if it is refused half-way.

* `Location.next`, `Location.route`: where names say that they lead, and the locations on the way.
* `FileSystem.Free`: there are no links at some locations.
* `Way.goal_eq`, `find_of_free`: what is followed leads where it says.
* `suffix_of_direct`, `not_suffix_of_direct`: what a path passes that leads only down.
* `FileSystem.Stands`, `Way.stands`: **what has been followed stands**: it is there, with all that it
  is in. In a tree, `FileSystem.IsTree`, whatever is there stands.
* `createDirectory_of_free`, `write_of_free`, `createLink_of_free`: what was put, and where.
* `FileAction.createDirectories_adds_of_free`, `FileAction.names_of_free`: what is added on the way,
  and what is taken away.
-/

namespace Cartridge

open FileSystem

/-! ## Where names say that they lead -/

/-- Where a name leads from a location if it is not the name of a link. -/
def Location.next (place : Location) (name : String) : Location :=
  if name = "." then place else if name = ".." then place.tail else name :: place

/-- The locations on the way that names say they lead along. -/
def Location.route (first : Location) : List String → List Location
  | [] => [first]
  | name :: rest => first :: Location.route (first.next name) rest

variable {files after : FileSystem} {here first place : Location} {path name : String}
  {names more : List String} {trail : Trail} {solid : Bool}

theorem Location.next_point (place : Location) : place.next "." = place := if_pos rfl

theorem Location.next_of_ne (point : name ≠ ".") (points : name ≠ "..") (place : Location) :
    place.next name = name :: place := by
  rw [next, if_neg point, if_neg points]

theorem Location.first_mem_route (first : Location) (names : List String) :
    first ∈ first.route names := by
  cases names <;> simp [route]

theorem Location.goal_mem_route (first : Location) (names : List String) :
    names.foldl next first ∈ first.route names := by
  induction names generalizing first with
  | nil => simp [route]
  | cons name names ih => exact List.mem_cons_of_mem _ (ih _)

theorem Location.mem_route_append :
    place ∈ first.route (names ++ more)
      ↔ place ∈ first.route names ∨ place ∈ (names.foldl next first).route more := by
  induction names generalizing first with
  | nil =>
    rw [List.nil_append, route, List.mem_singleton, List.foldl_nil, iff_or_self]
    rintro rfl
    exact first_mem_route _ _
  | cons name names ih =>
    rw [List.cons_append, route, route, List.mem_cons, List.mem_cons, ih, or_assoc, List.foldl_cons]

theorem Location.route_subset (begins : names <+: more) : first.route names ⊆ first.route more := by
  obtain ⟨rest, rfl⟩ := begins
  exact fun _ found => mem_route_append.2 (Or.inl found)

/-- Names that only lead down pass what their goal is in. -/
theorem Location.suffix_of_mem_route (direct : ".." ∉ names) (among : place ∈ first.route names) :
    place <:+ names.foldl next first := by
  induction names generalizing first place with
  | nil =>
    rw [List.mem_singleton.1 among]
    exact List.suffix_rfl
  | cons name names ih =>
    obtain ⟨points, direct⟩ := not_or.1 (mt List.mem_cons.2 direct)
    rcases List.mem_cons.1 among with rfl | among
    · refine List.IsSuffix.trans ?_ (ih direct (first_mem_route _ _))
      unfold next
      split
      · exact List.suffix_rfl
      · rw [if_neg (Ne.symm points)]
        exact List.suffix_cons _ _
    · exact ih direct among

theorem Location.foldl_next_pointless (first : Location) (names : List String) :
    (Way.pointless names).foldl next first = names.foldl next first := by
  unfold Way.pointless
  induction names generalizing first with
  | nil => rfl
  | cons name names ih =>
    by_cases point : name = "."
    · subst point
      simp [ih, next_point]
    · simp [point, ih]

theorem Location.mem_route_pointless :
    place ∈ first.route (Way.pointless names) ↔ place ∈ first.route names := by
  unfold Way.pointless
  induction names generalizing first with
  | nil => rfl
  | cons name names ih =>
    by_cases point : name = "."
    · subst point
      have again : first ∈ first.route names := first_mem_route first names
      simp only [route, next_point, List.mem_cons, bne_self_eq_false, Bool.false_eq_true,
        not_false_eq_true, List.filter_cons_of_neg, ih]
      rw [iff_or_self]
      rintro rfl
      exact again
    · simp [point, route, ih]

/-- Points between names do not change the way that these say they lead along. -/
theorem Location.mem_route_congr (same : Way.pointless names = Way.pointless more) :
    place ∈ first.route names ↔ place ∈ first.route more := by
  rw [← mem_route_pointless, same, mem_route_pointless]

theorem Location.ofPath_eq (here : Location) (path : String) :
    Location.ofPath here path = (FilePath.steps path).foldl next (start here path) := by
  rw [← foldl_next_pointless, ← pointless_pathNames_eq, foldl_next_pointless]
  rfl

namespace FileSystem

/-! ## Following names where there are no links -/

/-- There are no links at some locations. -/
def Free (files : FileSystem) (places : List Location) : Prop :=
  ∀ place ∈ places, ∀ target, files.node? place ≠ some (.link target)

/-- A location is a directory, and so are those that it is in. -/
def Stands (files : FileSystem) (place : Location) : Prop :=
  ∀ outer, outer <:+ place → files.node? outer = some .directory

/-- Whatever is stored is stored in a directory. -/
def IsTree (files : FileSystem) : Prop :=
  ∀ name place, (files.node? (name :: place)).isSome = true → files.node? place = some .directory

variable {places wider : List Location}

theorem Free.mono (free : files.Free wider) (among : places ⊆ wider) : files.Free places :=
  fun place found => free place (among found)

/-- New directories are no links. -/
theorem Free.grow (free : files.Free places) (grown : ∀ place ∈ places, Grown files after place) :
    after.Free places := by
  intro place among target link
  rcases grown place among with same | ⟨-, created⟩
  · exact free place among target (same.symm.trans link)
  · cases created.symm.trans link

theorem Stands.there (stands : files.Stands place) : files.node? place = some .directory :=
  stands place List.suffix_rfl

theorem Stands.outer {outer : Location} (stands : files.Stands place) (around : outer <:+ place) :
    files.Stands outer := fun other further => stands other (further.trans around)

theorem Stands.cons (stands : files.Stands place)
    (there : files.node? (name :: place) = some .directory) : files.Stands (name :: place) := by
  intro outer around
  rcases List.suffix_cons_iff.1 around with rfl | around
  · exact there
  · exact stands outer around

theorem stands_nil (files : FileSystem) : files.Stands [] := by
  intro outer around
  rw [List.suffix_nil.1 around]
  exact node?_nil files

/-- What is stored stands. -/
theorem IsTree.stands (tree : files.IsTree) (there : files.node? place = some .directory) :
    files.Stands place := by
  induction place with
  | nil => exact stands_nil files
  | cons name place ih => exact (ih (tree name place (by rw [there]; rfl))).cons there

/-- New directories leave standing what stands. -/
theorem Stands.grow (stands : files.Stands place)
    (grown : ∀ outer, outer <:+ place → Grown files after outer) : after.Stands place := by
  intro outer around
  rcases grown outer around with same | ⟨-, created⟩
  · exact same.trans (stands outer around)
  · exact created

theorem next_of_isLookedUp (looked : IsLookedUp name) (place : Location) :
    place.next name = name :: place :=
  Location.next_of_ne looked.ne_point looked.ne_points place

/-- **A way where there are no links leads where its names say.** -/
theorem Way.goal_eq (way : files.Way solid first names trail)
    (free : files.Free (first.route names)) : trail.goal = names.foldl Location.next first := by
  induction way with
  | stop => rfl
  | @point first _ _ _ ih =>
    rw [List.foldl_cons, Location.next_point]
    rw [Location.route, Location.next_point] at free
    exact ih (free.mono (List.subset_cons_self _ _))
  | up _ ih => exact ih (free.mono (List.subset_cons_self _ _))
  | down looked _ _ ih =>
    rw [List.foldl_cons, next_of_isLookedUp looked]
    rw [Location.route, next_of_isLookedUp looked] at free
    exact ih (free.mono (List.subset_cons_self _ _))
  | through looked link _ _ =>
    rw [Location.route, next_of_isLookedUp looked] at free
    exact absurd link (free _ (List.mem_cons_of_mem _ (Location.first_mem_route _ _)) _)

/-- **What has been followed stands** if the beginning of the way does. -/
theorem Way.stands (way : files.Way true first names trail) (free : files.Free (first.route names))
    (stands : files.Stands first) : ∀ place ∈ first.route names, files.Stands place := by
  induction way with
  | stop =>
    intro place among
    rwa [List.mem_singleton.1 among]
  | point _ ih =>
    rw [Location.route, Location.next_point] at free ⊢
    rw [List.forall_mem_cons]
    exact ⟨stands, ih (free.mono (List.subset_cons_self _ _)) stands⟩
  | up _ ih =>
    rw [Location.route, List.forall_mem_cons]
    exact ⟨stands, ih (free.mono (List.subset_cons_self _ _)) (stands.outer (List.tail_suffix _))⟩
  | down looked there _ ih =>
    rw [Location.route, next_of_isLookedUp looked] at free ⊢
    rw [List.forall_mem_cons]
    exact ⟨stands, ih (free.mono (List.subset_cons_self _ _))
      (stands.cons (there.resolve_right (by simp)))⟩
  | through looked link _ _ =>
    rw [Location.route, next_of_isLookedUp looked] at free
    exact absurd link (free _ (List.mem_cons_of_mem _ (Location.first_mem_route _ _)) _)

/-- The last name leads on from the end of a way. -/
theorem walk_last {follow : Bool} {links : Nat}
    (walked : files.walk follow links here [name] = .ok place)
    (plain : follow = true → ∀ target, files.node? (here.next name) ≠ some (.link target)) :
    place = here.next name := by
  by_cases point : name = "."
  · subst point
    rw [walk, if_pos rfl, walk] at walked
    exact (Except.ok.inj walked).symm
  · by_cases points : name = ".."
    · subst points
      rw [walk, if_neg (by decide), if_pos rfl, walk] at walked
      exact (Except.ok.inj walked).symm
    · rw [Location.next_of_ne point points] at plain ⊢
      exact (eq_of_walk_last point points walked plain).2

/-- **What is followed where there are no links leads where its names say.** The last name may be that
of a link which is not followed. -/
theorem walk_of_free {follow : Bool} {links : Nat}
    (walked : files.walk follow links first names = .ok place)
    (free : files.Free (first.route names.dropLast))
    (plain : follow = true →
      ∀ target, files.node? (names.foldl Location.next first) ≠ some (.link target)) :
    place = names.foldl Location.next first := by
  rcases List.eq_nil_or_concat names with rfl | ⟨front, name, rfl⟩
  · rw [walk] at walked
    exact (Except.ok.inj walked).symm
  · rw [List.concat_eq_append, List.dropLast_concat] at free
    rw [List.concat_eq_append] at walked plain ⊢
    obtain ⟨trail, way, enough⟩ := exists_way_of_walk_append walked (by simp)
    rw [way.walk_append enough (Or.inl (by simp)), way.goal_eq free] at walked
    rw [List.foldl_append] at plain ⊢
    exact walk_last walked plain

/-! ## What a change does where there are no links -/

/-- The locations that a path is looked up in, before its last name. A separator at its end is one
more name, so that the location before it counts as well. -/
def passed (here : Location) (path : String) : List Location :=
  (start here path).route (pathNames path).dropLast

/-- The locations of the directories that a path says it is in. -/
def parents (here : Location) (path : String) : List Location :=
  (start here path).route (FilePath.steps path).dropLast

/-- The locations on the way that a path says it leads along. -/
def route (here : Location) (path : String) : List Location :=
  (start here path).route (FilePath.steps path)

theorem mem_route_iff : place ∈ route here path ↔ place ∈ (start here path).route (pathNames path) :=
  Location.mem_route_congr (pointless_pathNames_eq path).symm

theorem ofPath_mem_route (here : Location) (path : String) :
    Location.ofPath here path ∈ route here path :=
  mem_route_iff.2 (Location.goal_mem_route _ _)

/-- A path that leads only down passes what its goal is in. -/
theorem suffix_of_direct (direct : ".." ∉ FilePath.steps path) (among : place ∈ route here path) :
    place <:+ Location.ofPath here path := by
  rw [Location.ofPath_eq]
  exact Location.suffix_of_mem_route direct among

/-- What a path that leads only down is in is not in its goal. -/
theorem not_suffix_of_direct (direct : ".." ∉ FilePath.steps path) (named : FilePath.steps path ≠ [])
    (among : place ∈ parents here path) : ¬ Location.ofPath here path <:+ place := by
  obtain ⟨front, name, whole⟩ := (List.eq_nil_or_concat _).resolve_left named
  rw [List.concat_eq_append] at whole
  have real : name ∈ FilePath.steps path := by simp [whole]
  have point : name ≠ "." := by simpa using (List.mem_filter.1 real).2
  have points : name ≠ ".." := fun same => direct (same ▸ real)
  rw [parents, whole, List.dropLast_concat] at among
  rw [whole, List.mem_append, not_or] at direct
  rw [Location.ofPath_eq, whole, List.foldl_append, List.foldl_cons, List.foldl_nil,
    Location.next_of_ne point points]
  intro around
  exact Nat.not_succ_le_self _
    (around.trans (Location.suffix_of_mem_route direct.1 among)).length_le

theorem parents_subset_route (here : Location) (path : String) :
    parents here path ⊆ route here path :=
  Location.route_subset (List.dropLast_prefix _)

theorem passed_subset_route (here : Location) (path : String) :
    passed here path ⊆ route here path := fun _ among =>
  mem_route_iff.2 (Location.route_subset (List.dropLast_prefix _) among)

/-- The steps before the last one are passed. -/
theorem parents_subset_passed (here : Location) (path : String) :
    parents here path ⊆ passed here path := by
  intro place among
  have steps := pointless_pathNames path
  rcases List.eq_nil_or_concat (pathNames path) with none | ⟨front, name, whole⟩
  · rw [none] at steps
    rw [parents, ← steps] at among
    rwa [passed, none]
  · rw [whole, List.concat_eq_append, Way.pointless, List.filter_append] at steps
    rw [passed, whole, List.concat_eq_append, List.dropLast_concat, ← Location.mem_route_pointless,
      Way.pointless]
    rw [parents, ← steps] at among
    by_cases point : name = "."
    · have last : [name].filter (· != ".") = [] := by simp [point]
      rw [last, List.append_nil] at among
      exact Location.route_subset (List.dropLast_prefix _) among
    · have last : [name].filter (· != ".") = [name] := by simp [point]
      rwa [last, List.dropLast_concat] at among

/-- The steps of a path that calls something by its name. -/
theorem steps_of_last {before : List String} (last : FilePath.names path = before ++ [name])
    (real : name ≠ ".") : FilePath.steps path = Way.pointless before ++ [name] := by
  simp [FilePath.steps, Way.pointless, last, real]

theorem find_of_free {follow : Bool} {node : Node}
    (found : files.find follow here path = .ok (place, node)) (free : files.Free (passed here path))
    (plain : follow = true →
      ∀ target, files.node? (Location.ofPath here path) ≠ some (.link target)) :
    place = Location.ofPath here path :=
  walk_of_free (locate_eq_ok (find_eq_ok found).1).2 free plain

/-- A directory that is found stands, with all on the way there. -/
theorem stands_of_find (found : files.find true here path = .ok (place, .directory))
    (free : files.Free (route here path)) (stands : files.Stands (start here path)) :
    ∀ place ∈ route here path, files.Stands place := by
  obtain ⟨located, there⟩ := find_eq_ok found
  obtain ⟨trail, way, -⟩ : ∃ trail, files.Way true (start here path) (pathNames path) trail
      ∧ trail.links ≤ linkLimit ∧ trail.goal = place :=
    exists_way_of_walk (locate_eq_ok located).2 (Or.inl there)
  intro place among
  exact way.stands (fun other found => free other (mem_route_iff.2 found)) stands place
    (mem_route_iff.1 among)

/-- **A directory is created** where a path says. -/
theorem createDirectory_of_free (created : files.createDirectory here path = .ok after)
    (free : files.Free (route here path)) :
    files.node? (Location.ofPath here path) = none
      ∧ after = files.put (Location.ofPath here path) .directory := by
  obtain ⟨names, place, same, walked, there, rfl⟩ := walk_of_createDirectory created
  obtain ⟨trail, way, -, rfl⟩ := exists_way_of_walk walked (Or.inr ⟨rfl, there⟩)
  rw [Location.ofPath_eq, ← (way.congr_points same.symm).goal_eq free]
  exact ⟨there, rfl⟩

/-- A directory stays when something is put where nothing is. -/
theorem node?_put_of_missing {node : Node} {other : Location}
    (there : files.node? place = some .directory) (missing : files.node? other = none) :
    (files.put other node).node? place = some .directory := by
  rw [node?_put_eq, if_neg, there]
  rintro ⟨rfl, -⟩
  cases missing.symm.trans there

/-- What stands still stands when something is put where nothing is. -/
theorem Stands.put {node : Node} (stands : files.Stands place)
    {other : Location} (missing : files.node? other = none) : (files.put other node).Stands place :=
  fun outer around => node?_put_of_missing (stands outer around) missing

theorem node?_empty (place : Location) :
    FileSystem.empty.node? place = if place = [] then some .directory else none := by
  cases place with
  | nil => rfl
  | cons name place => simp [empty, node?]

theorem isTree_empty : FileSystem.empty.IsTree := by
  intro name place stored
  simp [node?_empty] at stored

/-- What is put into a directory is stored in one. -/
theorem IsTree.put (tree : files.IsTree) (node : Node) (there : files.node? place = some .directory)
    (missing : files.node? (name :: place) = none) : (files.put (name :: place) node).IsTree := by
  intro other outer stored
  refine node?_put_of_missing ?_ missing
  by_cases itself : name :: place = other :: outer
  · obtain ⟨-, rfl⟩ := List.cons.inj itself
    exact there
  · rw [node?_put_eq, if_neg fun same => itself same.1] at stored
    exact tree other outer stored

/-- **A directory that is created stands**, with all on the way there. -/
theorem stands_of_createDirectory (created : files.createDirectory here path = .ok after)
    (free : files.Free (route here path)) (stands : files.Stands (start here path)) :
    ∀ place ∈ route here path, after.Stands place := by
  obtain ⟨names, place, same, walked, missing, rfl⟩ := walk_of_createDirectory created
  have free : files.Free ((start here path).route names) := fun other among =>
    free other ((Location.mem_route_congr same).1 among)
  suffices all : ∀ other ∈ (start here path).route names, (files.put place .directory).Stands other from
    fun other among => all other ((Location.mem_route_congr same).2 among)
  rcases List.eq_nil_or_concat names with rfl | ⟨front, name, rfl⟩
  · rw [walk] at walked
    rw [← Except.ok.inj walked] at missing
    cases missing.symm.trans stands.there
  · rw [List.concat_eq_append] at walked free ⊢
    obtain ⟨trail, way, enough⟩ := exists_way_of_walk_append walked (by simp)
    have before : files.Free ((start here path).route front) :=
      free.mono (Location.route_subset (List.prefix_append _ _))
    have standing := way.stands before stands
    have goal := way.goal_eq before
    rw [way.walk_append enough (Or.inl (by simp)), goal] at walked
    obtain rfl := walk_last walked (by simp)
    have inside := standing _ (Location.goal_mem_route _ _)
    intro other among
    rcases Location.mem_route_append.1 among with earlier | later
    · exact (standing other earlier).put missing
    · generalize front.foldl Location.next (start here path) = last at missing inside later ⊢
      rw [Location.route, Location.route, List.mem_cons, List.mem_singleton] at later
      rcases later with rfl | rfl
      · exact inside.put missing
      -- a point would lead to what is there
      have point : name ≠ "." := by
        rintro rfl
        cases missing.symm.trans inside.there
      have points : name ≠ ".." := by
        rintro rfl
        cases missing.symm.trans (inside.outer (List.tail_suffix _)).there
      rw [Location.next_of_ne point points] at missing ⊢
      exact (inside.put missing).cons (FileAction.node?_put_goal missing)

/-- **A file is written** where a path says. -/
theorem write_of_free {contents : ByteArray} {directory : String} (given : directory ≠ "")
    (plain : FilePath.IsPlain name)
    (written : files.write here (FilePath.join directory name) contents = .ok after)
    (free : files.Free (route here directory))
    (unlinked : ∀ target,
      files.node? (name :: Location.ofPath here directory) ≠ some (.link target)) :
    after = files.put (name :: Location.ofPath here directory) (.file contents) := by
  have calls := calls_join given plain
  obtain ⟨entry, entered, -⟩ := bind_eq_ok written
  obtain ⟨trail, way, -, -⟩ := calls.entry_eq_ok entered
  have onward := way
  rw [start_join here given plain] at onward
  have goal : trail.goal = Location.ofPath here directory := by
    rw [onward.goal_eq, Location.ofPath_eq, FilePath.steps]
    · exact (Location.foldl_next_pointless _ _).symm
    · exact fun place among => free place (Location.mem_route_pointless.2 among)
  rw [← goal] at unlinked ⊢
  exact (write_eq_ok calls written way.weaken unlinked).2.2.2.2.2

/-- The last name of a path is looked up in the directory that the steps before lead to, which
stands. -/
theorem entry_of_free {before : List String} (last : FilePath.names path = before ++ [name])
    (point : name ≠ ".") (points : name ≠ "..")
    (way : files.Way true (start here path) before trail) (free : files.Free (parents here path)) :
    name :: trail.goal = Location.ofPath here path
      ∧ (files.Stands (start here path) → ∀ place ∈ parents here path, files.Stands place) := by
  have steps := steps_of_last last point
  have among {place : Location} :
      place ∈ parents here path ↔ place ∈ (start here path).route before := by
    rw [parents, steps, List.dropLast_concat, Location.mem_route_pointless]
  have clear : files.Free ((start here path).route before) := fun place found =>
    free place (among.2 found)
  constructor
  · rw [way.goal_eq clear, Location.ofPath_eq, steps, List.foldl_append,
      Location.foldl_next_pointless, List.foldl_cons, List.foldl_nil,
      Location.next_of_ne point points]
  · exact fun stands place found => way.stands clear stands place (among.1 found)

/-- **A link is created** where a path says, and what it is in stands. -/
theorem createLink_of_free {target : String} (created : files.createLink here target path = .ok after)
    (free : files.Free (parents here path)) :
    files.node? (Location.ofPath here path) = none
      ∧ after = files.put (Location.ofPath here path) (.link target)
      ∧ (files.Stands (start here path) → ∀ place ∈ parents here path, files.Stands place) := by
  obtain ⟨before, name, trail, -, calls, -, way, -, missing, rfl⟩ := createLink_eq_ok created
  obtain ⟨goal, stands⟩ := entry_of_free calls.names_eq calls.ne_point calls.ne_points way free
  rw [goal] at missing ⊢
  exact ⟨missing, rfl, stands⟩

/-- **A directory is removed** where a path says. -/
theorem removeDirectory_of_free (removed : files.removeDirectory here path = .ok after)
    (free : files.Free (parents here path)) : after = files.erase (Location.ofPath here path) := by
  obtain ⟨entry, entered, removed⟩ := bind_eq_ok removed
  obtain ⟨-, trail, way, -, rfl⟩ := entry_eq_ok entered
  unfold Entry.place? at removed
  dsimp only at removed
  split at removed
  · cases removed
  next place named =>
    split at named
    · cases named
    next real =>
      cases named
      obtain ⟨point, points⟩ := not_or.1 real
      rw [(entry_of_free (names_eq_of_last point) point points way free).1] at removed
      split at removed
      · split at removed
        · exact (Except.ok.inj removed).symm
        · cases removed
      · cases removed
      · cases removed
      · cases removed

end FileSystem

namespace FileAction

variable {directory : String} {way : List String}

/-! ## What an action leaves where there are no links -/

instance (places : List Location) : IsPreorder FileSystem (Given (·.Free places) (Adds places)) :=
  isPreorder_given fun _ _ free added => free.grow fun place _ => (added place).1

/-- Each directory that is needed is created on the way. -/
theorem keeps_createDirectory_of_free (leads : FilePath.Leads path directory way)
    (given : directory ≠ "") {shorter : String} (found : shorter ∈ leading directory) :
    Keeps (Given (·.Free ((start here path).route way)) (Adds ((start here path).route way)))
      (change (·.createDirectory here shorter)) := by
  refine keeps_change fun files after created free => ?_
  obtain ⟨absolute, rfl⟩ := leads.resolve_left given
  obtain ⟨begun, begins, leads⟩ := leads_of_mem_leading found
  obtain ⟨alsoAbsolute, rfl⟩ := leads.resolve_left (nonempty_of_createDirectory created)
  have same : start here shorter = start here path := by
    rw [start, start, alsoAbsolute, absolute]
  have among : route here shorter ⊆ (start here path).route (FilePath.steps directory) := by
    rw [route, same]
    exact Location.route_subset begins
  obtain ⟨missing, rfl⟩ := createDirectory_of_free created (free.mono among)
  exact adds_put (among (ofPath_mem_route here shorter)) missing

/-- **Directories are only added on the way** that a path says. -/
theorem createDirectories_adds_of_free (leads : FilePath.Leads path directory way)
    (free : files.Free ((start here path).route way)) :
    Adds ((start here path).route way) files
      ((createDirectories here directory).run.run files).2 := by
  by_cases given : directory = ""
  · subst given
    unfold createDirectories leading createAll
    exact Adds.refl _ _
  · exact keeps_createAll (fun _ => keeps_createDirectory_of_free leads given) files free

/-- **A directory that was to be created stands**, unless that was refused. -/
theorem stands_of_createDirectories (given : path ≠ "")
    (ended : (createDirectories here path).run.run files = (.ok (), after))
    (free : files.Free (route here path)) (stands : files.Stands (start here path)) :
    ∀ place ∈ route here path, after.Stands place := by
  obtain ⟨middle, added, outcome⟩ := cases_of_createDirectories given
    (fun _ => keeps_createDirectory_of_free (Or.inr ⟨rfl, rfl⟩) given) ended
  have grown (place : Location) : Grown files middle place := (added free place).1
  have still := free.grow fun place _ => grown place
  have standing := stands.grow fun outer _ => grown outer
  rcases outcome with created | ⟨rfl, place, found⟩
  · exact stands_of_createDirectory created still standing
  · exact stands_of_find found still standing

/-- A path names the location where it says that it leads, as long as there are no links on the way
there. -/
theorem names_of_free
    (apart : ∀ place ∈ parents here path, ¬ Location.ofPath here path <:+ place) :
    Names here path (Location.ofPath here path) (·.Free (parents here path)) where
  kept := fun _ _ free spared => free.grow fun place among => Or.inl (spared place (apart place among))
  removed := fun _ _ free removed => removeDirectory_of_free removed free

end FileAction
end Cartridge
