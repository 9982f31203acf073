import Cartridge.FileSystem.Action
import Cartridge.Proofs.FileSystem.Trail
import Cartridge.Proofs.Success
import Cartridge.Proofs.Text.Path

/-!
# What a change does

What has succeeded is told by the ways that its path leads along.

* `entry_eq_ok`: the last name of a path is looked up at the goal of the way there.
* `write_eq_ok`, `createDirectory_eq_ok`, `createLink_eq_ok`: what was put, and where.
* `find_calls`: what is found by its name, whatever it is.
* `walk_through`, `walk_file`: what is found behind an alias.
* `mem_names_iff`, `nodup_names`: what is listed.
-/

namespace Cartridge.FileSystem

variable {files after : FileSystem} {solid follow : Bool} {here place : Location}
  {path name : String} {before : List String} {trail : Trail}

/-! ## Where a path begins -/

/-- The directory that a path starts from. -/
def start (here : Location) (path : String) : Location :=
  if FilePath.isAbsolute path then [] else here

/-- A path that can be followed at all. -/
structure IsUsable (path : String) : Prop where
  nonempty : path ≠ ""
  null_not_mem : '\x00' ∉ path.toList
  short : path.utf8ByteSize < pathLimit

theorem origin_eq_ok_iff (here : Location) (path : String) (place : Location) :
    origin here path = .ok place ↔ IsUsable path ∧ start here path = place := by
  unfold origin start FilePath.isAbsolute
  constructor
  · intro started
    split at started
    · cases started
    split at started
    · cases started
    split at started
    · cases started
    next real given short =>
      simp only [String.contains_char_eq, decide_eq_true_eq] at real
      rw [String.isEmpty_iff] at given
      exact ⟨⟨given, real, Nat.not_le.1 short⟩, Except.ok.inj started⟩
  · rintro ⟨⟨given, real, short⟩, rfl⟩
    simp [String.contains_char_eq, real, String.isEmpty_iff, given, Nat.not_le.2 short]

/-! ## Names -/

/-- A path that ends with the name of something, behind the names of the directory it is in. -/
structure Calls (path : String) (before : List String) (name : String) : Prop where
  names_eq : FilePath.names path = before ++ [name]
  ne_point : name ≠ "."
  ne_points : name ≠ ".."
  not_slashed : path.endsWith "/" = false

theorem Calls.pathNames_eq (calls : Calls path before name) :
    pathNames path = before ++ [name] := by
  rw [pathNames, calls.not_slashed, calls.names_eq]
  rfl

/-- The path of a file in a directory calls it by its name. -/
theorem calls_join {directory : String} (given : directory ≠ "") (plain : FilePath.IsPlain name) :
    Calls (FilePath.join directory name) (FilePath.names directory) name :=
  ⟨FilePath.names_join given plain, plain.ne_point, plain.ne_points,
    FilePath.endsWith_join directory plain⟩

/-- The last name of a path, if it is one. -/
theorem names_eq_of_last (point : (FilePath.names path).getLastD "." ≠ ".") :
    FilePath.names path
      = (FilePath.names path).dropLast ++ [(FilePath.names path).getLastD "."] := by
  have given : FilePath.names path ≠ [] := by
    intro none
    simp [none] at point
  rw [List.getLastD_eq_getLast?, List.getLast?_eq_some_getLast given, Option.getD_some,
    List.dropLast_concat_getLast]

/-- A path calls something by its last name if that name is one. -/
theorem calls_of_last (point : (FilePath.names path).getLastD "." ≠ ".")
    (points : (FilePath.names path).getLastD "." ≠ "..")
    (notSlashed : path.endsWith "/" = false) :
    Calls path (FilePath.names path).dropLast ((FilePath.names path).getLastD ".") :=
  ⟨names_eq_of_last point, point, points, notSlashed⟩

/-- A file in a directory is followed from where the directory is. -/
theorem start_join {directory : String} (here : Location) (given : directory ≠ "")
    (plain : FilePath.IsPlain name) :
    start here (FilePath.join directory name) = start here directory := by
  rw [start, start, FilePath.isAbsolute_join given plain]

/-- A file can be called from one directory if its name has been used from another one. -/
theorem isUsable_join {directory other : String} (usable : IsUsable directory)
    (plain : FilePath.IsPlain name) (elsewhere : IsUsable (FilePath.join other name))
    (short : (FilePath.join directory name).utf8ByteSize < pathLimit) :
    IsUsable (FilePath.join directory name) := by
  refine ⟨?_, ?_, short⟩
  · obtain ⟨front, text⟩ := FilePath.exists_append_eq_join directory name
    simp [text, plain.nonempty]
  · intro null
    rcases FilePath.mem_join null with before | separator | behind
    · exact usable.null_not_mem before
    · simp at separator
    · exact elsewhere.null_not_mem (FilePath.mem_join_of_mem other behind)

theorem pointless_pathNames (path : String) : Way.pointless (pathNames path) = FilePath.steps path := by
  unfold pathNames FilePath.steps Way.pointless
  by_cases slashed : path.endsWith "/" = true <;> simp [slashed]

theorem pointless_pathNames_eq (path : String) :
    Way.pointless (pathNames path) = Way.pointless (FilePath.steps path) := by
  rw [pointless_pathNames]
  simp [Way.pointless, FilePath.steps]

/-- What is followed is followed from where the path starts. -/
theorem locate_eq_ok (found : files.locate follow here path = .ok place) :
    IsUsable path
      ∧ files.walk follow linkLimit (start here path) (pathNames path) = .ok place := by
  obtain ⟨first, started, walked⟩ := bind_eq_ok found
  obtain ⟨usable, rfl⟩ := (origin_eq_ok_iff here path first).1 started
  exact ⟨usable, walked⟩

theorem locate_of_isUsable (usable : IsUsable path) :
    files.locate follow here path
      = files.walk follow linkLimit (start here path) (pathNames path) := by
  rw [locate, (origin_eq_ok_iff here path _).2 ⟨usable, rfl⟩]
  rfl

/-- What is followed by a name is there if that is no link. -/
theorem eq_of_walk_last {links : Nat} (point : name ≠ ".") (points : name ≠ "..")
    (walked : files.walk follow links here [name] = .ok place)
    (plain : follow = true → ∀ target, files.node? (name :: here) ≠ some (.link target)) :
    IsLookedUp name ∧ place = name :: here := by
  rw [walk, if_neg point, if_neg points] at walked
  split at walked
  · cases walked
  next short =>
    refine ⟨⟨point, points, Nat.not_lt.1 short⟩, ?_⟩
    cases found : files.node? (name :: here) with
    | none =>
      rw [found] at walked
      exact (Except.ok.inj walked).symm
    | some node =>
      rw [found] at walked
      cases node with
      | directory =>
        simp only [walk] at walked
        exact (Except.ok.inj walked).symm
      | file contents => exact (Except.ok.inj walked).symm
      | link target =>
        cases follow with
        | false => exact (Except.ok.inj walked).symm
        | true => exact absurd found (plain rfl target)

theorem pointless_flatMap (names : List String) :
    Way.pointless (names.flatMap fun name => [name, "."]) = Way.pointless names := by
  unfold Way.pointless
  induction names with
  | nil => rfl
  | cons name names ih =>
    rw [List.flatMap_cons, List.filter_append, ih]
    by_cases point : name = "." <;> simp [point]

/-- The names with a point behind each of them lead where the names lead. -/
theorem exists_way_of_walk_dotted {names : List String}
    (ended : files.walk true linkLimit here (names.flatMap fun name => [name, "."]) = .ok place) :
    ∃ trail, files.Way true here names trail ∧ trail.links ≤ linkLimit ∧ trail.goal = place := by
  rcases List.eq_nil_or_concat names with rfl | ⟨front, name, rfl⟩
  · rw [List.flatMap_nil, walk] at ended
    cases ended
    exact ⟨_, .stop, Nat.zero_le _, rfl⟩
  · have whole : ((front ++ [name]).flatMap fun name => [name, "."])
        = ((front.flatMap fun name => [name, "."]) ++ [name]) ++ ["."] := by simp
    rw [List.concat_eq_append] at ended ⊢
    rw [whole] at ended
    obtain ⟨trail, way, enough⟩ := exists_way_of_walk_append ended (by simp)
    have same : Way.pointless (front ++ [name])
        = Way.pointless ((front.flatMap fun name => [name, "."]) ++ [name]) := by
      rw [← pointless_flatMap, whole]
      simp [Way.pointless, List.filter_cons]
    refine ⟨trail, way.congr_points same, enough, ?_⟩
    rw [way.walk_append enough (Or.inr rfl), walk, if_pos rfl, walk] at ended
    exact Except.ok.inj ended

/-- **The last name of a path** is looked up at the goal of the way there. -/
theorem entry_eq_ok {entry : Entry} (found : files.entry here path = .ok entry) :
    IsUsable path ∧ ∃ trail,
      files.Way true (start here path) (FilePath.names path).dropLast trail
        ∧ trail.links ≤ linkLimit
        ∧ entry = ⟨trail.goal, (FilePath.names path).getLastD ".", path.endsWith "/"⟩ := by
  obtain ⟨first, started, entered⟩ := bind_eq_ok found
  obtain ⟨usable, rfl⟩ := (origin_eq_ok_iff here path first).1 started
  obtain ⟨directory, walked, entered⟩ := bind_eq_ok entered
  obtain ⟨trail, way, enough, rfl⟩ := exists_way_of_walk_dotted walked
  cases entered
  exact ⟨usable, trail, way, enough, rfl⟩

theorem Calls.entry_eq_ok (calls : Calls path before name) {entry : Entry}
    (found : files.entry here path = .ok entry) :
    ∃ trail, files.Way true (start here path) before trail ∧ trail.links ≤ linkLimit
      ∧ entry = ⟨trail.goal, name, false⟩ := by
  obtain ⟨-, trail, way, enough, rfl⟩ := FileSystem.entry_eq_ok found
  rw [calls.names_eq, List.dropLast_concat] at way
  refine ⟨trail, way, enough, ?_⟩
  rw [calls.names_eq, calls.not_slashed, List.getLastD_concat]

/-! ## What is added -/

/-- What was put somewhere below the root is there, and the rest is as it was. -/
theorem node?_put_eq {node : Node} {other : Location} (place : Location) :
    (files.put place node).node? other = if place = other ∧ other ≠ [] then some node
      else files.node? other := by
  by_cases root : other = []
  · simp [root, node?_nil]
  · rw [node?_put files place other node root]
    simp [root]

theorem exists_withoutSlashes_append (path : String) :
    ∃ slashes, (∀ c ∈ slashes, c = '/') ∧ withoutSlashes path ++ String.ofList slashes = path := by
  refine ⟨(path.toList.reverse.takeWhile (· == '/')).reverse, ?_, ?_⟩
  · intro c found
    simpa using List.all_eq_true.1 List.all_takeWhile c (List.mem_reverse.1 found)
  · rw [withoutSlashes, ← String.ofList_append, ← List.reverse_append,
      List.takeWhile_append_dropWhile, List.reverse_reverse, String.ofList_toList]

/-- A path leads where it leads without the separators at its end. -/
theorem leads_withoutSlashes (path : String) :
    FilePath.Leads path (withoutSlashes path) (FilePath.steps path) := by
  obtain ⟨slashes, all, whole⟩ := exists_withoutSlashes_append path
  by_cases none : withoutSlashes path = ""
  · exact Or.inl none
  · refine Or.inr ⟨?_, ?_⟩
    · conv_rhs => rw [← whole, FilePath.isAbsolute_append none]
    · conv_rhs => rw [FilePath.steps, ← whole, FilePath.names_slashes _ all]
      rfl

theorem nonempty_of_createDirectory (created : files.createDirectory here path = .ok after) :
    path ≠ "" := by
  obtain ⟨place, located, -⟩ := bind_eq_ok created
  rintro rfl
  exact (locate_eq_ok located).1.nonempty (by split <;> decide)

/-- A directory is created where nothing is, at the end of the names of its path. -/
theorem walk_of_createDirectory (created : files.createDirectory here path = .ok after) :
    ∃ names place, Way.pointless names = Way.pointless (FilePath.steps path)
      ∧ files.walk false linkLimit (start here path) names = .ok place
      ∧ files.node? place = none ∧ after = files.put place .directory := by
  obtain ⟨place, located, created⟩ := bind_eq_ok created
  have leads : FilePath.Leads path (if path.any (· != '/') then withoutSlashes path else path)
      (FilePath.steps path) := by
    split
    · exact leads_withoutSlashes path
    · exact Or.inr ⟨rfl, rfl⟩
  generalize (if path.any (· != '/') then withoutSlashes path else path) = text at located leads
  obtain ⟨usable, walked⟩ := locate_eq_ok located
  obtain ⟨absolute, steps⟩ := leads.resolve_left usable.nonempty
  rw [start, absolute] at walked
  cases there : files.node? place with
  | some node =>
    rw [there] at created
    cases created
  | none =>
    rw [there] at created
    refine ⟨_, place, ?_, walked, there, (Except.ok.inj created).symm⟩
    rw [pointless_pathNames_eq, steps]

/-- **A directory is created** where nothing is, at the goal of a way that could be created. -/
theorem createDirectory_eq_ok (created : files.createDirectory here path = .ok after)
    (way : files.Way false (start here path) (FilePath.steps path) trail) :
    files.node? trail.goal = none ∧ after = files.put trail.goal .directory := by
  obtain ⟨names, place, same, walked, there, rfl⟩ := walk_of_createDirectory created
  obtain ⟨trail', found, -, rfl⟩ := exists_way_of_walk walked (Or.inr ⟨rfl, there⟩)
  obtain rfl : trail' = trail := found.eq (way.congr_points same)
  exact ⟨there, rfl⟩

/-- **A file is written** where nothing or a file is, under its name. -/
theorem write_eq_ok {contents : ByteArray} (calls : Calls path before name)
    (written : files.write here path contents = .ok after)
    (way : files.Way false (start here path) before trail)
    (plain : ∀ target, files.node? (name :: trail.goal) ≠ some (.link target)) :
    IsUsable path ∧ IsLookedUp name ∧ files.Way true (start here path) before trail
      ∧ trail.links ≤ linkLimit
      ∧ files.node? (name :: trail.goal) ≠ some .directory
      ∧ after = files.put (name :: trail.goal) (.file contents) := by
  obtain ⟨entry, entered, written⟩ := bind_eq_ok written
  obtain ⟨trail', solid, enough, rfl⟩ := calls.entry_eq_ok entered
  obtain rfl : trail' = trail := solid.eq way
  obtain ⟨-, -, written⟩ := bind_eq_ok written
  obtain ⟨place, located, written⟩ := bind_eq_ok written
  obtain ⟨usable, walked⟩ := locate_eq_ok located
  rw [calls.pathNames_eq, solid.walk_append enough (Or.inr rfl)] at walked
  obtain ⟨looked, rfl⟩ := eq_of_walk_last calls.ne_point calls.ne_points walked fun _ => plain
  refine ⟨usable, looked, solid, enough, ?_, ?_⟩
  · intro found
    rw [found] at written
    cases written
  · cases found : files.node? (name :: trail'.goal) with
    | none =>
      rw [found] at written
      exact (Except.ok.inj written).symm
    | some node =>
      rw [found] at written
      cases node with
      | directory => cases written
      | link target => exact absurd found (plain target)
      | file contents => exact (Except.ok.inj written).symm

/-- **A link is created** where nothing is, under its name. -/
theorem createLink_eq_ok {target : String} (created : files.createLink here target path = .ok after) :
    ∃ before name trail, IsUsable path ∧ Calls path before name ∧ IsLookedUp name
      ∧ files.Way true (start here path) before trail ∧ trail.links ≤ linkLimit
      ∧ files.node? (name :: trail.goal) = none
      ∧ after = files.put (name :: trail.goal) (.link target) := by
  unfold createLink at created
  dsimp only at created
  split at created
  · cases created
  split at created
  · cases created
  obtain ⟨entry, entered, created⟩ := bind_eq_ok created
  obtain ⟨usable, trail, way, enough, rfl⟩ := entry_eq_ok entered
  unfold Entry.place? at created
  dsimp only at created
  split at created
  · cases created
  next place named =>
    split at named
    · cases named
    next real =>
      cases named
      split at created
      · cases created
      next short =>
        split at created
        · cases created
        next free =>
          split at created
          · cases created
          next plain =>
            obtain ⟨point, points⟩ := not_or.1 real
            exact ⟨_, _, trail, usable, calls_of_last point points (Bool.eq_false_iff.2 plain),
              ⟨point, points, Nat.not_lt.1 short⟩, way, enough, by simpa using free,
              (Except.ok.inj created).symm⟩

/-! ## What is taken away -/

/-- An empty directory is removed under its name. -/
theorem removeDirectory_eq_ok (calls : Calls path before name)
    (removed : files.removeDirectory here path = .ok after)
    (way : files.Way false (start here path) before trail) :
    after = files.erase (name :: trail.goal) := by
  obtain ⟨entry, entered, removed⟩ := bind_eq_ok removed
  obtain ⟨trail', solid, -, rfl⟩ := calls.entry_eq_ok entered
  obtain rfl : trail' = trail := solid.eq way
  rw [Entry.place?, if_neg (not_or.2 ⟨calls.ne_point, calls.ne_points⟩)] at removed
  dsimp only at removed
  split at removed
  · split at removed
    · exact (Except.ok.inj removed).symm
    · cases removed
  · cases removed
  · cases removed
  · cases removed

/-! ## What is found -/

/-- File systems with the same contents are followed alike. -/
theorem walk_congr (same : ∀ place, after.node? place = files.node? place) (follow : Bool)
    (links : Nat) (here : Location) (names : List String) :
    after.walk follow links here names = files.walk follow links here names := by
  fun_induction files.walk follow links here names <;> rw [walk] <;> grind

/-- In file systems with the same contents the same is found. -/
theorem find_congr (same : ∀ place, after.node? place = files.node? place) (follow : Bool)
    (here : Location) (path : String) :
    after.find follow here path = files.find follow here path := by
  unfold find locate
  simp only [walk_congr same, same]

theorem find_eq_ok {node : Node} (found : files.find follow here path = .ok (place, node)) :
    files.locate follow here path = .ok place ∧ files.node? place = some node := by
  obtain ⟨place', located, found⟩ := bind_eq_ok found
  cases there : files.node? place' with
  | none =>
    rw [there] at found
    cases found
  | some node =>
    rw [there] at found
    cases found
    exact ⟨located, there⟩

/-- **What is found by its name** is looked up at the goal of the way there. -/
theorem find_calls {node : Node} (calls : Calls path before name)
    (found : files.find false here path = .ok (place, node))
    (way : files.Way false (start here path) before trail) :
    place = name :: trail.goal ∧ files.node? place = some node := by
  obtain ⟨located, there⟩ := find_eq_ok found
  obtain ⟨-, walked⟩ := locate_eq_ok located
  rw [calls.pathNames_eq] at walked
  obtain ⟨trail', solid, enough⟩ := exists_way_of_walk_append walked (by simp)
  obtain rfl : trail' = trail := solid.eq way
  rw [solid.walk_append enough (Or.inl (by simp))] at walked
  exact ⟨(eq_of_walk_last calls.ne_point calls.ne_points walked (by simp)).2, there⟩

/-- **A directory that is found** is the goal of the way there. -/
theorem find_directory (found : files.find true here path = .ok (place, .directory))
    (way : files.Way false (start here path) (FilePath.steps path) trail) :
    place = trail.goal ∧ files.node? place = some .directory := by
  obtain ⟨located, there⟩ := find_eq_ok found
  obtain ⟨-, walked⟩ := locate_eq_ok located
  obtain ⟨trail', solid, -, rfl⟩ : ∃ trail, files.Way true (start here path) (pathNames path) trail
      ∧ trail.links ≤ linkLimit ∧ trail.goal = place := exists_way_of_walk walked (Or.inl there)
  obtain rfl : trail' = trail := solid.eq (way.congr_points (pointless_pathNames_eq path))
  exact ⟨rfl, there⟩

/-- **A path through an alias** goes on from the root along the path that the alias stands for. -/
theorem walk_through {links : Nat} {target : String} {more : List String}
    (way : files.Way true here before trail) (looked : IsLookedUp name)
    (link : files.node? (name :: trail.goal) = some (.link target))
    (absolute : FilePath.isAbsolute target = true) (enough : trail.links + 1 ≤ links) :
    files.walk true links here (before ++ name :: more)
      = files.walk true (links - (trail.links + 1)) [] (pathNames target ++ more) := by
  obtain ⟨spare, rfl⟩ := Nat.exists_eq_add_of_le enough
  have left : trail.links + 1 + spare - trail.links = spare + 1 := by omega
  rw [way.walk_append (Nat.le_of_succ_le enough) (Or.inr rfl), left, walk, if_neg looked.ne_point,
    if_neg looked.ne_points, if_neg (Nat.not_lt.2 looked.short), link]
  unfold FilePath.isAbsolute at absolute
  simp [absolute]

/-- **A path to a file** ends there. -/
theorem walk_file {links : Nat} {contents : ByteArray} (way : files.Way true here before trail)
    (looked : IsLookedUp name)
    (stored : files.node? (name :: trail.goal) = some (.file contents))
    (enough : trail.links ≤ links) :
    files.walk true links here (before ++ [name]) = .ok (name :: trail.goal) := by
  rw [way.walk_append enough (Or.inr rfl), walk, if_neg looked.ne_point, if_neg looked.ne_points,
    if_neg (Nat.not_lt.2 looked.short), stored]
  rfl

theorem find_of_locate {node : Node} (located : files.locate follow here path = .ok place)
    (found : files.node? place = some node) : files.find follow here path = .ok (place, node) := by
  rw [find, located]
  dsimp only [bind, Except.bind]
  rw [found]
  rfl

theorem read_of_locate {contents : ByteArray} (located : files.locate true here path = .ok place)
    (found : files.node? place = some (.file contents)) : files.read here path = .ok contents := by
  rw [read, find_of_locate located found]
  rfl

theorem list_of_locate (located : files.locate true here path = .ok place)
    (found : files.node? place = some .directory) :
    files.list here path = .ok (files.names place) := by
  rw [list, directory, find_of_locate located found]
  rfl

theorem mem_names_iff (files : FileSystem) (place : Location) (name : String) :
    name ∈ files.names place ↔ (files.node? (name :: place)).isSome = true := by
  unfold names
  rw [List.mem_mergeSort, List.mem_filterMap]
  constructor
  · rintro ⟨⟨other, node⟩, among, named⟩
    cases other with
    | nil => cases named
    | cons first parent =>
      dsimp only at named
      split at named
      · next same =>
        cases named
        subst same
        rw [Std.HashMap.mem_toList_iff_getElem?_eq_some] at among
        simp [node?, among]
      · cases named
  · intro there
    obtain ⟨node, found⟩ := Option.isSome_iff_exists.1 there
    exact ⟨(name :: place, node), Std.HashMap.mem_toList_iff_getElem?_eq_some.2 found, by simp⟩

theorem nodup_names (files : FileSystem) (place : Location) : (files.names place).Nodup := by
  unfold names
  rw [(List.mergeSort_perm _ _).nodup_iff]
  have distinct : files.nodes.toList.Pairwise fun first second => (first.1 == second.1) = false :=
    Std.HashMap.distinct_keys_toList
  refine List.pairwise_filterMap.2 (distinct.imp ?_)
  rintro ⟨first, _⟩ ⟨second, _⟩ different name named name' named' rfl
  cases first <;> cases second <;> simp_all

end Cartridge.FileSystem
