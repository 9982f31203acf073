import Mathlib.Data.List.Basic
import Cartridge.FileSystem.Path

/-!
# Ways through a file system

Names lead from a directory along a way, which passes locations and follows links. It is a solid
way if everything on it is there; otherwise what is missing counts as a directory that could be
created.

* `Way.exists_of_append`: a way goes on from where its first part ends.
* `Way.eq`: names lead along one way only.
* `Way.congr_points`: points among the names do not matter.
* `Way.grow`: **new directories do not lead away** from a way.
* `Way.walk_append`: following a path follows its solid way.
* `exists_way_of_walk`, `exists_way_of_walk_append`: what can be followed has a way.
-/

namespace Cartridge

/-- What lies on the way that names lead along. -/
structure Trail where
  /-- The locations on the way before its goal. -/
  passed : List Location
  /-- How many links are followed. -/
  links : Nat
  goal : Location

/-- The locations on the way, its goal included. -/
def Trail.places (trail : Trail) : List Location := trail.passed ++ [trail.goal]

/-- A way, and from its goal on another one. -/
def Trail.append (first second : Trail) : Trail :=
  ⟨first.passed ++ second.passed, first.links + second.links, second.goal⟩

namespace FileSystem

/-- A name that is looked up. -/
structure IsLookedUp (name : String) : Prop where
  ne_point : name ≠ "."
  ne_points : name ≠ ".."
  short : name.utf8ByteSize ≤ nameLimit

/-- The ways that names lead along: a point stays, two points lead up, and any other name leads down
or through a link. A way that is not solid leads down to what is missing as well. -/
inductive Way (files : FileSystem) (solid : Bool) : Location → List String → Trail → Prop
  | stop {here : Location} : Way files solid here [] ⟨[], 0, here⟩
  | point {here : Location} {rest : List String} {trail : Trail} :
      Way files solid here rest trail → Way files solid here ("." :: rest) trail
  | up {here : Location} {rest : List String} {passed : List Location} {links : Nat}
      {goal : Location} : Way files solid here.tail rest ⟨passed, links, goal⟩ →
      Way files solid here (".." :: rest) ⟨here :: passed, links, goal⟩
  | down {here : Location} {name : String} {rest : List String} {passed : List Location}
      {links : Nat} {goal : Location} : IsLookedUp name →
      (files.node? (name :: here) = some .directory
        ∨ solid = false ∧ files.node? (name :: here) = none) →
      Way files solid (name :: here) rest ⟨passed, links, goal⟩ →
      Way files solid here (name :: rest) ⟨here :: passed, links, goal⟩
  | through {here : Location} {name target : String} {rest : List String}
      {passed : List Location} {links : Nat} {goal : Location} : IsLookedUp name →
      files.node? (name :: here) = some (.link target) →
      Way files solid (if target.startsWith "/" then [] else here) (pathNames target ++ rest)
        ⟨passed, links, goal⟩ →
      Way files solid here (name :: rest) ⟨here :: (name :: here) :: passed, links + 1, goal⟩

/-- What is at a location is still there, but a directory may have been created. -/
def Grown (before after : FileSystem) (place : Location) : Prop :=
  after.node? place = before.node? place
    ∨ before.node? place = none ∧ after.node? place = some .directory

variable {files after : FileSystem} {solid follow : Bool} {links : Nat} {here place : Location}
  {names first second : List String} {trail other : Trail}

namespace Way

theorem goal_mem (trail : Trail) : trail.goal ∈ trail.places := by
  simp [Trail.places]

theorem start_mem (way : files.Way solid here names trail) : here ∈ trail.places := by
  induction way with
  | stop => simp [Trail.places]
  | point _ ih => exact ih
  | up _ _ => simp [Trail.places]
  | down _ _ _ _ => simp [Trail.places]
  | through _ _ _ _ => simp [Trail.places]

/-- A way is one along its first names, and goes on from there. -/
theorem exists_of_append (way : files.Way solid here (first ++ second) trail) :
    ∃ begun later, files.Way solid here first begun ∧ files.Way solid begun.goal second later
      ∧ trail = begun.append later := by
  generalize whole : first ++ second = names at way
  induction way generalizing first with
  | stop =>
    obtain ⟨rfl, rfl⟩ := List.append_eq_nil_iff.1 whole
    exact ⟨_, _, stop, stop, rfl⟩
  | point onward ih =>
    cases first with
    | nil =>
      obtain rfl : second = _ := whole
      exact ⟨_, _, stop, point onward, by simp [Trail.append]⟩
    | cons name first =>
      obtain ⟨rfl, rfl⟩ := List.cons.inj whole
      obtain ⟨begun, later, before, behind, same⟩ := ih rfl
      exact ⟨begun, later, point before, behind, same⟩
  | up onward ih =>
    cases first with
    | nil =>
      obtain rfl : second = _ := whole
      exact ⟨_, _, stop, up onward, by simp [Trail.append]⟩
    | cons name first =>
      obtain ⟨rfl, rfl⟩ := List.cons.inj whole
      obtain ⟨begun, later, before, behind, same⟩ := ih rfl
      exact ⟨_, later, up before, behind, by simp_all [Trail.append]⟩
  | down looked there onward ih =>
    cases first with
    | nil =>
      obtain rfl : second = _ := whole
      exact ⟨_, _, stop, down looked there onward, by simp [Trail.append]⟩
    | cons name first =>
      obtain ⟨rfl, rfl⟩ := List.cons.inj whole
      obtain ⟨begun, later, before, behind, same⟩ := ih rfl
      exact ⟨_, later, down looked there before, behind, by simp_all [Trail.append]⟩
  | through looked there onward ih =>
    cases first with
    | nil =>
      obtain rfl : second = _ := whole
      exact ⟨_, _, stop, through looked there onward, by simp [Trail.append]⟩
    | cons name first =>
      obtain ⟨rfl, rfl⟩ := List.cons.inj whole
      obtain ⟨begun, later, before, behind, same⟩ := ih (List.append_assoc _ _ _)
      refine ⟨_, later, through looked there before, behind, ?_⟩
      simp only [Trail.append, Trail.mk.injEq] at same ⊢
      obtain ⟨rfl, rfl, rfl⟩ := same
      simp [Nat.add_right_comm]

/-- **Names lead along one way only.** -/
theorem eq {solid' : Bool} (way : files.Way solid here names trail)
    (second : files.Way solid' here names other) : trail = other := by
  induction way generalizing other with
  | stop => cases second; rfl
  | @point _ rest _ _ ih =>
    generalize whole : "." :: rest = names at second
    cases second with
    | stop => cases whole
    | point onward => exact ih ((List.cons.inj whole).2 ▸ onward)
    | up _ => exact absurd (List.cons.inj whole).1 (by decide)
    | down looked _ _ => exact absurd (List.cons.inj whole).1.symm looked.ne_point
    | through looked _ _ => exact absurd (List.cons.inj whole).1.symm looked.ne_point
  | @up _ rest _ _ _ _ ih =>
    generalize whole : ".." :: rest = names at second
    cases second with
    | stop => cases whole
    | point _ => exact absurd (List.cons.inj whole).1 (by decide)
    | up onward =>
      cases ih ((List.cons.inj whole).2 ▸ onward)
      rfl
    | down looked _ _ => exact absurd (List.cons.inj whole).1.symm looked.ne_points
    | through looked _ _ => exact absurd (List.cons.inj whole).1.symm looked.ne_points
  | down looked there _ ih =>
    cases second with
    | point _ => exact absurd rfl looked.ne_point
    | up _ => exact absurd rfl looked.ne_points
    | down _ _ onward =>
      cases ih onward
      rfl
    | through _ link _ => simp [link] at there
  | through looked link _ ih =>
    cases second with
    | point _ => exact absurd rfl looked.ne_point
    | up _ => exact absurd rfl looked.ne_points
    | down _ there _ => simp [link] at there
    | through _ same onward =>
      cases link.symm.trans same
      cases ih onward
      rfl

/-- A solid way could be created as well. -/
theorem weaken (way : files.Way true here names trail) : files.Way false here names trail := by
  induction way with
  | stop => exact stop
  | point _ ih => exact point ih
  | up _ ih => exact up ih
  | down looked there _ ih => exact down looked (Or.inl (there.resolve_right (by simp))) ih
  | through looked link _ ih => exact through looked link ih

/-- **New directories do not lead away** from a way. -/
theorem grow (way : files.Way solid here names trail)
    (grown : ∀ place ∈ trail.places, Grown files after place) :
    after.Way solid here names trail := by
  induction way with
  | stop => exact stop
  | point _ ih => exact point (ih grown)
  | up _ ih => exact up (ih fun place found => grown place (List.mem_cons_of_mem _ found))
  | down looked there onward ih =>
    refine down looked ?_ (ih fun place found => grown place (List.mem_cons_of_mem _ found))
    rcases grown _ (List.mem_cons_of_mem _ onward.start_mem) with same | ⟨-, created⟩
    · rwa [same]
    · exact Or.inl created
  | @through here name _ _ _ _ _ looked link onward ih =>
    refine through looked ?_ (ih fun place found =>
      grown place (List.mem_cons_of_mem _ (List.mem_cons_of_mem _ found)))
    rcases grown (name :: here) (by simp [Trail.places]) with same | ⟨missing, -⟩
    · rwa [same]
    · simp [link] at missing

/-! ## Points -/

/-- The names that are no points. -/
def pointless (names : List String) : List String := names.filter (· != ".")

theorem points {points : List String} (all : ∀ name ∈ points, name = ".")
    (way : files.Way solid here names trail) : files.Way solid here (points ++ names) trail := by
  induction points with
  | nil => exact way
  | cons name points ih =>
    obtain rfl := all _ List.mem_cons_self
    exact point (ih fun name found => all name (List.mem_cons_of_mem _ found))

/-- Names that have no points lead along the same way as with points between them. -/
theorem congr_points (way : files.Way solid here names trail) {names' : List String}
    (same : pointless names' = pointless names) : files.Way solid here names' trail := by
  have between {name : String} {rest names : List String} (real : name ≠ ".")
      (same : pointless names = pointless (name :: rest)) :
      ∃ points rest', names = points ++ name :: rest' ∧ (∀ name ∈ points, name = ".")
        ∧ pointless rest' = pointless rest := by
    have kept : pointless (name :: rest) = name :: pointless rest := by simp [pointless, real]
    obtain ⟨points, rest', split, all, -, same⟩ :=
      List.filter_eq_cons_iff.1 (same.trans kept)
    exact ⟨points, rest', split, fun name found => by simpa using all name found, same⟩
  induction way generalizing names' with
  | stop =>
    have all : ∀ name ∈ names', name = "." := by
      simpa [pointless] using same
    simpa using points all stop
  | point _ ih => exact ih (same.trans (by simp [pointless]))
  | up _ ih =>
    obtain ⟨before, rest', rfl, all, same⟩ := between (by decide) same
    exact points all (up (ih same))
  | down looked there _ ih =>
    obtain ⟨before, rest', rfl, all, same⟩ := between looked.ne_point same
    exact points all (down looked there (ih same))
  | through looked there _ ih =>
    obtain ⟨before, rest', rfl, all, same⟩ := between looked.ne_point same
    refine points all (through looked there (ih ?_))
    unfold pointless at same ⊢
    rw [List.filter_append, List.filter_append, same]

/-! ## Following a path -/

/-- **Following a path follows its solid way**, and goes on from there. -/
theorem walk_append (way : files.Way true here first trail) (enough : trail.links ≤ links)
    (onward : second ≠ [] ∨ follow = true) :
    files.walk follow links here (first ++ second)
      = files.walk follow (links - trail.links) trail.goal second := by
  induction way generalizing links with
  | stop => simp
  | point _ ih =>
    rw [List.cons_append, walk, if_pos rfl]
    exact ih enough
  | up _ ih =>
    rw [List.cons_append, walk, if_neg (by decide), if_pos rfl]
    exact ih enough
  | down looked there _ ih =>
    have found := there.resolve_right (by simp)
    rw [List.cons_append, walk, if_neg looked.ne_point, if_neg looked.ne_points,
      if_neg (Nat.not_lt.2 looked.short), found]
    exact ih enough
  | @through here name target rest _ _ _ looked found _ ih =>
    obtain ⟨links, rfl⟩ := Nat.exists_eq_add_of_le' (Nat.lt_of_lt_of_le (Nat.succ_pos _) enough)
    have going : ((rest ++ second).isEmpty && !follow) = false := by
      rcases onward with more | rfl
      · simp [more]
      · simp
    rw [List.cons_append, walk, if_neg looked.ne_point, if_neg looked.ne_points,
      if_neg (Nat.not_lt.2 looked.short), found]
    simp only [going, Bool.false_eq_true, if_false]
    rw [← List.append_assoc, ih (Nat.le_of_succ_le_succ enough), Nat.add_sub_add_right]

end Way

/-- **What leads to a directory has a solid way**, and what leads to nothing has one that could be
created. -/
theorem exists_way_of_walk (ended : files.walk follow links here names = .ok place)
    (goal : files.node? place = some .directory ∨ solid = false ∧ files.node? place = none) :
    ∃ trail, files.Way solid here names trail ∧ trail.links ≤ links ∧ trail.goal = place := by
  fun_induction walk files follow links here names with
  | case1 links here =>
    cases ended
    exact ⟨_, .stop, Nat.zero_le _, rfl⟩
  | case2 links here rest ih =>
    obtain ⟨trail, way, enough, rfl⟩ := ih ended
    exact ⟨trail, .point way, enough, rfl⟩
  | case3 links here rest _ ih =>
    obtain ⟨trail, way, enough, rfl⟩ := ih ended
    exact ⟨_, .up way, enough, rfl⟩
  | case5 links here name rest point points short missing last =>
    obtain rfl := List.isEmpty_iff.1 last
    cases ended
    exact ⟨_, .down ⟨point, points, Nat.not_lt.1 short⟩ goal .stop, Nat.zero_le _, rfl⟩
  | case7 links here name rest point points short found ih =>
    obtain ⟨trail, way, enough, rfl⟩ := ih ended
    exact ⟨_, .down ⟨point, points, Nat.not_lt.1 short⟩ (Or.inl found) way, enough, rfl⟩
  | case8 links here name rest point points short contents found last =>
    cases ended
    simp [found] at goal
  | case10 links here name rest point points short target found last =>
    cases ended
    simp [found] at goal
  | case12 here name rest point points short target found last links ih =>
    obtain ⟨trail, way, enough, rfl⟩ := ih ended
    exact ⟨_, .through ⟨point, points, Nat.not_lt.1 short⟩ found way, Nat.succ_le_succ enough, rfl⟩
  | _ => cases ended

/-- **What is followed to its end** has a solid way along its first names. -/
theorem exists_way_of_walk_append (ended : files.walk follow links here (first ++ second) = .ok place)
    (more : second ≠ []) :
    ∃ trail, files.Way true here first trail ∧ trail.links ≤ links := by
  generalize whole : first ++ second = names at ended
  have last {name : String} {rest first : List String} (whole : first ++ second = name :: rest)
      (last : rest.isEmpty = true) : first = [] := by
    obtain rfl := List.isEmpty_iff.1 last
    cases first with
    | nil => rfl
    | cons _ first => simp_all
  fun_induction walk files follow links here names generalizing first with
  | case1 links here =>
    exact absurd (List.append_eq_nil_iff.1 whole).2 more
  | case2 links here rest ih =>
    cases first with
    | nil => exact ⟨_, .stop, Nat.zero_le _⟩
    | cons name first =>
      obtain ⟨rfl, rfl⟩ := List.cons.inj whole
      obtain ⟨trail, way, enough⟩ := ih rfl ended
      exact ⟨trail, .point way, enough⟩
  | case3 links here rest _ ih =>
    cases first with
    | nil => exact ⟨_, .stop, Nat.zero_le _⟩
    | cons name first =>
      obtain ⟨rfl, rfl⟩ := List.cons.inj whole
      obtain ⟨trail, way, enough⟩ := ih rfl ended
      exact ⟨_, .up way, enough⟩
  | case5 _ _ _ _ _ _ _ _ empty | case8 _ _ _ _ _ _ _ _ _ empty =>
    obtain rfl := last whole empty
    exact ⟨_, .stop, Nat.zero_le _⟩
  | case10 links here name rest _ _ _ target _ stays =>
    obtain rfl := last whole (Bool.and_eq_true_iff.1 stays).1
    exact ⟨_, .stop, Nat.zero_le _⟩
  | case7 links here name rest point points short found ih =>
    cases first with
    | nil => exact ⟨_, .stop, Nat.zero_le _⟩
    | cons name first =>
      obtain ⟨rfl, rfl⟩ := List.cons.inj whole
      obtain ⟨trail, way, enough⟩ := ih rfl ended
      exact ⟨_, .down ⟨point, points, Nat.not_lt.1 short⟩ (Or.inl found) way, enough⟩
  | case12 here name rest point points short target found last links ih =>
    cases first with
    | nil => exact ⟨_, .stop, Nat.zero_le _⟩
    | cons name first =>
      obtain ⟨rfl, rfl⟩ := List.cons.inj whole
      obtain ⟨trail, way, enough⟩ := ih (List.append_assoc _ _ _) ended
      exact ⟨_, .through ⟨point, points, Nat.not_lt.1 short⟩ found way, Nat.succ_le_succ enough⟩
  | _ => cases ended

end FileSystem
end Cartridge
