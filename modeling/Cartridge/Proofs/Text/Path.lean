import Mathlib.Data.List.Basic
import Cartridge.Text.FilePath

/-!
# Paths and their names

A path is text, and its names stand between the separators. What is made from the text of a path
(the path of a file in a directory, the path of the directory that something is in) is told here by
the names.

* `names_join`: the path of a file leads through the directory's names to the file's name.
* `steps_trimmed`: blanks at the end of a path lead nowhere.
* `leads_of_mem_parts`, `leads_of_parent`: the way to the directories that a path leads through is a
  beginning of its way.
-/

namespace Cartridge.FilePath

/-! ## Pieces -/

/-- A name that a file in a directory can have. -/
structure IsPlain (name : String) : Prop where
  nonempty : name ≠ ""
  ne_point : name ≠ "."
  ne_points : name ≠ ".."
  separator_not_mem : '/' ∉ name.toList

theorem pieces_of_not_mem {text : String} (whole : '/' ∉ text.toList) : pieces text = [text] := by
  simp [pieces, List.splitOn_eq_singleton whole]

@[simp] theorem pieces_empty : pieces "" = [""] := pieces_of_not_mem (by simp)

/-- A separator tells the pieces before it from those behind it. -/
theorem pieces_append (before behind : String) :
    pieces (before ++ "/" ++ behind) = pieces before ++ pieces behind := by
  have text : (before ++ "/" ++ behind).toList = before.toList ++ '/' :: behind.toList := by simp
  rw [pieces, text, List.splitOn_append_cons_self, List.map_append, pieces, pieces]

theorem not_mem_of_mem_splitOn {separator : Char} {text piece : List Char}
    (found : piece ∈ text.splitOn separator) : separator ∉ piece := by
  induction text generalizing piece with
  | nil =>
    rw [List.splitOn_nil, List.mem_singleton] at found
    simp [found]
  | cons first text ih =>
    rw [List.splitOn_cons_eq_if_modifyHead] at found
    split at found
    · rcases List.mem_cons.1 found with rfl | later
      · simp
      · exact ih later
    · next other =>
      obtain ⟨head, tail, whole⟩ := List.exists_cons_of_ne_nil (List.splitOn_ne_nil separator text)
      rw [whole, List.modifyHead_cons] at found
      rw [whole] at ih
      rcases List.mem_cons.1 found with rfl | later
      · rw [List.mem_cons, not_or]
        exact ⟨fun same => other (by simp [same]), ih List.mem_cons_self⟩
      · exact ih (List.mem_cons_of_mem _ later)

theorem not_mem_of_mem_pieces {path piece : String} (found : piece ∈ pieces path) :
    '/' ∉ piece.toList := by
  obtain ⟨characters, among, rfl⟩ := List.mem_map.1 found
  rw [String.toList_ofList]
  exact not_mem_of_mem_splitOn among

/-- The pieces of a path with the separators behind them. -/
def joined (pieces : List String) : String := String.join (pieces.map (· ++ "/"))

@[simp] theorem joined_nil : joined [] = "" := rfl

theorem joined_cons (piece : String) (pieces : List String) :
    joined (piece :: pieces) = piece ++ "/" ++ joined pieces := by
  simp [joined]

/-- A path is the text up to a piece, the piece, and something. -/
theorem exists_of_pieces_eq {path part : String} {earlier later : List String}
    (whole : pieces path = earlier ++ part :: later) :
    ∃ rest, path = joined earlier ++ part ++ rest := by
  suffices split : ∀ {text : List Char} {before : List (List Char)} {piece : List Char}
      {behind : List (List Char)}, ['/'].intercalate (before ++ piece :: behind) = text →
      ∃ rest, text = (joined (before.map String.ofList)).toList ++ piece ++ rest by
    obtain ⟨before, last, pieces, rfl, found⟩ := List.map_eq_append_iff.1 whole
    obtain ⟨piece, behind, rfl, rfl, rfl⟩ := List.map_eq_cons_iff.1 found
    obtain ⟨rest, text⟩ := split ((congrArg _ pieces.symm).trans (List.intercalate_splitOn '/'))
    exact ⟨String.ofList rest, String.toList_inj.1 (by simp [text])⟩
  rintro text before piece behind rfl
  induction before with
  | nil =>
    cases behind with
    | nil => exact ⟨[], by simp⟩
    | cons next behind =>
      exact ⟨'/' :: ['/'].intercalate (next :: behind), by simp [List.intercalate_cons_cons]⟩
  | cons first before ih =>
    obtain ⟨rest, text⟩ := ih
    obtain ⟨next, others, split⟩ :
        ∃ next others, before ++ piece :: behind = next :: others := by
      cases before <;> simp
    refine ⟨rest, ?_⟩
    rw [List.cons_append, split, List.intercalate_cons_cons, ← split, text]
    simp [joined_cons]

/-! ## Names -/

theorem names_append (before behind : String) :
    names (before ++ "/" ++ behind) = names before ++ names behind := by
  simp [names, pieces_append]

@[simp] theorem names_empty : names "" = [] := by simp [names]

theorem names_of_isPlain {name : String} (plain : IsPlain name) : names name = [name] := by
  simp [names, pieces_of_not_mem plain.separator_not_mem, plain.nonempty]

/-- Separators at the end of a path lead nowhere. -/
theorem names_slashes (path : String) {slashes : List Char} (all : ∀ c ∈ slashes, c = '/') :
    names (path ++ String.ofList slashes) = names path := by
  induction slashes generalizing path with
  | nil => simp
  | cons first slashes ih =>
    obtain rfl := all _ List.mem_cons_self
    have text : path ++ String.ofList ('/' :: slashes)
        = (path ++ "/" ++ "") ++ String.ofList slashes := String.toList_inj.1 (by simp)
    rw [text, ih _ fun c found => all c (List.mem_cons_of_mem _ found), names_append, names_empty,
      List.append_nil]

theorem endsWith_iff (path : String) : path.endsWith "/" = true ↔ ['/'] <:+ path.toList := by
  rw [← String.endsWith_toSlice, String.Slice.endsWith_string_iff, String.copy_toSlice]
  rfl

theorem isAbsolute_iff (path : String) : isAbsolute path = true ↔ ['/'] <+: path.toList := by
  rw [isAbsolute, String.startsWith_string_iff]
  rfl

theorem isAbsolute_of_isPlain {name : String} (plain : IsPlain name) :
    isAbsolute name = false := by
  rw [Bool.eq_false_iff, ne_eq, isAbsolute_iff]
  intro leading
  exact plain.separator_not_mem (leading.subset List.mem_cons_self)

/-- **A file in a directory** is called by its name behind the names of the directory. -/
theorem names_join {directory name : String} (given : directory ≠ "") (plain : IsPlain name) :
    names (join directory name) = names directory ++ [name] := by
  have relative : isAbsolute name = false := isAbsolute_of_isPlain plain
  have notEmpty : directory.isEmpty = false := by
    rw [Bool.eq_false_iff, ne_eq, String.isEmpty_iff]
    exact given
  rw [join, relative, notEmpty]
  by_cases slashed : directory.endsWith "/" = true
  · obtain ⟨text, split⟩ := (endsWith_iff directory).1 slashed
    have whole : directory = String.ofList text ++ "/" ++ "" :=
      String.toList_inj.1 (by simp [← split])
    have longer : directory ++ name = String.ofList text ++ "/" ++ name := by
      rw [whole, String.append_empty]
    have same : names directory = names (String.ofList text) := by
      rw [whole, names_append, names_empty, List.append_nil]
    simp only [slashed, Bool.false_eq_true, if_false, Bool.or_true, if_true]
    rw [longer, names_append, names_of_isPlain plain, same]
  · simp only [slashed, Bool.false_eq_true, if_false, Bool.or_false]
    rw [names_append, names_of_isPlain plain]

theorem exists_append_eq_join (directory name : String) :
    ∃ front, join directory name = front ++ name := by
  unfold join
  split
  · exact ⟨"", by simp⟩
  · split
    · exact ⟨directory, rfl⟩
    · exact ⟨directory ++ "/", rfl⟩

/-- No separator follows the name of a file. -/
theorem endsWith_join (directory : String) {name : String} (plain : IsPlain name) :
    (join directory name).endsWith "/" = false := by
  obtain ⟨front, text⟩ := exists_append_eq_join directory name
  rw [Bool.eq_false_iff, ne_eq, endsWith_iff, text, String.toList_append]
  intro slashed
  have given : name.toList ≠ [] := mt String.toList_eq_nil_iff.1 plain.nonempty
  have last : (front.toList ++ name.toList).getLast? = some '/' := by
    obtain ⟨rest, whole⟩ := slashed
    simp [← whole]
  rw [List.getLast?_append_of_ne_nil _ given] at last
  exact plain.separator_not_mem (List.mem_of_getLast? last)

/-- The text up to a piece has the names before that piece. -/
theorem names_joined_append {pieces : List String} (whole : ∀ piece ∈ pieces, '/' ∉ piece.toList)
    (behind : String) :
    names (joined pieces ++ behind) = (pieces.filter fun name => !name.isEmpty) ++ names behind := by
  induction pieces with
  | nil => simp
  | cons piece pieces ih =>
    have text : joined (piece :: pieces) ++ behind = piece ++ "/" ++ (joined pieces ++ behind) := by
      rw [joined_cons, String.append_assoc]
    rw [text, names_append, ih fun other found => whole other (List.mem_cons_of_mem _ found), names,
      pieces_of_not_mem (whole piece List.mem_cons_self), ← List.append_assoc, ← List.filter_append]
    rfl

theorem names_joined {pieces : List String} (whole : ∀ piece ∈ pieces, '/' ∉ piece.toList) :
    names (joined pieces) = pieces.filter fun name => !name.isEmpty := by
  have behind := names_joined_append whole ""
  rwa [String.append_empty, names_empty, List.append_nil] at behind

theorem names_of_pieces_eq {path part : String} {earlier later : List String}
    (whole : pieces path = earlier ++ part :: later) (given : part ≠ "") :
    names path = (earlier.filter fun name => !name.isEmpty) ++ [part]
      ++ later.filter fun name => !name.isEmpty := by
  simp [names, whole, given]

/-- The names of a path that lead somewhere. -/
def steps (path : String) : List String := (names path).filter (· != ".")

@[simp] theorem steps_empty : steps "" = [] := by simp [steps]

/-! ## Parts -/

/-- A piece that is no part of a path behind its beginning. -/
def IsBlank (piece : String) : Prop := piece = "" ∨ piece = "."

/-- A part is a piece, and the text before it is that of the pieces before it. -/
theorem exists_of_mem_partsAfter {before text part : String} {left : List String}
    (found : (text, part) ∈ partsAfter before left) :
    ∃ earlier later, left = earlier ++ part :: later ∧ text = before ++ joined earlier := by
  induction left generalizing before with
  | nil => simp [partsAfter] at found
  | cons piece left ih =>
    rw [partsAfter] at found
    have deeper (found : (text, part) ∈ partsAfter (before ++ piece ++ "/") left) :
        ∃ earlier later,
          piece :: left = earlier ++ part :: later ∧ text = before ++ joined earlier := by
      obtain ⟨earlier, later, rfl, rfl⟩ := ih found
      exact ⟨piece :: earlier, later, rfl, by rw [joined_cons]; simp [String.append_assoc]⟩
    split at found
    · exact deeper found
    · rcases List.mem_cons.1 found with head | found
      · obtain ⟨rfl, rfl⟩ := Prod.mk.inj head
        exact ⟨[], left, rfl, by simp⟩
      · exact deeper found

theorem blank_of_partsAfter_eq_nil {before : String} {left : List String}
    (none : partsAfter before left = []) : ∀ piece ∈ left, IsBlank piece := by
  induction left generalizing before with
  | nil => simp
  | cons piece left ih =>
    rw [partsAfter] at none
    split at none
    · next skipped =>
      simp only [Bool.or_eq_true, String.isEmpty_iff, Bool.and_eq_true, beq_iff_eq] at skipped
      intro other found
      rcases List.mem_cons.1 found with rfl | found
      · exact skipped.imp id And.left
      · exact ih none other found
    · cases none

/-- What is left of a path behind its last part is blank. -/
theorem exists_of_getLast?_partsAfter {before text part : String} {left : List String}
    (last : (partsAfter before left).getLast? = some (text, part)) :
    ∃ earlier later, left = earlier ++ part :: later ∧ text = before ++ joined earlier
      ∧ part ≠ "" ∧ ∀ piece ∈ later, IsBlank piece := by
  induction left generalizing before with
  | nil => simp [partsAfter] at last
  | cons piece left ih =>
    have deeper (last : (partsAfter (before ++ piece ++ "/") left).getLast? = some (text, part)) :
        ∃ earlier later, piece :: left = earlier ++ part :: later
          ∧ text = before ++ joined earlier ∧ part ≠ "" ∧ ∀ piece ∈ later, IsBlank piece := by
      obtain ⟨earlier, later, rfl, rfl, given, blank⟩ := ih last
      refine ⟨piece :: earlier, later, rfl, ?_, given, blank⟩
      rw [joined_cons]
      simp [String.append_assoc]
    rw [partsAfter] at last
    split at last
    · exact deeper last
    · next kept =>
      cases found : partsAfter (before ++ piece ++ "/") left with
      | nil =>
        rw [found, List.getLast?_singleton, Option.some.injEq, Prod.mk.injEq] at last
        obtain ⟨rfl, rfl⟩ := last
        refine ⟨[], left, rfl, by simp, ?_, blank_of_partsAfter_eq_nil found⟩
        rintro rfl
        simp at kept
      | cons entry entries =>
        rw [found, List.getLast?_cons_cons, ← found] at last
        exact deeper last

/-- Blank pieces have no names, unless that is a point. -/
theorem eq_point_of_blank {pieces : List String} (blank : ∀ piece ∈ pieces, IsBlank piece)
    {name : String} (found : name ∈ pieces.filter fun name => !name.isEmpty) : name = "." := by
  obtain ⟨among, given⟩ := List.mem_filter.1 found
  rcases blank name among with rfl | rfl
  · simp at given
  · rfl

theorem filter_blank {pieces : List String} (blank : ∀ piece ∈ pieces, IsBlank piece) :
    (pieces.filter fun name => !name.isEmpty).filter (· != ".") = [] := by
  rw [List.filter_eq_nil_iff]
  intro name found
  simp [eq_point_of_blank blank found]

/-! ## The directories that a path leads through -/

/-- A beginning of a path starts where the path starts. -/
theorem isAbsolute_append {path : String} (given : path ≠ "") (rest : String) :
    isAbsolute (path ++ rest) = isAbsolute path := by
  rw [Bool.eq_iff_iff, isAbsolute_iff, isAbsolute_iff, String.toList_append]
  obtain ⟨first, text, split⟩ := List.exists_cons_of_ne_nil (mt String.toList_eq_nil_iff.1 given)
  simp [split]

/-- A file in a directory is called from where the directory is. -/
theorem isAbsolute_join {directory name : String} (given : directory ≠ "") (plain : IsPlain name) :
    isAbsolute (join directory name) = isAbsolute directory := by
  have relative : isAbsolute name = false := isAbsolute_of_isPlain plain
  unfold join
  rw [relative, if_neg Bool.false_ne_true]
  split
  · exact isAbsolute_append given name
  · rw [String.append_assoc]
    exact isAbsolute_append given _

theorem mem_join {directory name : String} {c : Char} (found : c ∈ (join directory name).toList) :
    c ∈ directory.toList ∨ c = '/' ∨ c ∈ name.toList := by
  unfold join at found
  split at found
  · exact Or.inr (Or.inr found)
  · split at found
    · rw [String.toList_append, List.mem_append] at found
      exact found.imp id Or.inr
    · rw [String.toList_append, String.toList_append, List.mem_append, List.mem_append] at found
      rcases found with (before | separator) | behind
      · exact Or.inl before
      · exact Or.inr (Or.inl (List.mem_singleton.1 separator))
      · exact Or.inr (Or.inr behind)

theorem mem_join_of_mem {name : String} {c : Char} (directory : String) (found : c ∈ name.toList) :
    c ∈ (join directory name).toList := by
  obtain ⟨front, text⟩ := exists_append_eq_join directory name
  simp [text, found]

/-- A path that leads from where another one starts through some names. -/
def Leads (path shorter : String) (way : List String) : Prop :=
  shorter = "" ∨ isAbsolute shorter = isAbsolute path ∧ steps shorter = way

/-- **Separators and points at the end of a path** lead nowhere. -/
theorem leads_trimmed (path : String) : Leads path (trimmed path) (steps path) := by
  rw [trimmed, parts]
  cases found : (partsAfter "" (pieces path)).getLast? with
  | none =>
    have blank := blank_of_partsAfter_eq_nil (List.getLast?_eq_none_iff.1 found)
    cases absolute : isAbsolute path
    · exact Or.inl rfl
    · refine Or.inr ⟨?_, ?_⟩
      · rw [absolute]
        exact (isAbsolute_iff "/").2 (List.prefix_refl _)
      · rw [steps, steps, names, names, filter_blank blank]
        decide
  | some entry =>
    obtain ⟨text, part⟩ := entry
    obtain ⟨earlier, later, whole, rfl, given, blank⟩ := exists_of_getLast?_partsAfter found
    obtain ⟨rest, text⟩ := exists_of_pieces_eq whole
    have plain (piece : String) (found : piece ∈ earlier ++ part :: later) :
        '/' ∉ piece.toList := not_mem_of_mem_pieces (whole ▸ found)
    rw [String.empty_append]
    refine Or.inr ⟨?_, ?_⟩
    · conv_rhs => rw [text]
      refine (isAbsolute_append ?_ rest).symm
      simp [given]
    · have first (piece : String) (found : piece ∈ earlier) : '/' ∉ piece.toList :=
        plain piece (List.mem_append_left _ found)
      rw [steps, names_joined_append first, names, pieces_of_not_mem (plain part (by simp)),
        steps, names_of_pieces_eq whole given]
      simp only [List.filter_append, filter_blank blank, List.append_nil]
      simp [given]

/-- The way to the directory that a part is in is the way through the pieces before that part. -/
theorem leads_before {path part : String} {earlier later : List String}
    (whole : pieces path = earlier ++ part :: later) :
    Leads path (trimmed (joined earlier))
      ((earlier.filter fun name => !name.isEmpty).filter (· != ".")) := by
  obtain ⟨rest, text⟩ := exists_of_pieces_eq whole
  have plain (piece : String) (found : piece ∈ earlier) : '/' ∉ piece.toList :=
    not_mem_of_mem_pieces (whole ▸ List.mem_append_left _ found)
  by_cases given : joined earlier = ""
  · rw [given]
    exact Or.inl (by decide)
  · rcases leads_trimmed (joined earlier) with none | ⟨absolute, way⟩
    · exact Or.inl none
    · refine Or.inr ⟨?_, ?_⟩
      · rw [absolute, text, String.append_assoc, isAbsolute_append given]
      · rw [way, steps, names_joined plain]

/-- **Every directory that a path leads through** is on the way. -/
theorem leads_of_mem_parts {path text part : String} (found : (text, part) ∈ parts path) :
    ∃ way, way <+: steps path ∧ Leads path (trimmed text) way := by
  obtain ⟨earlier, later, whole, rfl⟩ := exists_of_mem_partsAfter found
  rw [String.empty_append]
  refine ⟨_, ?_, leads_before whole⟩
  simp [steps, names, whole]

/-- A point is a part of a path at its beginning only. -/
theorem eq_empty_of_point_mem {before text : String} {left : List String}
    (found : (text, ".") ∈ partsAfter before left) : text = "" := by
  induction left generalizing before with
  | nil => cases found
  | cons piece left ih =>
    unfold partsAfter at found
    dsimp only at found
    split at found
    · exact ih found
    next real =>
      rcases List.mem_cons.1 found with same | later
      · obtain ⟨rfl, rfl⟩ := Prod.mk.inj same
        simpa using real
      · exact ih later

/-- **The directory that a path is in** is where the steps before the last one lead. -/
theorem leads_of_parent {path parent : String} (found : parent? path = some parent) :
    Leads path parent (steps path).dropLast := by
  unfold parent? parts at found
  split at found
  · next text part last =>
    cases found
    by_cases point : part = "."
    · subst point
      obtain rfl := eq_empty_of_point_mem (List.mem_of_getLast? last)
      exact Or.inl (by decide)
    · obtain ⟨earlier, later, whole, rfl, given, blank⟩ := exists_of_getLast?_partsAfter last
      have split : steps path
          = ((earlier.filter fun name => !name.isEmpty).filter (· != ".")) ++ [part] := by
        simp [steps, names_of_pieces_eq whole given, filter_blank blank, point]
      rw [split, List.dropLast_concat, String.empty_append]
      exact leads_before whole
  · cases found

/-- **What has a name of its own is in a directory**, and the names before lead there. -/
theorem leads_parent {path name : String} {before : List String}
    (last : names path = before ++ [name]) (real : name ≠ ".") :
    ∃ parent, parent? path = some parent ∧ Leads path parent (before.filter (· != ".")) := by
  have among : name ∈ names path := by simp [last]
  have whole : steps path = before.filter (· != ".") ++ [name] := by simp [steps, last, real]
  cases found : parent? path with
  | none =>
    unfold parent? parts at found
    split at found
    · cases found
    · next none =>
      have blank := blank_of_partsAfter_eq_nil (List.getLast?_eq_none_iff.1 none)
      exact absurd (eq_point_of_blank blank among) real
  | some parent =>
    have leads := leads_of_parent found
    rw [whole, List.dropLast_concat] at leads
    exact ⟨parent, rfl, leads⟩

end Cartridge.FilePath
