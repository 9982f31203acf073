import Mathlib.Data.List.Infix
import Mathlib.Data.List.Lex
import Cartridge.Proofs.Source.Numeral
import Cartridge.Script.Node

/-!
# Where the events of a script stand

The path of an event leads to it, step by step from the script downwards, and is told by its text.
Paths are ordered as the events stand in the text: an event before what is below it, the first branch
of a conditional before the second one, and the events of a list in their order.

* `Event.follow?`: where a path leads, and what it leads through.
* `NodePath.Precedes`: the order of paths.
* `Event.blocks_induction`: induction on the lists of events below an event.
* `Event.scriptSpots`: all events of a script.
* `Event.mem_scriptSpots_iff`: they are those that paths lead to.
* `Event.pairwise_scriptSpots`: they are in the order of their paths.
* `NodePath.ofText?_text`: the text of a path is read as the path.
-/

namespace Cartridge

/-! ### Following paths -/

/-- An event of a script, where it stands, and the events that it stands in, the innermost first. -/
structure Spot where
  path : NodePath
  around : List Event
  event : Event

namespace Event

/-- Whether an event is a loop. -/
def isLoop : Event → Bool
  | loopWhile .. | loopForever _ => true
  | _ => false

/-- The lists of events below an event, in the order of the text, with the steps into each. -/
def blocks : Event → List ((Nat → Descent) × List Event)
  | ifFlag _ whenTrue whenFalse | ifVariable _ _ _ whenTrue whenFalse =>
    [(.whenTrue, whenTrue), (.whenFalse, whenFalse)]
  | loopWhile _ _ _ body | loopForever body => [(.body, body)]
  | _ => []

/-- The event that is one step below another one. -/
def child? : Event → Descent → Option Event
  | ifFlag _ whenTrue _, .whenTrue index | ifVariable _ _ _ whenTrue _, .whenTrue index =>
    whenTrue[index]?
  | ifFlag _ _ whenFalse, .whenFalse index | ifVariable _ _ _ _ whenFalse, .whenFalse index =>
    whenFalse[index]?
  | loopWhile _ _ _ body, .body index | loopForever body, .body index => body[index]?
  | _, _ => none

/-- **Where a path leads**, step by step from the script downwards. -/
def follow? (body : List Event) : NodePath → Option Spot
  | [] => none
  | [.item index] => body[index]?.map fun event => ⟨[.item index], [], event⟩
  | [_] => none
  | step :: next :: path => do
    let above ← follow? body (next :: path)
    let event ← above.event.child? step
    return ⟨step :: next :: path, above.event :: above.around, event⟩

variable {body : List Event} {path : NodePath} {spot : Spot} {step : Descent} {event : Event}

theorem path_of_follow? (leads : follow? body path = some spot) : spot.path = path := by
  unfold follow? at leads
  split at leads
  · cases leads
  · obtain ⟨event, _, rfl⟩ := Option.map_eq_some_iff.1 leads
    rfl
  · cases leads
  · obtain ⟨above, _, leads⟩ := Option.bind_eq_some_iff.1 leads
    obtain ⟨event, _, leads⟩ := Option.bind_eq_some_iff.1 leads
    cases leads
    rfl

/-- One step more leads to an event below. -/
theorem follow?_child (leads : follow? body path = some spot)
    (below : spot.event.child? step = some event) :
    follow? body (step :: path) = some ⟨step :: path, spot.event :: spot.around, event⟩ := by
  cases path with
  | nil => cases leads
  | cons next path => simp [follow?, leads, below]

/-- A path leads to an event of the script itself, or on from the path before its last step. -/
theorem follow?_cases (leads : follow? body path = some spot) :
    (∃ index event, body[index]? = some event ∧ spot = ⟨[.item index], [], event⟩)
      ∨ ∃ step above path' event, path = step :: path' ∧ follow? body path' = some above
        ∧ above.event.child? step = some event
        ∧ spot = ⟨step :: above.path, above.event :: above.around, event⟩ := by
  unfold follow? at leads
  split at leads
  · cases leads
  · obtain ⟨event, found, rfl⟩ := Option.map_eq_some_iff.1 leads
    exact .inl ⟨_, event, found, rfl⟩
  · cases leads
  · obtain ⟨above, before, leads⟩ := Option.bind_eq_some_iff.1 leads
    obtain ⟨event, below, leads⟩ := Option.bind_eq_some_iff.1 leads
    cases leads
    exact .inr ⟨_, above, _, event, rfl, before, below, by rw [path_of_follow? before]⟩

end Event

/-! ### The order of the text -/

/-- **Which steps come first**: those to earlier events of a list, and those to the first branch. -/
inductive Descent.Before : Descent → Descent → Prop where
  | item {index other : Nat} (less : index < other) : Before (item index) (item other)
  | whenTrue {index other : Nat} (less : index < other) : Before (whenTrue index) (whenTrue other)
  | branches (index other : Nat) : Before (whenTrue index) (whenFalse other)
  | whenFalse {index other : Nat} (less : index < other) :
    Before (whenFalse index) (whenFalse other)
  | body {index other : Nat} (less : index < other) : Before (body index) (body other)

instance : Std.Asymm Descent.Before where
  asymm := fun _ _ before after => by
    cases before <;> cases after <;> omega

namespace NodePath

/-- **Whether a path comes before another one** in the text: step by step from the script downwards,
an event before all below it. -/
def Precedes (path other : NodePath) : Prop := List.Lex Descent.Before path.reverse other.reverse

variable {path first second : NodePath} {step other : Descent}

theorem Precedes.asymm (before : first.Precedes second) : ¬ second.Precedes first :=
  Std.Asymm.asymm (r := List.Lex Descent.Before) _ _ before

/-- An event comes before all below it. -/
theorem precedes_of_suffix (below : step :: path <:+ first) : Precedes path first := by
  obtain ⟨more, rfl⟩ := below
  have shorter : List.Lex Descent.Before (path.reverse ++ [])
      (path.reverse ++ step :: more.reverse) := .append_left _ .nil path.reverse
  simpa [Precedes] using shorter

/-- Where paths part, the earlier step decides. -/
theorem precedes_of_before (before : step.Before other) (one : step :: path <:+ first)
    (another : other :: path <:+ second) : Precedes first second := by
  obtain ⟨more, rfl⟩ := one
  obtain ⟨others, rfl⟩ := another
  have parted : List.Lex Descent.Before (path.reverse ++ step :: more.reverse)
      (path.reverse ++ other :: others.reverse) := .append_left _ (.rel before) path.reverse
  simpa [Precedes] using parted

end NodePath

/-! ### All events of a tree -/

namespace Event

mutual

/-- An event at a path and all below it, in the order of the text. -/
def spots (path : NodePath) (around : List Event) : Event → List Spot
  | ifFlag name whenTrue whenFalse =>
    ⟨path, around, ifFlag name whenTrue whenFalse⟩
      :: (blockSpots path (ifFlag name whenTrue whenFalse :: around) .whenTrue 0 whenTrue
        ++ blockSpots path (ifFlag name whenTrue whenFalse :: around) .whenFalse 0 whenFalse)
  | ifVariable name comparison value whenTrue whenFalse =>
    ⟨path, around, ifVariable name comparison value whenTrue whenFalse⟩
      :: (blockSpots path (ifVariable name comparison value whenTrue whenFalse :: around)
          .whenTrue 0 whenTrue
        ++ blockSpots path (ifVariable name comparison value whenTrue whenFalse :: around)
          .whenFalse 0 whenFalse)
  | loopWhile name comparison value body =>
    ⟨path, around, loopWhile name comparison value body⟩
      :: blockSpots path (loopWhile name comparison value body :: around) .body 0 body
  | loopForever body =>
    ⟨path, around, loopForever body⟩
      :: blockSpots path (loopForever body :: around) .body 0 body
  | event => [⟨path, around, event⟩]

/-- The events of a list that hangs below a node, counted from `first`, and all below them. -/
def blockSpots (path : NodePath) (around : List Event) (descend : Nat → Descent) (first : Nat) :
    List Event → List Spot
  | [] => []
  | event :: events =>
    spots (descend first :: path) around event
      ++ blockSpots path around descend (first + 1) events

end

/-- All events of a script, in the order of the text. -/
def scriptSpots (body : List Event) : List Spot := blockSpots [] [] .item 0 body

/-- What is below an event is smaller. -/
theorem sizeOf_lt_of_mem_blocks {event : Event} {block : (Nat → Descent) × List Event}
    (below : block ∈ event.blocks) : sizeOf block.2 < sizeOf event := by
  cases event <;> simp only [blocks, List.mem_cons, List.not_mem_nil, or_false] at below
  case ifFlag | ifVariable =>
    rcases below with rfl | rfl
    all_goals
      simp only [ifFlag.sizeOf_spec, ifVariable.sizeOf_spec]
      omega
  case loopWhile | loopForever =>
    subst below
    simp only [loopWhile.sizeOf_spec, loopForever.sizeOf_spec]
    omega

/-- **Induction on event trees**: a list of events, with all lists below its first one. -/
@[elab_as_elim]
theorem blocks_induction {motive : List Event → Prop} (nil : motive [])
    (cons : ∀ event events, (∀ block ∈ event.blocks, motive block.2) → motive events →
      motive (event :: events)) (events : List Event) : motive events := by
  induction size : sizeOf events using Nat.strongRecOn generalizing events with
  | ind size ih =>
    cases events with
    | nil => exact nil
    | cons event events =>
      rw [List.cons.sizeOf_spec] at size
      refine cons event events (fun block below => ?_) (ih _ (by omega) events rfl)
      have smaller := sizeOf_lt_of_mem_blocks below
      exact ih _ (by omega) block.2 rfl

variable {body : List Event} {path : NodePath} {around : List Event} {descend : Nat → Descent}
  {first : Nat} {event child : Event} {events : List Event} {spot : Spot} {step : Descent}

theorem spots_eq (path : NodePath) (around : List Event) (event : Event) :
    event.spots path around
      = ⟨path, around, event⟩
        :: event.blocks.flatMap fun block => blockSpots path (event :: around) block.1 0 block.2 := by
  cases event <;> simp [spots, blocks]

theorem child?_eq_some_iff : event.child? step = some child
    ↔ ∃ block ∈ event.blocks, ∃ index, step = block.1 index ∧ block.2[index]? = some child := by
  cases event <;> cases step <;> simp [child?, blocks]

theorem mem_spots_iff : spot ∈ event.spots path around
    ↔ spot = ⟨path, around, event⟩
      ∨ ∃ block ∈ event.blocks, spot ∈ blockSpots path (event :: around) block.1 0 block.2 := by
  rw [spots_eq, List.mem_cons, List.mem_flatMap]

theorem mem_blockSpots_of_getElem? {index : Nat} (found : events[index]? = some event)
    (member : spot ∈ event.spots (descend (first + index) :: path) around) :
    spot ∈ blockSpots path around descend first events := by
  induction events generalizing first index with
  | nil => cases found
  | cons head events ih =>
    rw [blockSpots, List.mem_append]
    cases index with
    | zero =>
      cases found
      exact .inl member
    | succ index =>
      rw [Nat.add_succ, ← Nat.succ_add] at member
      exact .inr (ih found member)

/-! ### Paths lead to all events -/

/-- **The path of each event of a tree leads to it**, if the paths to the first list do. -/
theorem follow?_of_mem_blockSpots
    (leads : ∀ index event, events[index]? = some event →
      follow? body (descend (first + index) :: path)
        = some ⟨descend (first + index) :: path, around, event⟩)
    (member : spot ∈ blockSpots path around descend first events) :
    follow? body spot.path = some spot := by
  induction events using blocks_induction generalizing path around descend first with
  | nil => cases member
  | cons event events below later =>
    rw [blockSpots, List.mem_append, mem_spots_iff] at member
    rcases member with (rfl | ⟨block, listed, inside⟩) | behind
    · exact leads 0 event rfl
    · refine below block listed (fun index other found => ?_) inside
      exact follow?_child (leads 0 event rfl)
        (child?_eq_some_iff.2 ⟨block, listed, 0 + index, rfl, by rwa [Nat.zero_add]⟩)
    · refine later (fun index other found => ?_) behind
      have next := leads (index + 1) other found
      rwa [Nat.add_comm index, ← Nat.add_assoc] at next

/-- With an event, all that is one step below it is in the tree. -/
theorem child_mem_blockSpots (member : spot ∈ blockSpots path around descend first events)
    (below : spot.event.child? step = some child) :
    ⟨step :: spot.path, spot.event :: spot.around, child⟩
      ∈ blockSpots path around descend first events := by
  induction events using blocks_induction generalizing path around descend first with
  | nil => cases member
  | cons event events inner later =>
    rw [blockSpots, List.mem_append, mem_spots_iff] at member ⊢
    rcases member with (rfl | ⟨block, listed, inside⟩) | behind
    · obtain ⟨block, listed, index, rfl, found⟩ := child?_eq_some_iff.1 below
      refine .inl (.inr ⟨block, listed, mem_blockSpots_of_getElem? found ?_⟩)
      rw [Nat.zero_add]
      exact mem_spots_iff.2 (.inl rfl)
    · exact .inl (.inr ⟨block, listed, inner block listed inside⟩)
    · exact .inr (later behind)

/-- **The events of a script are those that paths lead to.** -/
theorem mem_scriptSpots_iff : spot ∈ scriptSpots body ↔ follow? body spot.path = some spot := by
  constructor
  · refine follow?_of_mem_blockSpots fun index event found => ?_
    rw [Nat.zero_add, follow?, found]
    rfl
  · intro leads
    generalize same : spot.path = path at leads
    induction path generalizing spot with
    | nil => cases leads
    | cons step path ih =>
      rcases follow?_cases leads with ⟨index, event, found, rfl⟩
        | ⟨_, above, _, event, split, before, below, rfl⟩
      · refine mem_blockSpots_of_getElem? found ?_
        rw [Nat.zero_add]
        exact mem_spots_iff.2 (.inl rfl)
      · cases split
        exact child_mem_blockSpots (ih (path_of_follow? before) before) below

/-! ### They are in order -/

theorem exists_suffix_of_mem_blockSpots
    (member : spot ∈ blockSpots path around descend first events) :
    ∃ index, first ≤ index ∧ descend index :: path <:+ spot.path := by
  induction events using blocks_induction generalizing path around descend first with
  | nil => cases member
  | cons event events below later =>
    rw [blockSpots, List.mem_append, mem_spots_iff] at member
    rcases member with (rfl | ⟨block, listed, inside⟩) | behind
    · exact ⟨first, Nat.le_refl _, List.suffix_refl _⟩
    · obtain ⟨index, _, inner⟩ := below block listed inside
      exact ⟨first, Nat.le_refl _, (List.suffix_cons _ _).trans inner⟩
    · obtain ⟨index, least, inner⟩ := later behind
      exact ⟨index, Nat.le_of_succ_le least, inner⟩

theorem suffix_of_mem_spots (member : spot ∈ event.spots path around) : path <:+ spot.path := by
  rcases mem_spots_iff.1 member with rfl | ⟨block, _, inside⟩
  · exact List.suffix_refl _
  · obtain ⟨index, _, inner⟩ := exists_suffix_of_mem_blockSpots inside
    exact (List.suffix_cons _ _).trans inner

theorem before_of_mem_blocks {block : (Nat → Descent) × List Event} (below : block ∈ event.blocks)
    {index other : Nat} (less : index < other) : (block.1 index).Before (block.1 other) := by
  cases event <;> simp only [blocks, List.mem_cons, List.not_mem_nil, or_false] at below
  case ifFlag | ifVariable =>
    rcases below with rfl | rfl
    · exact .whenTrue less
    · exact .whenFalse less
  case loopWhile | loopForever =>
    subst below
    exact .body less

theorem pairwise_blocks (event : Event) :
    event.blocks.Pairwise fun one other => ∀ index place, (one.1 index).Before (other.1 place) := by
  cases event <;> simp [blocks, Descent.Before.branches]

/-- **The events of a tree are in the order of their paths**, if the steps into the first list are. -/
theorem pairwise_blockSpots (events : List Event) (path : NodePath) (around : List Event)
    {descend : Nat → Descent} (first : Nat)
    (ordered : ∀ {index other : Nat}, index < other → (descend index).Before (descend other)) :
    (blockSpots path around descend first events).Pairwise
      fun one other => one.path.Precedes other.path := by
  induction events using blocks_induction generalizing path around descend first with
  | nil => exact .nil
  | cons event events below later =>
    rw [blockSpots, List.pairwise_append, spots_eq, List.pairwise_cons, List.pairwise_flatMap]
    refine ⟨⟨fun spot inside => ?_, fun block listed => ?_, ?_⟩, later path around (first + 1) ordered,
      fun one inside other behind => ?_⟩
    · obtain ⟨block, _, member⟩ := List.mem_flatMap.1 inside
      obtain ⟨index, _, inner⟩ := exists_suffix_of_mem_blockSpots member
      exact NodePath.precedes_of_suffix inner
    · exact below block listed _ _ 0 (before_of_mem_blocks listed)
    · refine (pairwise_blocks event).imp fun before one member other also => ?_
      obtain ⟨index, _, inner⟩ := exists_suffix_of_mem_blockSpots member
      obtain ⟨place, _, another⟩ := exists_suffix_of_mem_blockSpots also
      exact NodePath.precedes_of_before (before index place) inner another
    · rw [← spots_eq] at inside
      obtain ⟨index, least, another⟩ := exists_suffix_of_mem_blockSpots behind
      exact NodePath.precedes_of_before (ordered (show first < index from least))
        (suffix_of_mem_spots inside) another

/-- **The events of a script are in the order of their paths.** -/
theorem pairwise_scriptSpots (body : List Event) :
    (scriptSpots body).Pairwise fun one other => one.path.Precedes other.path :=
  pairwise_blockSpots body [] [] 0 .item

end Event

/-! ### Reading paths -/

/-- The step that a piece of the text of a path stands for: what comes before the bracket tells the
list, the digits behind it the place. -/
def Descent.ofPiece? (piece : List Char) : Option Descent :=
  match piece.splitOn '[' with
  | [list, digits] =>
    let index := Literal.numberOf 10 digits
    if String.ofList list = "" then some (.item index)
    else if String.ofList list = ".true_branch" then some (.whenTrue index)
    else if String.ofList list = ".false_branch" then some (.whenFalse index)
    else if String.ofList list = ".body" then some (.body index)
    else none
  | _ => none

/-- The path that a text stands for. Every step ends with a bracket. -/
def NodePath.ofText? (text : String) : Option NodePath :=
  ((text.toList.splitOn ']').dropLast.mapM Descent.ofPiece?).map List.reverse

namespace Descent

/-- What comes before the bracket. -/
def list : Descent → String
  | item _ => ""
  | whenTrue _ => ".true_branch"
  | whenFalse _ => ".false_branch"
  | body _ => ".body"

/-- The place in the list. -/
def index : Descent → Nat
  | item index | whenTrue index | whenFalse index | body index => index

/-- The text of a step up to its last bracket. -/
def piece (step : Descent) : List Char := step.list.toList ++ '[' :: (toString step.index).toList

theorem toList_text (step : Descent) : step.text.toList = step.piece ++ [']'] := by
  have literal : ∀ words : String, toString words = words := fun _ => rfl
  cases step <;> simp [text, piece, list, index, literal]

theorem bracket_not_mem_digits {bracket : Char} (other : ∀ digit < 10, bracket ≠ Nat.digitChar digit)
    (number : Nat) : bracket ∉ (toString number).toList := by
  rw [Nat.toString_eq_repr, Nat.toList_repr]
  intro member
  obtain ⟨digit, small, same⟩ := Literal.mem_toDigits (by decide) member
  exact other digit small same

theorem close_not_mem_piece (step : Descent) : ']' ∉ step.piece := by
  have digits : ']' ∉ (toString step.index).toList := bracket_not_mem_digits (by decide) step.index
  cases step <;> simp [piece, list, index] at digits ⊢ <;> exact digits

/-- **The text of a step is read as the step.** -/
theorem ofPiece?_piece (step : Descent) : ofPiece? step.piece = some step := by
  have digits : '[' ∉ (toString step.index).toList := bracket_not_mem_digits (by decide) step.index
  have pieces : step.piece.splitOn '[' = [step.list.toList, (toString step.index).toList] := by
    have plain : '[' ∉ step.list.toList := by cases step <;> simp [list]
    rw [piece, List.splitOn_append_cons_self, List.splitOn_eq_singleton plain,
      List.splitOn_eq_singleton digits]
    rfl
  unfold ofPiece?
  rw [pieces]
  simp only [String.ofList_toList, Literal.numberOf_toString]
  cases step <;> rfl

end Descent

namespace NodePath

theorem splitOn_flatMap (steps : List Descent) :
    (steps.flatMap fun step => step.piece ++ [']']).splitOn ']'
      = steps.map Descent.piece ++ [[]] := by
  induction steps with
  | nil => rfl
  | cons step steps ih =>
    rw [List.flatMap_cons, List.append_assoc, List.singleton_append, List.splitOn_append_cons_self,
      List.splitOn_eq_singleton step.close_not_mem_piece, ih]
    rfl

theorem toList_text (path : NodePath) :
    path.text.toList = path.reverse.flatMap fun step => step.piece ++ [']'] := by
  rw [text, String.toList_join, List.flatMap_map]
  exact List.flatMap_congr fun step _ => step.toList_text

/-- **The text of a path is read as the path.** -/
theorem ofText?_text (path : NodePath) : ofText? path.text = some path := by
  have read : Descent.ofPiece? ∘ Descent.piece = pure := funext Descent.ofPiece?_piece
  rw [ofText?, toList_text, splitOn_flatMap, List.dropLast_concat, List.mapM_map, read,
    List.mapM_pure]
  show some (path.reverse.map id).reverse = _
  rw [List.map_id, List.reverse_reverse]

end NodePath
end Cartridge
