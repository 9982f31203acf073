import Cartridge.Proofs.Script.Names
import Cartridge.Proofs.Script.Paths

/-!
# Which event a script is refused for

Of all the events of a script, the first one in the order of the text that is not as it should be is
reported, with the first of its fields that is not, and with the path that leads to it.

* `Event.demands`: what is asked of an event, field by field.
* `Demand.fault?`: how a demand fails.
* `Spot.FailsFirst`: the first demand on an event that fails.
* `Event.faultOf_block`: the fault of a list of events is that of the first bad one of the tree.
* `Event.IsBlamed`: the event that a script is blamed for.
* `CompiledScript.ofSource_blames`: which event a script is refused for, and which script a project.
-/

namespace Cartridge

/-! ### Demands -/

/-- What is asked of a field of an event, or of its place. -/
inductive Demand where
  /-- A name is declared, as an asset of the right kind if it is that of an asset. -/
  | declared (reference : Reference)
  /-- A text fits a box. -/
  | shortText (words : String)
  /-- A camera is not too fast. -/
  | slowCamera (speed : UInt8)
  /-- There is a loop around. -/
  | insideLoop

/-- What is asked of an event, in the order of its fields. -/
def Event.demands : Event → List Demand
  | text words => [.shortText words]
  | moveCamera _ _ speed => [.slowCamera speed]
  | leaveLoop => [.insideLoop]
  | event => event.ownNames.map .declared

namespace Tables

/-- The fault of a name for which nothing has been found. -/
def missing? {α : Type} (found : Option α) (reference : Reference) : Option NodeFault :=
  if found.isSome then none else some (.unresolved reference)

/-- The fault of the name of an asset: it is not declared, is of another kind, or has no symbol. -/
def unsuitable? (tables : Tables) (reference : Reference) (wanted : AssetKind) : Option NodeFault :=
  match tables.assets.get? reference.name with
  | none => some (.unresolved reference)
  | some found =>
    if found = wanted then
      missing? (tables.symbols.get? (assetSymbol reference.name)) reference
    else some (.wrongAssetKind reference.name found.name wanted.name)

/-- The fault of a name that is looked up. -/
def undeclared? (tables : Tables) (reference : Reference) : Option NodeFault :=
  match reference.referent with
  | .gameVariable => missing? (tables.gameVariables.get? reference.name) reference
  | .flag => missing? (tables.flags.get? reference.name) reference
  | .actor => missing? (tables.actors.get? reference.name) reference
  | .script => missing? (tables.symbols.get? (scriptSymbol reference.name)) reference
  | .scene => missing? (tables.symbols.get? (sceneSymbol reference.name)) reference
  | .song => tables.unsuitable? reference .song
  | .sound => tables.unsuitable? reference .sound

end Tables

/-- **How a demand on an event fails**, given the events around. -/
def Demand.fault? (tables : Tables) (around : List Event) : Demand → Option NodeFault
  | declared reference => tables.undeclared? reference
  | shortText words => if 255 < words.utf8ByteSize then some (.longText words.utf8ByteSize) else none
  | slowCamera speed => if 5 < speed then some (.fastCamera speed) else none
  | insideLoop => if around.any Event.isLoop then none else some .strayLeave

namespace Spot

variable {tables : Tables} {spot : Spot} {fault : NodeFault}

/-- **An event that is not as it should be.** -/
def IsInvalid (tables : Tables) (spot : Spot) : Prop :=
  ∃ demand ∈ spot.event.demands, demand.fault? tables spot.around ≠ none

/-- **The first demand on an event that fails**, and how it does. -/
def FailsFirst (tables : Tables) (spot : Spot) (fault : NodeFault) : Prop :=
  ∃ met demand left, spot.event.demands = met ++ demand :: left
    ∧ (∀ other ∈ met, other.fault? tables spot.around = none)
    ∧ demand.fault? tables spot.around = some fault

/-- The path to an event that is not as it should be, with its first fault. -/
def blame? (tables : Tables) (spot : Spot) : Option (NodePath × NodeFault) :=
  (spot.event.demands.findSome? fun demand => demand.fault? tables spot.around).map (spot.path, ·)

theorem blame?_eq_none_iff : spot.blame? tables = none ↔ ¬ spot.IsInvalid tables := by
  rw [blame?, Option.map_eq_none_iff, List.findSome?_eq_none_iff, IsInvalid]
  simp

theorem blame?_eq_some_iff {path : NodePath} :
    spot.blame? tables = some (path, fault) ↔ spot.path = path ∧ spot.FailsFirst tables fault := by
  rw [blame?, Option.map_eq_some_iff, FailsFirst]
  constructor
  · rintro ⟨other, found, same⟩
    cases same
    obtain ⟨met, demand, left, whole, fails, others⟩ := List.findSome?_eq_some_iff.1 found
    exact ⟨rfl, met, demand, left, whole, others, fails⟩
  · rintro ⟨rfl, met, demand, left, whole, others, fails⟩
    exact ⟨fault, List.findSome?_eq_some_iff.2 ⟨met, demand, left, whole, fails, others⟩, rfl⟩

end Spot

/-! ### One event -/

variable {tables : Tables}

namespace Tables

theorem faultOf_lookUp {α : Type} {found : Option α} {reference : Reference} :
    faultOf (lookUp found reference) = missing? found reference := by
  cases found <;> rfl

theorem faultOf_asset {reference : Reference} {wanted : AssetKind} :
    faultOf (tables.asset reference wanted) = tables.unsuitable? reference wanted := by
  unfold asset unsuitable?
  cases tables.assets.get? reference.name with
  | none => rfl
  | some found =>
    show faultOf (if _ then _ else _) = if _ then _ else _
    split
    · exact faultOf_lookUp
    · rfl

theorem faultOf_argument {field : String} {value : Argument} :
    faultOf (tables.argument field value) = (value.names field).findSome? tables.undeclared? := by
  cases value with
  | literal value => rfl
  | ofVariable name =>
    rw [Argument.names, findSome?_cons_eq_or, List.findSome?_nil, Option.or_none]
    exact faultOf_bind_ok.trans faultOf_lookUp

end Tables

namespace Event

theorem findSome?_demands {event : Event} (around : List Event)
    (named : event.demands = event.ownNames.map .declared) :
    event.demands.findSome? (fun demand => demand.fault? tables around)
      = event.ownNames.findSome? tables.undeclared? := by
  rw [named, List.findSome?_map]
  rfl

/-- **The fault of an event by itself is that of the first demand that fails.** -/
theorem faultOf_resolve {event : Event} (around : List Event) (other : event ≠ leaveLoop) :
    faultOf (event.resolve tables)
      = event.demands.findSome? fun demand => demand.fault? tables around := by
  cases event with
  | leaveLoop => exact absurd rfl other
  | text words =>
    rw [demands, findSome?_cons_eq_or, List.findSome?_nil, Option.or_none, resolve, Demand.fault?,
      longestText]
    split <;> rfl
  | moveCamera x y speed =>
    rw [demands, findSome?_cons_eq_or, List.findSome?_nil, Option.or_none, resolve, Demand.fault?,
      greatestSpeed]
    split <;> rfl
  | _ =>
    rw [findSome?_demands around rfl]
    simp only [resolve, ownNames, Tables.condition, pure, Except.pure, faultOf_bind_ok,
      faultOf_bind₂_ok, faultOf_bind₃_ok, Tables.faultOf_argument, Tables.gameVariable, Tables.flag,
      Tables.actor, Tables.script, Tables.scene, Tables.faultOf_lookUp, Tables.faultOf_asset,
      findSome?_cons_eq_or, List.findSome?_append, List.findSome?_nil, Option.or_none]
    rfl

theorem faultOf_action (event : Event) (isPlain : event.IsPlain) :
    faultOf (event.action tables) = faultOf (event.resolve tables) := by
  obtain ⟨fault, resolved, refused⟩ | ⟨action, resolved, taken⟩ := isPlain.action_cases tables
  · rw [resolved, refused]
    rfl
  · rw [resolved, taken]
    rfl

theorem IsPlain.blocks_eq {event : Event} (isPlain : event.IsPlain) : event.blocks = [] := by
  cases event <;> first | exact isPlain.elim | rfl

/-! ### Whole trees -/

variable {around : List Event} {path : NodePath}

/-- The faults of the lists below an event are those of the first bad event in each of them. -/
def BlamesBelow (tables : Tables) (event : Event) : Prop :=
  ∀ block ∈ event.blocks, ∀ (path : NodePath) (around : List Event),
    faultOf (Event.block tables (around.any isLoop) path block.1 0 block.2)
      = (blockSpots path around block.1 0 block.2).findSome? (Spot.blame? tables)

/-- The first bad event of a conditional: itself, or one in its first branch, or in its second one. -/
theorem findSome?_spots_of_branches {event : Event} {whenTrue whenFalse : List Event}
    (branches : event.blocks = [(.whenTrue, whenTrue), (.whenFalse, whenFalse)])
    (noLoop : event.isLoop = false) (below : BlamesBelow tables event) :
    (event.spots path around).findSome? (Spot.blame? tables)
      = (Spot.blame? tables ⟨path, around, event⟩).or
        ((faultOf (block tables (around.any isLoop) path .whenTrue 0 whenTrue)).or
          (faultOf (block tables (around.any isLoop) path .whenFalse 0 whenFalse))) := by
  unfold BlamesBelow at below
  rw [branches, List.forall_mem_cons, List.forall_mem_singleton] at below
  have first := below.1 path (event :: around)
  have second := below.2 path (event :: around)
  rw [List.any_cons, noLoop, Bool.false_or] at first second
  rw [spots_eq, findSome?_cons_eq_or, branches, List.flatMap_cons, List.flatMap_singleton,
    List.findSome?_append, first, second]

/-- The first bad event of a loop: itself, or one in its body. -/
theorem findSome?_spots_of_loop {event : Event} {body : List Event}
    (repeated : event.blocks = [(.body, body)]) (loop : event.isLoop = true)
    (below : BlamesBelow tables event) :
    (event.spots path around).findSome? (Spot.blame? tables)
      = (Spot.blame? tables ⟨path, around, event⟩).or
        (faultOf (block tables true path .body 0 body)) := by
  unfold BlamesBelow at below
  rw [repeated, List.forall_mem_singleton] at below
  have inner := below path (event :: around)
  rw [List.any_cons, loop, Bool.true_or] at inner
  rw [spots_eq, findSome?_cons_eq_or, repeated, List.flatMap_singleton, inner]

/-- The first bad event of one with nothing below it can only be itself. -/
theorem findSome?_spots_of_blocks_eq_nil {event : Event} (childless : event.blocks = []) :
    (event.spots path around).findSome? (Spot.blame? tables)
      = Spot.blame? tables ⟨path, around, event⟩ := by
  rw [spots_eq, findSome?_cons_eq_or, childless, List.flatMap_nil, List.findSome?_nil,
    Option.or_none]

/-- The fault of what an event asks is that of the event by itself. -/
theorem faultOf_test {event : Event} {test : Except NodeFault Test} {form : Test → ResolvedEvent}
    (resolved : event.resolve tables = test >>= fun test => .ok (form test))
    (other : event ≠ leaveLoop) (path : NodePath) (around : List Event) :
    faultOf (test.mapError (path, ·)) = Spot.blame? tables ⟨path, around, event⟩ := by
  rw [faultOf_mapError, Spot.blame?, ← faultOf_resolve around other, resolved, faultOf_bind_ok]

/-- **The fault of an event is that of the first bad one among it and all below it**, if it is so for
the lists below it. -/
theorem faultOf_statement {event : Event} (below : BlamesBelow tables event) (path : NodePath)
    (around : List Event) :
    faultOf (event.statement tables (around.any isLoop) path)
      = (event.spots path around).findSome? (Spot.blame? tables) := by
  cases event using form_cases with
  | ifFlag name whenTrue whenFalse =>
    have own := faultOf_test (resolve_ifFlag tables name whenTrue whenFalse) (by simp) path around
    rw [findSome?_spots_of_branches rfl rfl below, ← own]
    exact faultOf_bind₃_ok
  | ifVariable name comparison value whenTrue whenFalse =>
    have own := faultOf_test
      (resolve_ifVariable tables name comparison value whenTrue whenFalse) (by simp) path around
    rw [findSome?_spots_of_branches rfl rfl below, ← own]
    exact faultOf_bind₃_ok
  | loopWhile name comparison value body =>
    have own := faultOf_test
      (resolve_loopWhile tables name comparison value body) (by simp) path around
    rw [findSome?_spots_of_loop rfl rfl below, ← own]
    exact faultOf_bind₂_ok
  | loopForever body =>
    rw [findSome?_spots_of_loop rfl rfl below]
    exact faultOf_bind_ok
  | leaveLoop =>
    rw [findSome?_spots_of_blocks_eq_nil rfl, statement, Spot.blame?, demands,
      findSome?_cons_eq_or, List.findSome?_nil, Option.or_none, Demand.fault?]
    split <;> rfl
  | plain event isPlain =>
    have other : event ≠ leaveLoop := fun same => by
      subst same
      exact isPlain
    rw [findSome?_spots_of_blocks_eq_nil isPlain.blocks_eq, isPlain.statement_eq, faultOf_bind_ok,
      faultOf_mapError, faultOf_action event isPlain, faultOf_resolve around other, Spot.blame?]

/-- **The fault of a list of events is that of the first bad event of the tree.** -/
theorem faultOf_block (tables : Tables) (events : List Event) (path : NodePath)
    (around : List Event) (descend : Nat → Descent) (first : Nat) :
    faultOf (Event.block tables (around.any isLoop) path descend first events)
      = (blockSpots path around descend first events).findSome? (Spot.blame? tables) := by
  induction events using blocks_induction generalizing path around descend first with
  | nil => rfl
  | cons event events below later =>
    have inner : BlamesBelow tables event := fun block listed path around =>
      below block listed path around block.1 0
    rw [blockSpots, List.findSome?_append, ← faultOf_statement inner, ← later]
    exact faultOf_bind₂_ok

/-- **The fault of a script is that of its first bad event.** -/
theorem faultOf_script (tables : Tables) (body : List Event) :
    faultOf (Event.script tables body) = (scriptSpots body).findSome? (Spot.blame? tables) :=
  faultOf_block tables body [] [] .item 0

/-- **Which event a script is blamed for**: paths lead to it, its first failing demand is that fault,
and all events before it are as they should be. -/
structure IsBlamed (tables : Tables) (body : List Event) (path : NodePath) (fault : NodeFault) :
    Prop where
  /-- The text of the path, read and followed from the script downwards, leads to the event. -/
  reached : ∃ read spot, NodePath.ofText? path.text = some read ∧ follow? body read = some spot
    ∧ spot.path = path ∧ spot.FailsFirst tables fault
  /-- All events before it in the text are as they should be. -/
  first : ∀ earlier spot, follow? body earlier = some spot → earlier.Precedes path →
    ¬ spot.IsInvalid tables

theorem isBlamed_of_script {tables : Tables} {body : List Event} {path : NodePath}
    {fault : NodeFault} (refused : Event.script tables body = .error (path, fault)) :
    IsBlamed tables body path fault := by
  rw [← faultOf_eq_some_iff, faultOf_script, List.findSome?_eq_some_iff] at refused
  obtain ⟨before, spot, after, whole, blamed, valid⟩ := refused
  obtain ⟨rfl, fails⟩ := Spot.blame?_eq_some_iff.1 blamed
  have order := pairwise_scriptSpots body
  have listed : spot ∈ scriptSpots body := by
    rw [whole]
    exact List.mem_append_right _ List.mem_cons_self
  refine ⟨⟨spot.path, spot, NodePath.ofText?_text spot.path, mem_scriptSpots_iff.1 listed, rfl, fails⟩,
    fun earlier other leads precedes => ?_⟩
  obtain rfl := path_of_follow? leads
  have member := mem_scriptSpots_iff.2 leads
  rw [whole, List.pairwise_append, List.pairwise_cons] at order
  rw [whole, List.mem_append, List.mem_cons] at member
  rcases member with sooner | rfl | later
  · exact Spot.blame?_eq_none_iff.1 (valid other sooner)
  · exact absurd precedes precedes.asymm
  · exact absurd precedes (order.2.1.1 other later).asymm

/-- **A script has a fault** just if a path leads to an event that is not as it should be. -/
theorem exists_fault_iff {tables : Tables} {body : List Event} :
    (∃ path fault, Event.script tables body = .error (path, fault))
      ↔ ∃ path spot, follow? body path = some spot ∧ spot.IsInvalid tables := by
  have valid : faultOf (Event.script tables body) = none
      ↔ ∀ spot ∈ scriptSpots body, ¬ spot.IsInvalid tables := by
    simp only [faultOf_script, List.findSome?_eq_none_iff, Spot.blame?_eq_none_iff]
  constructor
  · rintro ⟨path, fault, refused⟩
    by_contra none
    have sound := valid.2 fun spot member invalid =>
      none ⟨spot.path, spot, mem_scriptSpots_iff.1 member, invalid⟩
    rw [refused] at sound
    cases sound
  · rintro ⟨path, spot, leads, invalid⟩
    obtain rfl := path_of_follow? leads
    cases compiled : Event.script tables body with
    | error blame => exact ⟨blame.1, blame.2, rfl⟩
    | ok statements =>
      rw [compiled] at valid
      exact absurd invalid (valid.1 rfl spot (mem_scriptSpots_iff.2 leads))

end Event

/-! ### Scripts and projects -/

namespace CompiledScript

theorem ofSource_eq_node_iff {tables : Tables} {source : ScriptSource} {origin : String}
    {path : NodePath} {fault : NodeFault} :
    ofSource tables source = .error (.node origin path fault)
      ↔ origin = source.origin ∧ Event.script tables source.body = .error (path, fault) := by
  rw [ofSource_eq]
  cases Event.script tables source.body with
  | error blame => simp [Prod.ext_iff, eq_comm]
  | ok statements =>
    dsimp only
    split <;> simp

/-- **Which event a script is refused for, and which script a project.** A script has an event at
fault just if a path leads to one that is not as it should be. It is then refused for the first such
event in the order of the text, with the first of its demands that fails and the path that leads to
it. Only a script without such events is found too large. And of the scripts of a project, those of
scenes, actors and triggers and the author's own ones, the first one that is refused is reported. -/
theorem ofSource_blames (tables : Tables) (source : ScriptSource) :
    ((∃ origin path fault, ofSource tables source = .error (.node origin path fault))
        ↔ ∃ path spot, Event.follow? source.body path = some spot ∧ spot.IsInvalid tables)
      ∧ (∀ origin path fault, ofSource tables source = .error (.node origin path fault) →
          origin = source.origin ∧ Event.IsBlamed tables source.body path fault)
      ∧ (∀ origin size, ofSource tables source = .error (.tooLarge origin size) →
          ∀ path spot, Event.follow? source.body path = some spot → ¬ spot.IsInvalid tables)
      ∧ ∀ project : Project,
          project.scriptSources.map ScriptSource.body
              = project.scenes.map Scene.init ++ project.actors.map Actor.interact
                ++ project.triggers.map Trigger.enter ++ project.scripts.map CustomScript.body
            ∧ ∀ fault, project.compileScripts tables = .error fault
                ↔ ∃ before failing after, project.scriptSources = before ++ failing :: after
                  ∧ (∀ earlier ∈ before, ∃ script, ofSource tables earlier = .ok script)
                  ∧ ofSource tables failing = .error fault := by
  refine ⟨?_, fun origin path fault refused => ?_, fun origin size large path spot leads invalid => ?_,
    fun project => ⟨?_, fun fault => mapM_eq_error_iff⟩⟩
  · rw [← Event.exists_fault_iff]
    simp only [ofSource_eq_node_iff, exists_and_left, exists_eq_left]
  · obtain ⟨named, faulty⟩ := ofSource_eq_node_iff.1 refused
    exact ⟨named, Event.isBlamed_of_script faulty⟩
  · obtain ⟨place, fault, faulty⟩ := Event.exists_fault_iff.2 ⟨path, spot, leads, invalid⟩
    rw [ofSource_eq, faulty] at large
    cases large
  · simp [Project.scriptSources, Function.comp_def]

/-- A loop that is left, with a flag that is not declared in a loop within, and one more leaving behind
it. -/
def maze : List Event := [.loopForever [.leaveLoop, .loopForever [.setFlag "door"]], .leaveLoop]

/-- The flag comes first in the text, and is reported with the path to it. -/
theorem ofSource_blames_maze :
    ∃ path fault, ofSource ⟨∅, ∅, ∅, ∅, ∅, none⟩ ⟨"script_maze", "script", maze⟩
        = .error (.node "script" path fault)
      ∧ path.text = "[0].body[1].body[0]" ∧ fault = .unresolved ⟨"flag", .flag, "door"⟩
      ∧ Event.IsBlamed ⟨∅, ∅, ∅, ∅, ∅, none⟩ maze path fault := by
  have refused : ofSource ⟨∅, ∅, ∅, ∅, ∅, none⟩ ⟨"script_maze", "script", maze⟩
      = .error (.node "script" [.body 0, .body 1, .item 0] (.unresolved ⟨"flag", .flag, "door"⟩)) := by
    have unknown : (Event.setFlag "door").resolve ⟨∅, ∅, ∅, ∅, ∅, none⟩
        = .error (.unresolved ⟨"flag", .flag, "door"⟩) := by
      rw [Event.resolve, Tables.flag, OrderedTable.get?_empty]
      rfl
    refine ofSource_eq_node_iff.2 ⟨rfl, ?_⟩
    simp only [maze, Event.script, Event.block, Event.statement, Event.action_of_fault unknown]
    rfl
  obtain ⟨_, blamed, _⟩ := ofSource_blames ⟨∅, ∅, ∅, ∅, ∅, none⟩ ⟨"script_maze", "script", maze⟩
  exact ⟨_, _, refused, by decide, rfl, (blamed _ _ _ refused).2⟩

end CompiledScript
end Cartridge
