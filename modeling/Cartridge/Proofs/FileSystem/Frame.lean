import Cartridge.Proofs.FileSystem.Action
import Cartridge.Proofs.FileSystem.Change

/-!
# What an action leaves as it was

Creating directories only adds some on the way; removing something spares all that is not in it.
Both hold of every run, of those that are refused as well.

* `FileAction.createDirectories_adds`: **directories are only added on the way** to the last one.
* `FileAction.cases_of_createDirectories`: the last one is created in the end, or it is there.
* `FileAction.removeTree_spares`: **what is not inside a directory stays** when that is removed.
-/

namespace Cartridge

namespace FileSystem

/-- Directories have been added at some locations, and nothing else has changed. -/
def Adds (places : List Location) (before after : FileSystem) : Prop :=
  ∀ place, Grown before after place
    ∧ (place ∉ places → after.node? place = before.node? place)

/-- Whether a location is inside another one, at whatever depth. -/
def Inside (outer place : Location) : Prop := outer <:+ place ∧ place ≠ outer

instance (outer place : Location) : Decidable (Inside outer place) :=
  inferInstanceAs (Decidable (_ ∧ _))

/-- Nothing has changed but what is within, and directories have been added at some locations. -/
def Touches (within : Location → Prop) (places : List Location) (before after : FileSystem) : Prop :=
  ∀ place, ¬ within place → Grown before after place
    ∧ (place ∉ places → after.node? place = before.node? place)

/-- Nothing has changed outside a location. -/
def Spares (outer : Location) (before after : FileSystem) : Prop :=
  ∀ place, ¬ outer <:+ place → after.node? place = before.node? place

variable {files middle after : FileSystem} {places : List Location} {outer place : Location}

theorem Grown.refl (files : FileSystem) (place : Location) : Grown files files place := Or.inl rfl

theorem Grown.trans (first : Grown files middle place) (second : Grown middle after place) :
    Grown files after place := by
  unfold Grown at *
  rcases first with same | ⟨none, created⟩
  · rwa [same] at second
  · rcases second with same | ⟨missing, -⟩
    · exact Or.inr ⟨none, same.trans created⟩
    · simp [created] at missing

theorem Adds.refl (places : List Location) (files : FileSystem) : Adds places files files :=
  fun place => ⟨Grown.refl files place, fun _ => rfl⟩

theorem Adds.trans (first : Adds places files middle) (second : Adds places middle after) :
    Adds places files after := fun place =>
  ⟨(first place).1.trans (second place).1, fun outside =>
    ((second place).2 outside).trans ((first place).2 outside)⟩

theorem adds_put (among : place ∈ places) (missing : files.node? place = none) :
    Adds places files (files.put place .directory) := by
  intro other
  have below : place ≠ [] := by
    rintro rfl
    simp [node?_nil] at missing
  unfold Grown
  rw [node?_put_eq]
  by_cases same : place = other
  · subst same
    simp [below, missing, among]
  · simp [same]

theorem Spares.refl (outer : Location) (files : FileSystem) : Spares outer files files :=
  fun _ _ => rfl

theorem Spares.trans (first : Spares outer files middle) (second : Spares outer middle after) :
    Spares outer files after := fun place outside =>
  (second place outside).trans (first place outside)

theorem spares_erase (files : FileSystem) (outer : Location) :
    Spares outer files (files.erase outer) := by
  intro place outside
  rcases ne_or_eq place [] with below | rfl
  · rw [node?_erase files outer place below, if_neg]
    rintro rfl
    exact outside List.suffix_rfl
  · rfl

/-- What is cleared is taken away just if it is inside. -/
theorem node?_clear_of_inside (files : FileSystem) (inside : Inside outer place) :
    (files.clear outer).node? place = none := by
  have below : place ≠ [] := by
    rintro rfl
    exact inside.2 (List.suffix_nil.1 inside.1).symm
  unfold Inside at inside
  rw [node?_clear files outer place below, if_pos inside]

theorem node?_clear_of_not_inside (files : FileSystem) (outside : ¬ Inside outer place) :
    (files.clear outer).node? place = files.node? place := by
  rcases ne_or_eq place [] with below | rfl
  · unfold Inside at outside
    rw [node?_clear files outer place below, if_neg outside]
  · rfl

section Touches

variable {within wider : Location → Prop} {more : List Location} {node : Node}

theorem Touches.refl (within : Location → Prop) (places : List Location) (files : FileSystem) :
    Touches within places files files := fun place _ => ⟨Grown.refl files place, fun _ => rfl⟩

theorem Touches.trans (first : Touches within places files middle)
    (second : Touches within places middle after) : Touches within places files after :=
  fun place outside => ⟨(first place outside).1.trans (second place outside).1, fun apart =>
    ((second place outside).2 apart).trans ((first place outside).2 apart)⟩

instance (within : Location → Prop) (places : List Location) :
    IsPreorder FileSystem (Touches within places) where
  refl := Touches.refl within places
  trans := fun _ _ _ => Touches.trans

theorem Touches.mono (touched : Touches within places files after)
    (wide : ∀ place, within place → wider place) (among : places ⊆ more) :
    Touches wider more files after := fun place outside =>
  have told := touched place (mt (wide place) outside)
  ⟨told.1, fun apart => told.2 fun found => apart (among found)⟩

theorem Adds.touches (added : Adds places files after) (within : Location → Prop) :
    Touches within places files after := fun place _ => added place

theorem Spares.touches (spared : Spares outer files after) (places : List Location) :
    Touches (outer <:+ ·) places files after := fun place outside =>
  ⟨Or.inl (spared place outside), fun _ => spared place outside⟩

theorem touches_clear (files : FileSystem) (outer : Location) (places : List Location) :
    Touches (Inside outer) places files (files.clear outer) := fun _ outside =>
  have same := node?_clear_of_not_inside files outside
  ⟨Or.inl same, fun _ => same⟩

theorem touches_put (among : within place) (files : FileSystem) (node : Node)
    (places : List Location) : Touches within places files (files.put place node) := by
  intro other outside
  have same : (files.put place node).node? other = files.node? other := by
    rw [node?_put_eq, if_neg]
    rintro ⟨rfl, -⟩
    exact outside among
  exact ⟨Or.inl same, fun _ => same⟩

end Touches

theorem names_clear (files : FileSystem) (outer : Location) : (files.clear outer).names outer = [] := by
  refine List.eq_nil_iff_forall_not_mem.2 fun name found => ?_
  rw [mem_names_iff, node?_clear_of_inside _ ⟨List.suffix_cons _ _, by simp⟩] at found
  cases found

theorem spares_clear (files : FileSystem) (outer : Location) :
    Spares outer files (files.clear outer) := fun _ outside =>
  node?_clear_of_not_inside files fun inside => outside inside.1

end FileSystem

namespace FileAction

open FileSystem

variable {α β : Type}

/-! ## Runs of an action, whatever their result -/

/-- However an action ends, what it leaves is related to what was there. -/
def Keeps (related : FileSystem → FileSystem → Prop) (action : FileAction α) : Prop :=
  ∀ files, related files (action.run.run files).2

section Keeps

variable {related : FileSystem → FileSystem → Prop} [IsPreorder FileSystem related]

theorem keeps_pure (value : α) : Keeps related (pure value : FileAction α) :=
  fun files => refl_of related files

theorem keeps_throw (fault : FileError) : Keeps related (throw fault : FileAction α) :=
  fun files => refl_of related files

theorem keeps_get : Keeps related (get : FileAction FileSystem) :=
  fun files => refl_of related files

theorem keeps_change {alter : FileSystem → Except FileError FileSystem}
    (changed : ∀ files after, alter files = .ok after → related files after) :
    Keeps related (change alter) := by
  intro files
  rw [run_change]
  cases altered : alter files with
  | ok after => exact changed files after altered
  | error fault => exact refl_of related files

theorem Keeps.bind {action : FileAction α} {next : α → FileAction β} (first : Keeps related action)
    (second : ∀ value, Keeps related (next value)) : Keeps related (action >>= next) := by
  intro files
  exact related_bind related (trans_of related) (first files) fun value middle _ =>
    second value middle

theorem Keeps.tryCatch {action : FileAction α} {other : FileError → FileAction α}
    (first : Keeps related action) (second : ∀ fault, Keeps related (other fault)) :
    Keeps related (tryCatch action other) := by
  intro files
  have begun := first files
  rw [run_tryCatch]
  cases ended : action.run.run files with
  | mk result middle =>
    rw [ended] at begun
    cases result with
    | ok value => exact begun
    | error fault => exact trans_of related begun (second fault middle)

end Keeps

/-- What an action leaves if something holds of what was there. -/
def Given (holds : FileSystem → Prop) (related : FileSystem → FileSystem → Prop)
    (before after : FileSystem) : Prop :=
  holds before → related before after

/-- What leaves a condition as it is can be done again and again under it. -/
theorem isPreorder_given {holds : FileSystem → Prop} {related : FileSystem → FileSystem → Prop}
    [IsPreorder FileSystem related]
    (kept : ∀ before after, holds before → related before after → holds after) :
    IsPreorder FileSystem (Given holds related) where
  refl := fun files _ => refl_of related files
  trans := fun before middle _ begun ended known =>
    trans_of related (begun known) (ended (kept before middle known (begun known)))

/-- What a way that could be created is good for. -/
def Along (start : Location) (names : List String) (trail : Trail)
    (related : FileSystem → FileSystem → Prop) (before after : FileSystem) : Prop :=
  before.Way false start names trail → related before after

variable {files : FileSystem} {here first : Location} {path directory name : String}
  {names : List String} {trail : Trail} {related : FileSystem → FileSystem → Prop}

/-- What leaves a way as it is can be done again and again along it. -/
theorem isPreorder_along [IsPreorder FileSystem related]
    (grows : ∀ before after, related before after →
      ∀ place ∈ trail.places, Grown before after place) :
    IsPreorder FileSystem (Along first names trail related) :=
  isPreorder_given fun before after way changed => way.grow (grows before after changed)

/-! ## Creating directories -/

instance (places : List Location) : IsPreorder FileSystem (Adds places) where
  refl := Adds.refl places
  trans := fun _ _ _ => Adds.trans

instance : IsPreorder FileSystem (Along first names trail (Adds trail.places)) :=
  isPreorder_along fun _ _ added place _ => (added place).1

/-- A directory that a path leads through is created on the way. -/
theorem keeps_createDirectory {way : List String} (begins : way <+: names)
    (leads : FilePath.Leads path directory way) :
    Keeps (Along (start here path) names trail (Adds trail.places))
      (change (·.createDirectory here directory)) := by
  refine keeps_change fun files _ created known => ?_
  obtain ⟨rest, rfl⟩ := begins
  obtain ⟨begun, later, way, onward, rfl⟩ := known.exists_of_append
  obtain ⟨absolute, rfl⟩ := leads.resolve_left (nonempty_of_createDirectory created)
  rw [start, ← absolute] at way
  obtain ⟨missing, rfl⟩ := createDirectory_eq_ok created way
  refine adds_put ?_ missing
  have met := onward.start_mem
  unfold Trail.places at met ⊢
  simp only [Trail.append, List.append_assoc]
  exact List.mem_append_right _ met

theorem keeps_unlessDirectory [IsPreorder FileSystem related] (fault : FileError) :
    Keeps related (unlessDirectory here path fault) := by
  unfold unlessDirectory
  refine keeps_get.bind fun files => ?_
  split
  · exact keeps_throw fault
  · exact keeps_pure ()

/-- Creating directories where they are needed does what creating each of them does. -/
theorem keeps_createAll [IsPreorder FileSystem related] {paths : List String}
    (created : ∀ shorter ∈ paths, Keeps related (change (·.createDirectory here shorter))) :
    Keeps related (createAll here paths) := by
  induction paths with
  | nil => exact keeps_pure ()
  | cons shorter paths ih =>
    have first := created shorter List.mem_cons_self
    unfold createAll
    split
    · exact keeps_pure ()
    refine first.tryCatch fun fault => ?_
    split
    · refine Keeps.bind (ih fun other among => created other (List.mem_cons_of_mem _ among)) ?_
      exact fun _ => first.tryCatch fun fault => keeps_unlessDirectory fault
    · exact keeps_unlessDirectory fault

/-- Nothing is refused if there is a directory all the same. -/
theorem find_of_unlessDirectory {after : FileSystem} {fault : FileError}
    (ended : (unlessDirectory here path fault).run.run files = (.ok (), after)) :
    after = files ∧ ∃ place, files.find true here path = .ok (place, .directory) := by
  obtain ⟨_, _, looked, ended⟩ := run_bind_eq_ok ended
  rw [run_get] at looked
  cases looked
  split at ended
  · cases ended
  next there =>
    cases ended
    refine ⟨rfl, ?_⟩
    unfold FileSystem.isDirectory at there
    split at there
    · next place node found =>
      cases node with
      | directory => exact ⟨place, found⟩
      | file contents => simp [Node.isDirectory] at there
      | link target => simp [Node.isDirectory] at there
    · simp at there

/-- What is to be created is created, or it is there. -/
theorem cases_of_createDirectory {after : FileSystem}
    (ended : (tryCatch (change (·.createDirectory here path))
      (unlessDirectory here path)).run.run files = (.ok (), after)) :
    files.createDirectory here path = .ok after
      ∨ after = files ∧ ∃ place, files.find true here path = .ok (place, .directory) := by
  rw [run_tryCatch, run_change] at ended
  cases created : files.createDirectory here path with
  | ok middle =>
    rw [created] at ended
    cases ended
    exact Or.inl rfl
  | error fault =>
    rw [created] at ended
    exact Or.inr (find_of_unlessDirectory ended)

/-- **A directory that was to be created is created in the end**, or it is there, unless that was
refused. -/
theorem cases_of_createDirectories [IsPreorder FileSystem related] {after : FileSystem}
    (given : path ≠ "")
    (created : ∀ shorter ∈ leading path, Keeps related (change (·.createDirectory here shorter)))
    (ended : (createDirectories here path).run.run files = (.ok (), after)) :
    ∃ middle, related files middle ∧ (middle.createDirectory here path = .ok after
      ∨ after = middle ∧ ∃ place, middle.find true here path = .ok (place, .directory)) := by
  unfold createDirectories leading createAll at ended
  rw [if_neg (by simpa [String.isEmpty_iff] using given), run_tryCatch, run_change] at ended
  cases done : files.createDirectory here path with
  | ok middle =>
    rw [done] at ended
    cases ended
    exact ⟨files, refl_of related files, Or.inl done⟩
  | error fault =>
    rw [done] at ended
    dsimp only at ended
    split at ended
    · obtain ⟨_, middle, began, ended⟩ := run_bind_eq_ok ended
      have begun := keeps_createAll
        (fun shorter found => created shorter (List.mem_cons_of_mem _ found)) files
      rw [began] at begun
      exact ⟨middle, begun, cases_of_createDirectory ended⟩
    · exact ⟨files, refl_of related files, Or.inr (find_of_unlessDirectory ended)⟩

/-- The directories that a path leads through, and the one that it leads to, are on the way. -/
theorem leads_of_mem_leading {shorter : String} (found : shorter ∈ leading path) :
    ∃ way, way <+: FilePath.steps path ∧ FilePath.Leads path shorter way := by
  unfold leading at found
  rcases List.mem_cons.1 found with rfl | found
  · exact ⟨_, List.prefix_refl _, Or.inr ⟨rfl, rfl⟩⟩
  · obtain ⟨⟨text, part⟩, among, rfl⟩ := List.mem_map.1 (List.mem_reverse.1 found)
    exact FilePath.leads_of_mem_parts among

/-- Each directory that is needed is created on the way. -/
theorem keeps_createDirectory_of_leads (leads : FilePath.Leads path directory names)
    (given : directory ≠ "") {shorter : String} (found : shorter ∈ leading directory) :
    Keeps (Along (start here path) names trail (Adds trail.places))
      (change (·.createDirectory here shorter)) := by
  obtain ⟨absolute, rfl⟩ := leads.resolve_left given
  obtain ⟨way, begins, leads⟩ := leads_of_mem_leading found
  exact keeps_createDirectory begins (leads.imp id fun same => ⟨same.1.trans absolute, same.2⟩)

/-- **Directories are only added on the way.** -/
theorem createDirectories_adds (leads : FilePath.Leads path directory names)
    (way : files.Way false (start here path) names trail) :
    Adds trail.places files ((createDirectories here directory).run.run files).2 := by
  by_cases given : directory = ""
  · subst given
    unfold createDirectories leading createAll
    exact Adds.refl _ _
  · exact keeps_createAll (fun _ => keeps_createDirectory_of_leads leads given) files way

theorem node?_put_goal {place : Location} {node : Node} (missing : files.node? place = none) :
    (files.put place node).node? place = some node := by
  have below : place ≠ [] := by
    rintro rfl
    simp [node?_nil] at missing
  rw [node?_put_eq, if_pos ⟨rfl, below⟩]

/-- **A directory that was to be created is there**, unless that was refused. -/
theorem node?_of_createDirectories {after : FileSystem} (given : path ≠ "")
    (ended : (createDirectories here path).run.run files = (.ok (), after))
    (way : files.Way false (start here path) (FilePath.steps path) trail) :
    after.node? trail.goal = some .directory := by
  obtain ⟨middle, added, created | ⟨rfl, place, found⟩⟩ := cases_of_createDirectories given
    (fun _ => keeps_createDirectory_of_leads (Or.inr ⟨rfl, rfl⟩) given) ended
  · obtain ⟨missing, rfl⟩ :=
      createDirectory_eq_ok created (way.grow fun place _ => (added way place).1)
    exact node?_put_goal missing
  · obtain ⟨rfl, there⟩ := find_directory found (way.grow fun place _ => (added way place).1)
    exact there

/-- A directory that is there need not be created. -/
theorem run_createDirectories_of_there {place : Location} (given : path ≠ "")
    (text : (if path.any (· != '/') then withoutSlashes path else path) = path)
    (called : files.locate false here path = .ok place)
    (found : files.locate true here path = .ok place)
    (there : files.node? place = some .directory) :
    (createDirectories here path).run.run files = (.ok (), files) := by
  have refused : files.createDirectory here path = .error .alreadyExists := by
    rw [createDirectory, text, called]
    dsimp only [bind, Except.bind]
    rw [there]
    rfl
  have isDirectory : files.isDirectory here path = true := by
    rw [FileSystem.isDirectory, find_of_locate found there]
    rfl
  have notEmpty : ¬ path.isEmpty = true := by
    rwa [String.isEmpty_iff]
  rw [createDirectories, leading, createAll, if_neg notEmpty,
    run_tryCatch, run_change, refused]
  dsimp only
  rw [if_neg (by decide), unlessDirectory, run_bind, run_get]
  dsimp only
  rw [isDirectory]
  rfl

/-! ## Removing what has a name -/

instance (outer : Location) : IsPreorder FileSystem (Spares outer) where
  refl := Spares.refl outer
  trans := fun _ _ _ => Spares.trans

/-- A path that names a location: if a directory is removed by it, it is that one, as long as
something holds that does not depend on what is there. -/
structure Names (here : Location) (path : String) (outer : Location)
    (holds : FileSystem → Prop) : Prop where
  kept : ∀ before after, holds before → Spares outer before after → holds after
  removed : ∀ files after, holds files → files.removeDirectory here path = .ok after →
    after = files.erase outer

variable {outer : Location} {holds : FileSystem → Prop}

/-- Nothing is removed outside an empty directory. -/
theorem removeDirectory_spares (named : Names here path outer holds) (known : holds files) :
    Spares outer files ((ifPresent (change (·.removeDirectory here path))).run.run files).2 := by
  have preorder : IsPreorder FileSystem (Given holds (Spares outer)) := isPreorder_given named.kept
  have removed : Keeps (Given holds (Spares outer)) (change (·.removeDirectory here path)) := by
    refine keeps_change fun files after removed known => ?_
    rw [named.removed files after known removed]
    exact spares_erase files outer
  unfold ifPresent
  refine removed.tryCatch (fun fault => ?_) files known
  split
  · exact keeps_pure ()
  · exact keeps_throw fault

/-- **What is not inside a directory stays** when that is removed. -/
theorem removeTree_spares (named : Names here path outer holds) (known : holds files)
    (found : ∀ place node, files.find false here path = .ok (place, node) → place = outer) :
    Spares outer files ((removeTree here path).run.run files).2 := by
  rw [removeTree, run_bind, run_query]
  cases there : files.find false here path with
  | error fault => exact Spares.refl _ files
  | ok entry =>
    obtain ⟨place, node⟩ := entry
    obtain rfl := found place node there
    cases node with
    | file contents => exact Spares.refl _ files
    | link target => exact spares_erase files _
    | directory =>
      have cleared := spares_clear files place
      dsimp only
      rw [run_bind, run_change]
      exact cleared.trans (removeDirectory_spares named (named.kept _ _ known cleared))

/-- Nothing is removed but the file or the link. -/
theorem removeFile_spares
    (found : ∀ place node, files.find false here path = .ok (place, node) → place = outer) :
    Spares outer files ((change (·.removeFile here path)).run.run files).2 := by
  rw [run_change]
  unfold removeFile
  cases there : files.find false here path with
  | error fault => exact Spares.refl _ files
  | ok entry =>
    obtain ⟨place, node⟩ := entry
    obtain rfl := found place node there
    cases node with
    | directory => exact Spares.refl _ files
    | file contents => exact spares_erase files _
    | link target => exact spares_erase files _

/-- A path names what it calls by its name. -/
theorem names_of_calls {before : List String} (calls : Calls path before name)
    (apart : ∀ place ∈ trail.places, ¬ name :: trail.goal <:+ place) :
    Names here path (name :: trail.goal) (·.Way false (start here path) before trail) where
  kept := fun _ _ way spared => way.grow fun place among => Or.inl (spared place (apart place among))
  removed := fun _ _ way removed => removeDirectory_eq_ok calls removed way

end FileAction

end Cartridge
