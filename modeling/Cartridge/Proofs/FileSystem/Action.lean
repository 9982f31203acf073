import Cartridge.Build.Staging

/-!
# Running actions

An action on a file system leaves a result and what is stored then. Here is what the parts of an
action leave, one after the other.

* `run_bind`, `run_bind_eq_ok`, `run_tryCatch`: actions that are put together.
* `related_bind`: what they leave, whatever their result.
* `FileAction.run_change`, `FileAction.run_query`: one change, one question.
* `Staging.run_blaming`: a step of staging is an action on files, for which a path is to blame.
-/

namespace Cartridge

variable {ε σ α β : Type}

/-- The second action runs on what the first one has left, if that was not refused. -/
theorem run_bind (action : ExceptT ε (StateM σ) α) (next : α → ExceptT ε (StateM σ) β) (state : σ) :
    (action >>= next).run.run state
      = match action.run.run state with
        | (.ok value, after) => (next value).run.run after
        | (.error fault, after) => (.error fault, after) := by
  rw [ExceptT.run_bind, StateT.run_bind]
  generalize action.run.run state = outcome
  obtain ⟨_ | _, _⟩ := outcome <;> rfl

/-- What has succeeded has succeeded step by step. -/
theorem run_bind_eq_ok {action : ExceptT ε (StateM σ) α} {next : α → ExceptT ε (StateM σ) β}
    {before after : σ} {result : β} (ended : (action >>= next).run.run before = (.ok result, after)) :
    ∃ value middle, action.run.run before = (.ok value, middle)
      ∧ (next value).run.run middle = (.ok result, after) := by
  rw [run_bind] at ended
  cases begun : action.run.run before with
  | mk outcome middle =>
    rw [begun] at ended
    cases outcome with
    | ok value => exact ⟨value, middle, rfl, ended⟩
    | error fault => cases ended

theorem run_bind_of_ok {action : ExceptT ε (StateM σ) α} {next : α → ExceptT ε (StateM σ) β}
    {before middle : σ} {value : α} (ended : action.run.run before = (.ok value, middle)) :
    (action >>= next).run.run before = (next value).run.run middle := by
  rw [run_bind, ended]

/-- What two actions leave, one after the other, is related to what was there if it is for each of
them. -/
theorem related_bind (related : σ → σ → Prop)
    (transitive : ∀ {first second third}, related first second → related second third →
      related first third)
    {action : ExceptT ε (StateM σ) α} {next : α → ExceptT ε (StateM σ) β} {before : σ}
    (begun : related before (action.run.run before).2)
    (ended : ∀ value middle, action.run.run before = (.ok value, middle) →
      related middle ((next value).run.run middle).2) :
    related before ((action >>= next).run.run before).2 := by
  rw [run_bind]
  cases left : action.run.run before with
  | mk outcome middle =>
    rw [left] at begun
    cases outcome with
    | ok value => exact transitive begun (ended value middle left)
    | error fault => exact begun

/-- What was refused may be done in another way, from where it has come to. -/
theorem run_tryCatch (action : ExceptT ε (StateM σ) α) (other : ε → ExceptT ε (StateM σ) α)
    (state : σ) :
    (tryCatch action other).run.run state
      = match action.run.run state with
        | (.ok value, after) => (.ok value, after)
        | (.error fault, after) => (other fault).run.run after := by
  show (action.run.run state >>= fun outcome => StateT.run (match outcome.1 with
    | .ok value => pure (.ok value)
    | .error fault => other fault) outcome.2 : Id _) = _
  generalize action.run.run state = outcome
  obtain ⟨_ | _, _⟩ := outcome <;> rfl

namespace FileAction

variable (files : FileSystem)

theorem run_get : (get : FileAction FileSystem).run.run files = (.ok files, files) := rfl

theorem run_change (alter : FileSystem → Except FileError FileSystem) :
    (change alter).run.run files
      = match alter files with
        | .ok after => (.ok (), after)
        | .error fault => (.error fault, files) := by
  rw [change, run_bind, run_get]
  dsimp only
  cases alter files <;> rfl

theorem run_query (ask : FileSystem → Except FileError α) :
    (query ask).run.run files = (ask files, files) := by
  rw [query, run_bind, run_get]
  dsimp only
  cases ask files <;> rfl

theorem change_eq_ok {alter : FileSystem → Except FileError FileSystem} {files after : FileSystem}
    (ended : (change alter).run.run files = (.ok (), after)) : alter files = .ok after := by
  rw [run_change] at ended
  cases altered : alter files with
  | ok middle =>
    rw [altered] at ended
    cases ended
    rfl
  | error fault =>
    rw [altered] at ended
    cases ended

theorem query_eq_ok {ask : FileSystem → Except FileError α} {files after : FileSystem} {answer : α}
    (ended : (query ask).run.run files = (.ok answer, after)) :
    ask files = .ok answer ∧ after = files := by
  rw [run_query] at ended
  obtain ⟨answered, rfl⟩ := Prod.mk.inj ended
  exact ⟨answered, rfl⟩

end FileAction

/-- A step of staging is an action on files, for which a path is to blame. -/
theorem Staging.run_blaming (path : String) (action : FileAction α) (files : FileSystem) :
    (blaming path action).run.run files
      = ((action.run.run files).1.mapError (.staging path), (action.run.run files).2) := by
  rw [blaming, run_bind]
  have lifted : (liftM action.run : Action _).run.run files
      = (.ok (action.run.run files).1, (action.run.run files).2) := rfl
  rw [lifted]
  generalize action.run.run files = outcome
  obtain ⟨_ | _, _⟩ := outcome <;> rfl

/-- A step of staging that has succeeded is an action on files that has. -/
theorem Staging.run_eq_ok_of_blaming {path : String} {action : FileAction α}
    {files after : FileSystem} {value : α}
    (ended : (blaming path action).run.run files = (.ok value, after)) :
    action.run.run files = (.ok value, after) := by
  rw [run_blaming] at ended
  cases left : action.run.run files with
  | mk outcome middle =>
    rw [left] at ended
    cases outcome with
    | ok value =>
      cases ended
      rfl
    | error fault => cases ended

theorem Staging.run_blaming_of_ok {path : String} {action : FileAction α}
    {files after : FileSystem} {value : α} (ended : action.run.run files = (.ok value, after)) :
    (blaming path action).run.run files = (.ok value, after) := by
  rw [run_blaming, ended]
  rfl

end Cartridge
