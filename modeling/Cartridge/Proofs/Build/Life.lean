import Cartridge.Build.Orchestrator
import Cartridge.Proofs.Build.Hearing

/-!
# The life of a build

A build waits for its turn, has its sources staged, starts its program and follows it until it ends.
Anything can happen between two steps of it: it is told to stop, somebody reads what it has reported,
or the program prints on one of its channels. The order of these things has no part in the result.

* `Course`: how far the program of a build has been followed.
* `Build.Life`: what a build can come to.
* `Build.Stands.ofLife`: what is known of a build wherever it has come to.
* `Behaviour`: what a program does, apart from when it does so.
* `Build.Life.hearAll`: a running build hears whatever its program does next.
* `Build.Life.reports`: what a build reports, and its result, if it is over.
-/

namespace Cartridge

/-- How far the program of a build has been followed. -/
inductive Course where
  /-- It has not been started. -/
  | unstarted
  /-- It has been heard so far. It runs, or has been stopped. -/
  | heard (hearings : List Hearing)
  /-- It has ended by itself. -/
  | exited (hearings : List Hearing) (status : ExitStatus)

/-- Whether a build has not started its program yet, and is not over. -/
def Phase.isEarly : Phase → Bool
  | waiting | leased | staged => true
  | running _ _ | finished _ | retired _ => false

namespace Build

/-- Ends a build: its result is noted and reported. -/
def conclude (result : Except BuildError Unit) (build : Build) : Build :=
  (build.enter (.finished result)).report #[completion result]

/-- **What a build can come to**, and how far its program has been followed then. -/
inductive Life (marker program : String) : Build → Course → Prop
  | start (sources : List SourceFile) (buildType : BuildType) :
    Life marker program (.started sources buildType) .unstarted
  /- At any time it may be told to stop, or an event is read. -/
  | cancel {build : Build} {course : Course} (life : Life marker program build course) :
    Life marker program build.cancel course
  | take {build : Build} {course : Course} (life : Life marker program build course) :
    Life marker program { build with taken := build.taken + 1 } course
  | lease {build : Build} {course : Course} (life : Life marker program build course)
    (here : build.phase = .waiting) : Life marker program (build.enter .leased) course
  | stage {build : Build} {course : Course} (life : Life marker program build course)
    (here : build.phase = .leased) : Life marker program (build.enter .staged) course
  | spawn {build : Build} {course : Course} (life : Life marker program build course)
    (here : build.phase = .staged) (group : Nat) :
    Life marker program (build.enter (.running group .start)) (.heard [])
  | fail {build : Build} {course : Course} (life : Life marker program build course)
    (early : build.phase.isEarly = true) (error : BuildError)
    (told : error = .cancelled → build.isCancelled = true) :
    Life marker program (build.conclude (.error error)) course
  | hear {build : Build} {hearings : List Hearing} {group : Nat} {supervision : Supervision}
    (life : Life marker program build (.heard hearings))
    (here : build.phase = .running group supervision) {hearing : Hearing}
    (possible : hearing.IsPossible hearings) :
    Life marker program
      ((build.enter (.running group (supervision.hear marker hearing).1)).report
        (supervision.hear marker hearing).2.toArray)
      (.heard (hearings ++ [hearing]))
  | exit {build : Build} {hearings : List Hearing} {group : Nat} {supervision : Supervision}
    (life : Life marker program build (.heard hearings))
    (here : build.phase = .running group supervision)
    (silent : ∀ channel, .closed channel ∈ hearings) (status : ExitStatus) :
    Life marker program (build.conclude (supervision.verdict program status))
      (.exited hearings status)
  | stop {build : Build} {hearings : List Hearing} {group : Nat} {supervision : Supervision}
    (life : Life marker program build (.heard hearings))
    (here : build.phase = .running group supervision) (cancelled : build.isCancelled = true) :
    Life marker program (build.conclude (.error .cancelled)) (.heard hearings)
  | retire {build : Build} {course : Course} {result : Except BuildError Unit}
    (life : Life marker program build course) (here : build.phase = .finished result) :
    Life marker program (build.enter (.retired result)) course

variable {marker program : String} {build : Build} {course : Course}

/-! ### Where a build stands -/

/-- How a build has ended, after which lines and with which result. It may have been told to stop. -/
inductive Ending (marker program : String) (isCancelled : Bool) :
    Course → List BuildEvent → Except BuildError Unit → Prop
  | unstarted {error : BuildError} (told : error = .cancelled → isCancelled = true) :
    Ending marker program isCancelled .unstarted [] (.error error)
  | stopped {hearings : List Hearing} {supervision : Supervision} {lines : List BuildEvent}
    (cancelled : isCancelled = true) (knows : supervision.Knows marker hearings lines) :
    Ending marker program isCancelled (.heard hearings) lines (.error .cancelled)
  | exited {hearings : List Hearing} {supervision : Supervision} {lines : List BuildEvent}
    (silent : ∀ channel, .closed channel ∈ hearings)
    (knows : supervision.Knows marker hearings lines) (status : ExitStatus) :
    Ending marker program isCancelled (.exited hearings status) lines
      (supervision.verdict program status)

/-- **Where a build stands**: it has reported nothing, or what its program has printed so far, or all
that it will report. -/
inductive Stands (marker program : String) (build : Build) : Course → Prop
  | early (early : build.phase.isEarly = true) (silent : build.events = #[]) :
    Stands marker program build .unstarted
  | running {hearings : List Hearing} {group : Nat} {supervision : Supervision}
    (here : build.phase = .running group supervision)
    (knows : supervision.Knows marker hearings build.events.toList) :
    Stands marker program build (.heard hearings)
  | done {course : Course} {result : Except BuildError Unit} {lines : List BuildEvent}
    (ended : build.result? = some result)
    (events : build.events.toList = lines ++ [completion result])
    (ending : Ending marker program build.isCancelled course lines result) :
    Stands marker program build course

theorem events_enter (phase : Phase) (build : Build) :
    (build.enter phase).events = build.events := rfl

theorem toList_events_report (build : Build) (events : List BuildEvent) :
    (build.report events.toArray).events.toList = build.events.toList ++ events := by
  show (build.events ++ events.toArray).toList = _
  simp

/-- A build that is over does not listen. -/
theorem listens_eq_false_of_result? {result : Except BuildError Unit}
    (ended : build.result? = some result) : build.phase.listens = false := by
  unfold result? at ended
  split at ended <;> simp_all [Phase.listens]

theorem isEarly_eq_false_of_result? {result : Except BuildError Unit}
    (ended : build.result? = some result) : build.phase.isEarly = false := by
  unfold result? at ended
  split at ended <;> simp_all [Phase.isEarly]

namespace Stands

/-- A build that has not started its program has reported nothing. -/
theorem of_isEarly (stands : Stands marker program build course)
    (early : build.phase.isEarly = true) : course = .unstarted ∧ build.events = #[] := by
  cases stands with
  | early _ silent => exact ⟨rfl, silent⟩
  | running here _ =>
    rw [here] at early
    cases early
  | done ended _ _ =>
    rw [isEarly_eq_false_of_result? ended] at early
    cases early

theorem of_running {group : Nat} {supervision : Supervision} {hearings : List Hearing}
    (stands : Stands marker program build (.heard hearings))
    (here : build.phase = .running group supervision) :
    supervision.Knows marker hearings build.events.toList := by
  cases stands with
  | running other knows =>
    cases here.symm.trans other
    exact knows
  | done ended _ _ =>
    rw [result?, here] at ended
    cases ended

/-- A build ends after the lines that it has reported. -/
theorem conclude {result : Except BuildError Unit} {after : Course}
    (ending : Ending marker program build.isCancelled after build.events.toList result) :
    Stands marker program (build.conclude result) after := by
  refine .done rfl ?_ ending
  exact toList_events_report (build.enter _) [completion result]

end Stands

/-- **Where a build stands, wherever it has come to.** -/
theorem Stands.ofLife (life : Life marker program build course) :
    Stands marker program build course := by
  induction life with
  | start sources buildType => exact .early rfl rfl
  | cancel life stands =>
    unfold cancel
    split
    · next listens =>
      cases stands with
      | early early silent => exact .early early silent
      | running here knows => exact .running here knows
      | done ended events ending => simp [listens_eq_false_of_result? ended] at listens
    · exact stands
  | take life stands =>
    cases stands with
    | early early silent => exact .early early silent
    | running here knows => exact .running here knows
    | done ended events ending => exact .done ended events ending
  | lease life here stands =>
    obtain ⟨rfl, silent⟩ := stands.of_isEarly (by rw [here]; rfl)
    exact .early rfl silent
  | stage life here stands =>
    obtain ⟨rfl, silent⟩ := stands.of_isEarly (by rw [here]; rfl)
    exact .early rfl silent
  | spawn life here group stands =>
    obtain ⟨_, silent⟩ := stands.of_isEarly (by rw [here]; rfl)
    refine .running rfl ?_
    rw [events_enter, silent]
    exact Supervision.knows_start
  | fail life early error told stands =>
    obtain ⟨rfl, silent⟩ := stands.of_isEarly early
    refine .conclude ?_
    rw [silent]
    exact .unstarted told
  | hear life here possible stands =>
    refine .running rfl ?_
    rw [toList_events_report]
    exact (stands.of_running here).hear possible
  | exit life here silent status stands =>
    exact .conclude (.exited silent (stands.of_running here) status)
  | stop life here cancelled stands =>
    exact .conclude (.stopped cancelled (stands.of_running here))
  | retire life here stands =>
    cases stands with
    | early early silent =>
      rw [here] at early
      cases early
    | running other knows => cases here.symm.trans other
    | done ended events ending =>
      rw [result?, here] at ended
      cases ended
      exact .done rfl events ending

/-! ### Whatever a program does can be heard -/

theorem report_enter_report_enter (first second : Phase) (lines more : List BuildEvent) :
    ((((build.enter first).report lines.toArray).enter second).report more.toArray)
      = (build.enter second).report (lines ++ more).toArray := by
  simp [enter, report]

/-- **A running build hears whatever its program does**, in any order and in any pieces. -/
theorem Life.hearAll {later hearings : List Hearing} {group : Nat} {supervision : Supervision}
    (life : Life marker program build (.heard hearings))
    (here : build.phase = .running group supervision)
    (possible : Hearing.ArePossible hearings later) :
    Life marker program
      ((build.enter (.running group (supervision.hearAll marker later).1)).report
        (supervision.hearAll marker later).2.toArray)
      (.heard (hearings ++ later)) := by
  induction later generalizing build hearings supervision with
  | nil =>
    have same : (build.enter (.running group supervision)).report #[] = build := by
      rw [← here]
      simp [enter, report]
    rw [List.append_nil]
    exact same ▸ life
  | cons hearing later ih =>
    obtain ⟨first, others⟩ := possible
    have run := ih (life.hear here first) rfl others
    rw [report_enter_report_enter, List.append_assoc] at run
    exact run

/-- So a build that nobody tells to stop ends when its program has ended. -/
theorem Life.exists_exited (marker program : String) (sources : List SourceFile)
    (buildType : BuildType) {hearings : List Hearing} (possible : Hearing.ArePossible [] hearings)
    (silent : ∀ channel, .closed channel ∈ hearings) (status : ExitStatus) :
    ∃ build result, Life marker program build (.exited hearings status)
      ∧ build.result? = some result ∧ build.isCancelled = false := by
  have leased : Life marker program ((started sources buildType).enter .leased) .unstarted :=
    (Life.start sources buildType).lease rfl
  have running := (leased.stage rfl).spawn rfl 0
  have heard := running.hearAll rfl possible
  exact ⟨_, _, heard.exit rfl silent status, rfl, rfl⟩

end Build

/-! ### What a build reports -/

/-- What a program does, apart from when it does so. -/
structure Behaviour where
  output : Channel → List UInt8
  status : ExitStatus

namespace Behaviour

/-- What has been heard is what the program prints, as far as it goes. -/
structure Allows (behaviour : Behaviour) (hearings : List Hearing) : Prop where
  begun : ∀ channel, heardOn channel hearings <+: behaviour.output channel
  whole : ∀ channel, .closed channel ∈ hearings →
    heardOn channel hearings = behaviour.output channel

/-- The program has been followed as far as it goes. -/
def Explains (behaviour : Behaviour) : Course → Prop
  | .unstarted => True
  | .heard hearings => behaviour.Allows hearings
  | .exited hearings status => behaviour.Allows hearings ∧ status = behaviour.status

/-- The texts that are reported for the lines that the program prints on a channel. -/
def texts (behaviour : Behaviour) (channel : Channel) : List String :=
  outputTexts (behaviour.output channel)

variable {behaviour : Behaviour} {hearings : List Hearing}

theorem Allows.reportedTexts_isPrefix (allows : behaviour.Allows hearings) (channel : Channel) :
    reportedTexts channel hearings <+: behaviour.texts channel :=
  Cartridge.reportedTexts_isPrefix (allows.begun channel) (allows.whole channel)

theorem Allows.reportedTexts_eq (allows : behaviour.Allows hearings) {channel : Channel}
    (closed : .closed channel ∈ hearings) :
    reportedTexts channel hearings = behaviour.texts channel := by
  rw [reportedTexts, if_pos closed, allows.whole channel closed, texts]

end Behaviour

namespace Build

/-- The last event tells of an error just if there is one, and which. -/
theorem exists_completion_eq (result : Except BuildError Unit) :
    ∃ told, completion result = .complete told
      ∧ ∀ message, told = some message
        ↔ ∃ error, result = .error error ∧ error.message = message := by
  cases result with
  | ok value => exact ⟨none, rfl, by simp⟩
  | error error => exact ⟨some error.message, rfl, by simp⟩

/-- It prints three lines, and one line of errors. Some bytes are no characters. -/
def misled : Behaviour where
  output
    | .out => [110, 195, 169, 13, 13, 10, 10, 255, 110]
    | .err => [111, 226, 130, 120]
  status := .code 0

/-- One way to hear it, with a character in two pieces. -/
def misledHearings : List Hearing :=
  [.printed .out [110, 195], .printed .err [111, 226], .printed .out [169, 13, 13, 10],
    .printed .out [10, 255, 110], .closed .out, .printed .err [130, 120], .closed .err]

theorem texts_misled :
    misled.texts .out = ["né\r", "", "\uFFFDn"] ∧ misled.texts .err = ["o\uFFFDx"] := by
  have out : outputLines (misled.output .out) = [[110, 195, 169, 13, 13], [], [255, 110]] := by
    decide
  have err : outputLines (misled.output .err) = [[111, 226, 130, 120]] := by decide
  rw [Behaviour.texts, Behaviour.texts, outputTexts, outputTexts, out, err]
  decide +kernel

theorem allows_misledHearings : misled.Allows misledHearings where
  begun channel := by cases channel <;> exact List.prefix_refl _
  whole channel _ := by cases channel <;> rfl

end Build
end Cartridge
