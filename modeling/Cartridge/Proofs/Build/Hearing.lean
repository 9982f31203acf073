import Mathlib.Data.List.Induction
import Cartridge.Build.Supervision
import Cartridge.Proofs.Build.Lines

/-!
# What is heard of a running program

The two channels of a program are heard in any order, each of them in any pieces until it is closed.
What a watcher knows then, and has reported, depends on each channel by itself.

* `Hearing`, `Supervision.hear`: one piece of output, or the end of a channel.
* `heardOn`: all that has been heard on a channel.
* `reportedTexts`: the texts of the lines on a channel that have been reported.
* `Supervision.Knows.hear`: what is known is that of the channels, whatever is heard next.
* `Supervision.Knows.verdict_eq`: what is found of a program that has ended.
-/

namespace Cartridge

/-- What can be heard of a running program. -/
inductive Hearing where
  | printed (channel : Channel) (bytes : List UInt8)
  | closed (channel : Channel)
  deriving DecidableEq, Repr

namespace Hearing

/-- The channel that something is heard on. -/
def channel : Hearing → Channel
  | printed channel _ | closed channel => channel

/-- The bytes that are heard. -/
def bytes : Hearing → List UInt8
  | printed _ bytes => bytes
  | closed _ => []

/-- What can be heard after all that has been heard: nothing more is printed on a closed channel. -/
def IsPossible (hearings : List Hearing) : Hearing → Prop
  | printed channel _ => closed channel ∉ hearings
  | closed _ => True

/-- What can be heard one after the other, after all that has been heard. -/
def ArePossible (hearings : List Hearing) : List Hearing → Prop
  | [] => True
  | hearing :: later => hearing.IsPossible hearings ∧ ArePossible (hearings ++ [hearing]) later

/-- The lines that end by what is heard, and the line that is left. -/
def cut (buffer : LineBuffer) : Hearing → LineBuffer × List (List UInt8)
  | printed _ bytes => buffer.feed bytes
  | closed _ => (.empty, buffer.rest)

end Hearing

/-- All that has been heard on a channel. -/
def heardOn (channel : Channel) (hearings : List Hearing) : List UInt8 :=
  hearings.flatMap fun hearing => if hearing.channel = channel then hearing.bytes else []

/-- The line that has begun on a channel. -/
def openLine (channel : Channel) (hearings : List Hearing) : LineBuffer :=
  if .closed channel ∈ hearings then .empty
  else (LineBuffer.empty.feed (heardOn channel hearings)).1

/-- The texts of the lines that have ended on a channel. -/
def reportedTexts (channel : Channel) (hearings : List Hearing) : List String :=
  if .closed channel ∈ hearings then outputTexts (heardOn channel hearings)
  else (LineBuffer.empty.feed (heardOn channel hearings)).2.map lineText

theorem heardOn_append (channel : Channel) (hearings : List Hearing) (hearing : Hearing) :
    heardOn channel (hearings ++ [hearing])
      = heardOn channel hearings ++ if hearing.channel = channel then hearing.bytes else [] := by
  rw [heardOn, List.flatMap_append, List.flatMap_singleton]
  rfl

/-- What has been reported stays, whatever is printed. -/
theorem reportedTexts_isPrefix {channel : Channel} {hearings : List Hearing} {output : List UInt8}
    (begun : heardOn channel hearings <+: output)
    (whole : .closed channel ∈ hearings → heardOn channel hearings = output) :
    reportedTexts channel hearings <+: outputTexts output := by
  unfold reportedTexts
  split
  case isTrue isClosed => exact whole isClosed ▸ List.prefix_refl _
  case isFalse isOpen =>
    obtain ⟨more, rfl⟩ := begun
    exact (LineBuffer.ended_isPrefix _ more).map lineText

section Step

variable {channel : Channel} {hearings : List Hearing} {hearing : Hearing}

/-- What is heard on one channel does not touch the other. -/
theorem heard_elsewhere (other : hearing.channel ≠ channel) :
    openLine channel (hearings ++ [hearing]) = openLine channel hearings
      ∧ reportedTexts channel (hearings ++ [hearing]) = reportedTexts channel hearings := by
  have bytes : heardOn channel (hearings ++ [hearing]) = heardOn channel hearings := by
    rw [heardOn_append, if_neg other, List.append_nil]
  have closed : Hearing.closed channel ∈ hearings ++ [hearing] ↔ .closed channel ∈ hearings := by
    rw [List.mem_append, List.mem_singleton, or_iff_left]
    rintro rfl
    exact other rfl
  rw [openLine, openLine, reportedTexts, reportedTexts, bytes]
  simp only [closed, and_self]

/-- **What is heard on a channel** ends some lines of it and leaves one. -/
theorem heard_here (possible : hearing.IsPossible hearings) :
    openLine hearing.channel (hearings ++ [hearing])
        = (hearing.cut (openLine hearing.channel hearings)).1
      ∧ reportedTexts hearing.channel (hearings ++ [hearing])
        = reportedTexts hearing.channel hearings
          ++ (hearing.cut (openLine hearing.channel hearings)).2.map lineText := by
  have bytes := heardOn_append hearing.channel hearings hearing
  rw [if_pos rfl] at bytes
  cases hearing with
  | printed channel piece =>
    have isOpen : .closed channel ∉ hearings ++ [.printed channel piece] := by
      rw [List.mem_append, List.mem_singleton, not_or]
      exact ⟨possible, nofun⟩
    have fed := LineBuffer.empty.feed_append (heardOn channel hearings) piece
    simp only [Hearing.channel, Hearing.bytes] at bytes ⊢
    rw [openLine, openLine, reportedTexts, reportedTexts, if_neg isOpen, if_neg isOpen,
      if_neg possible, if_neg possible, bytes, fed]
    exact ⟨rfl, List.map_append⟩
  | closed channel =>
    have isClosed : .closed channel ∈ hearings ++ [.closed channel] :=
      List.mem_append_right _ (List.mem_singleton_self _)
    simp only [Hearing.channel, Hearing.bytes, List.append_nil] at bytes ⊢
    rw [openLine, reportedTexts, if_pos isClosed, if_pos isClosed, bytes]
    refine ⟨rfl, ?_⟩
    rw [openLine, reportedTexts]
    split
    case isTrue before => exact (List.append_nil _).symm
    case isFalse before =>
      rw [outputTexts, ← LineBuffer.ended_append_rest, List.map_append]
      rfl

end Step

/-! ### What is reported -/

/-- The text of a line on a channel. -/
def BuildEvent.textOn? (channel : Channel) : BuildEvent → Option String
  | line other text => if other = channel then some text else none
  | complete _ => none

/-- The texts of the lines on a channel among events. -/
def textsOn (channel : Channel) (events : List BuildEvent) : List String :=
  events.filterMap (BuildEvent.textOn? channel)

theorem textsOn_map_line (channel other : Channel) (texts : List String) :
    textsOn channel (texts.map (BuildEvent.line other))
      = if other = channel then texts else [] := by
  induction texts with
  | nil => simp [textsOn]
  | cons text texts ih =>
    rw [textsOn, List.map_cons, List.filterMap_cons, BuildEvent.textOn?]
    rw [textsOn] at ih
    split <;> simp_all

namespace Supervision

/-- The line that has begun on a channel. -/
def buffer (supervision : Supervision) : Channel → LineBuffer
  | .out => supervision.out
  | .err => supervision.err

/-- Another line has begun on a channel. -/
def withBuffer (supervision : Supervision) (channel : Channel) (buffer : LineBuffer) :
    Supervision :=
  match channel with
  | .out => { supervision with out := buffer }
  | .err => { supervision with err := buffer }

/-- Takes in what is heard. -/
def hear (marker : String) (supervision : Supervision) (hearing : Hearing) :
    Supervision × List BuildEvent :=
  match hearing with
  | .printed channel bytes => supervision.receive marker channel bytes
  | .closed channel => supervision.close marker channel

/-- Takes in what is heard, one thing after the other. -/
def hearAll (marker : String) (supervision : Supervision) :
    List Hearing → Supervision × List BuildEvent
  | [] => (supervision, [])
  | hearing :: later =>
    let (supervision, lines) := supervision.hear marker hearing
    let (supervision, more) := supervision.hearAll marker later
    (supervision, lines ++ more)

variable {marker : String} {supervision : Supervision}

/-- Both channels are treated alike. -/
theorem hear_eq (hearing : Hearing) :
    supervision.hear marker hearing
      = (supervision.withBuffer hearing.channel
          (hearing.cut (supervision.buffer hearing.channel)).1).report marker hearing.channel
        (hearing.cut (supervision.buffer hearing.channel)).2 := by
  obtain ⟨channel, bytes⟩ | channel := hearing <;> cases channel <;> rfl

/-- Of the texts that are noted, the last one is kept, and the last one with the marker. -/
theorem foldl_note (texts : List String) (supervision : Supervision) :
    texts.foldl (note marker) supervision
      = { supervision with
          lastError := texts.getLast?.or supervision.lastError
          lastFatal := (texts.filter (holds · marker)).getLast?.or supervision.lastFatal } := by
  induction texts using List.reverseRecOn with
  | nil => rfl
  | append_singleton texts text ih =>
    rw [List.foldl_append, ih, List.getLast?_append, List.filter_append]
    by_cases isMarked : holds text marker = true <;> simp [note, isMarked]

/-- **What is known of a program, and has been reported,** is that of its channels. -/
structure Knows (marker : String) (hearings : List Hearing) (supervision : Supervision)
    (lines : List BuildEvent) : Prop where
  buffer : ∀ channel, supervision.buffer channel = openLine channel hearings
  lastError : supervision.lastError = (reportedTexts .err hearings).getLast?
  lastFatal : supervision.lastFatal
    = ((reportedTexts .err hearings).filter (holds · marker)).getLast?
  texts : ∀ channel, textsOn channel lines = reportedTexts channel hearings
  isLine : ∀ event ∈ lines, event.isComplete = false

/-- Of a program that has just been started nothing is known. -/
theorem knows_start : Knows marker [] start [] where
  buffer channel := by cases channel <;> rfl
  lastError := rfl
  lastFatal := rfl
  texts _ := rfl
  isLine := nofun

variable {hearings : List Hearing} {lines : List BuildEvent} {hearing : Hearing}

/-- What is reported of some lines. -/
theorem textsOn_report (channel other : Channel) (cut : List (List UInt8)) :
    textsOn channel (lines ++ (supervision.report marker other cut).2)
      = textsOn channel lines ++ if other = channel then cut.map lineText else [] := by
  rw [← textsOn_map_line channel other]
  exact List.filterMap_append

theorem buffer_report (channel other : Channel) (cut : List (List UInt8)) :
    (supervision.report marker other cut).1.buffer channel = supervision.buffer channel := by
  cases other with
  | out => rfl
  | err =>
    show ((cut.map lineText).foldl (note marker) supervision).buffer channel = _
    rw [foldl_note]
    cases channel <;> rfl

theorem buffer_withBuffer (channel other : Channel) (buffer : LineBuffer) :
    (supervision.withBuffer other buffer).buffer channel
      = if other = channel then buffer else supervision.buffer channel := by
  cases channel <;> cases other <;> rfl

/-- **One thing more is heard.** -/
theorem Knows.hear (knows : Knows marker hearings supervision lines)
    (possible : hearing.IsPossible hearings) :
    Knows marker (hearings ++ [hearing]) (supervision.hear marker hearing).1
      (lines ++ (supervision.hear marker hearing).2) := by
  obtain ⟨line, texts⟩ := heard_here possible
  have elsewhere : ∀ channel, hearing.channel ≠ channel →
      openLine channel (hearings ++ [hearing]) = openLine channel hearings
        ∧ reportedTexts channel (hearings ++ [hearing]) = reportedTexts channel hearings :=
    fun _ => heard_elsewhere
  rw [← knows.buffer hearing.channel] at line texts
  rw [hear_eq]
  generalize hearing.cut (supervision.buffer hearing.channel) = cut at line texts
  constructor
  case buffer =>
    intro channel
    rw [buffer_report, buffer_withBuffer]
    by_cases here : hearing.channel = channel
    · rw [if_pos here, ← here, line]
    · rw [if_neg here, (elsewhere channel here).1, knows.buffer]
  case texts =>
    intro channel
    rw [textsOn_report, knows.texts]
    by_cases here : hearing.channel = channel
    · rw [if_pos here, ← here, texts]
    · rw [if_neg here, (elsewhere channel here).2, List.append_nil]
  case isLine =>
    intro event member
    rcases List.mem_append.1 member with before | now
    · exact knows.isLine event before
    · obtain ⟨text, _, rfl⟩ := List.mem_map.1 now
      rfl
  case lastError =>
    cases here : hearing.channel with
    | out =>
      rw [(elsewhere .err (by rw [here]; nofun)).2]
      exact knows.lastError
    | err =>
      rw [here] at texts
      show ((cut.2.map lineText).foldl (note marker) _).lastError = _
      rw [foldl_note, texts, List.getLast?_append, ← knows.lastError]
      rfl
  case lastFatal =>
    cases here : hearing.channel with
    | out =>
      rw [(elsewhere .err (by rw [here]; nofun)).2]
      exact knows.lastFatal
    | err =>
      rw [here] at texts
      show ((cut.2.map lineText).foldl (note marker) _).lastFatal = _
      rw [foldl_note, texts, List.filter_append, List.getLast?_append, ← knows.lastFatal]
      rfl

/-! ### Why a build fails -/

/-- The reason for which a program is found to have failed: the last line of errors with the marker,
or else the last one, or else how it has ended. -/
def failure (marker program : String) (errors : List String) (status : ExitStatus) : String :=
  ((errors.filter (holds · marker)).getLast?.or errors.getLast?).getD
    s!"{program} exited with {status.description}"

theorem filter_holds_eq_nil_iff (texts : List String) :
    texts.filter (holds · marker) = [] ↔ ∀ text ∈ texts, ¬ marker.toList <:+: text.toList := by
  simp only [List.filter_eq_nil_iff, holds, occursIn_iff]

/-- What is found depends on how the program has ended and on its lines of errors. -/
theorem Knows.verdict_eq (knows : Knows marker hearings supervision lines) (program : String)
    (status : ExitStatus) :
    supervision.verdict program status
      = if status = .code 0 ∧ (reportedTexts .err hearings).filter (holds · marker) = [] then .ok ()
        else .error (.toolchain
          (failure marker program (reportedTexts .err hearings) status)) := by
  have clean : (status.isSuccess && supervision.lastFatal.isNone) = true ↔ status = .code 0
      ∧ (reportedTexts .err hearings).filter (holds · marker) = [] := by
    rw [Bool.and_eq_true, knows.lastFatal, Option.isNone_iff_eq_none, List.getLast?_eq_none_iff,
      ExitStatus.isSuccess, decide_eq_true_eq]
  rw [verdict, failure, ← knows.lastFatal, ← knows.lastError]
  by_cases succeeded : (status.isSuccess && supervision.lastFatal.isNone) = true
  · rw [if_pos succeeded, if_pos (clean.1 succeeded)]
  · rw [if_neg succeeded, if_neg (succeeded ∘ clean.2)]
    cases supervision.lastFatal <;> rfl

end Supervision
end Cartridge
