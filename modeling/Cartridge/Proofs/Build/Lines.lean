import Mathlib.Data.List.Forall2
import Cartridge.Build.Event
import Cartridge.Proofs.Text.Utf8

/-!
# Lines of output that comes in pieces

A line ends at a line feed, or where the output ends. It makes no difference into which pieces the
output is cut.

* `outputLines`: the lines of a whole output.
* `ShowsLine`: the text of a line. `lineText_eq_iff`: it is the one that is reported.
* `Prints`: the texts of the lines of a whole output.
* `LineBuffer.feed_append`: two pieces have the same lines as both of them at once.
* `LineBuffer.ended_append_rest`: what has ended, and what ends because nothing more comes, are the
  lines of the whole output.
-/

namespace Cartridge

/-- What stands between line feeds. -/
def segments (output : List UInt8) : List (List UInt8) := output.splitOn 0x0A

/-- **The lines of an output**: all that stands between line feeds. Only behind the last one there
is no line if there is nothing. -/
def outputLines (output : List UInt8) : List (List UInt8) :=
  (segments output).dropLast ++ ((segments output).getLast?.toList.filter (· ≠ []))

theorem segments_of_not_mem {line : List UInt8} (whole : LineBuffer.lineFeed ∉ line) :
    segments line = [line] :=
  List.splitOn_eq_singleton whole

theorem segments_append_cons {line : List UInt8} (whole : LineBuffer.lineFeed ∉ line)
    (rest : List UInt8) :
    segments (line ++ LineBuffer.lineFeed :: rest) = line :: segments rest := by
  have cut : segments (line ++ LineBuffer.lineFeed :: rest) = segments line ++ segments rest :=
    List.splitOnP_append_cons line rest (beq_self_eq_true _)
  rw [cut, segments_of_not_mem whole, List.singleton_append]

theorem segments_ne_nil (output : List UInt8) : segments output ≠ [] :=
  List.splitOnP_ne_nil _ output

theorem outputLines_of_not_mem {line : List UInt8} (whole : LineBuffer.lineFeed ∉ line) :
    outputLines line = if line = [] then [] else [line] := by
  rw [outputLines, segments_of_not_mem whole]
  by_cases blank : line = [] <;> simp [blank]

theorem outputLines_append_cons {line : List UInt8} (whole : LineBuffer.lineFeed ∉ line)
    (rest : List UInt8) :
    outputLines (line ++ LineBuffer.lineFeed :: rest) = line :: outputLines rest := by
  rw [outputLines, segments_append_cons whole,
    List.dropLast_cons_of_ne_nil (segments_ne_nil rest), List.getLast?_cons_of_ne_nil
      (segments_ne_nil rest), List.cons_append, outputLines]

/-! ### The texts of lines -/

/-- **The text of a line**: a carriage return at its end does not count, but only one. -/
def ShowsLine (line : List UInt8) (text : String) : Prop :=
  ∃ kept, Utf8.Shows kept text.toList
    ∧ (line = kept ++ [0x0D] ∨ line = kept ∧ kept.getLast? ≠ some 0x0D)

/-- A line loses one carriage return at its end, if there is one. -/
theorem withoutReturn_eq_iff {line kept : List UInt8} :
    withoutReturn line = kept
      ↔ line = kept ++ [0x0D] ∨ line = kept ∧ kept.getLast? ≠ some 0x0D := by
  unfold withoutReturn
  split
  case isTrue ends =>
    have whole : line = line.dropLast ++ [0x0D] :=
      (List.dropLast_append_getLast? _ ends).symm
    constructor
    · rintro rfl
      exact .inl whole
    · rintro (same | ⟨rfl, other⟩)
      · rw [same, List.dropLast_concat]
      · exact absurd ends other
  case isFalse other =>
    constructor
    · rintro rfl
      exact .inr ⟨rfl, other⟩
    · rintro (rfl | ⟨rfl, _⟩)
      · exact absurd List.getLast?_concat other
      · rfl

/-- **The text that is reported for a line** is the one that it shows. -/
theorem lineText_eq_iff {line : List UInt8} {text : String} :
    lineText line = text ↔ ShowsLine line text := by
  rw [lineText, Utf8.lossy_eq_iff]
  constructor
  · exact fun shown => ⟨_, shown, withoutReturn_eq_iff.1 rfl⟩
  · rintro ⟨kept, shown, whole⟩
    rwa [withoutReturn_eq_iff.2 whole]

/-- **The texts that an output prints**, line by line. -/
def Prints (output : List UInt8) (texts : List String) : Prop :=
  List.Forall₂ ShowsLine (outputLines output) texts

/-- The texts of the lines of an output. -/
def outputTexts (output : List UInt8) : List String := (outputLines output).map lineText

/-- **An output prints the texts that are reported for its lines**, and no others. -/
theorem outputTexts_eq_iff {output : List UInt8} {texts : List String} :
    outputTexts output = texts ↔ Prints output texts := by
  have reported : ShowsLine = fun line text => lineText line = text := by
    funext line text
    exact propext lineText_eq_iff.symm
  rw [Prints, outputTexts, reported, ← List.forall₂_eq_eq_eq, List.forall₂_map_left_iff]

namespace LineBuffer

theorem take_eq (buffer : LineBuffer) (ended : List (List UInt8)) (byte : UInt8) :
    take (buffer, ended) byte
      = ((take (buffer, []) byte).1, (take (buffer, []) byte).2 ++ ended) := by
  unfold take
  split <;> rfl

/-- Taking in bytes leaves the lines that have ended before. -/
theorem foldl_take (bytes : List UInt8) (buffer : LineBuffer) (ended : List (List UInt8)) :
    bytes.foldl take (buffer, ended)
      = ((buffer.feed bytes).1, (buffer.feed bytes).2.reverse ++ ended) := by
  induction bytes generalizing buffer ended with
  | nil => rfl
  | cons byte bytes ih =>
    have start : buffer.feed (byte :: bytes)
        = ((bytes.foldl take (take (buffer, []) byte)).1,
          (bytes.foldl take (take (buffer, []) byte)).2.reverse) := rfl
    rw [start, List.foldl_cons, take_eq, ih, ih, List.reverse_reverse, List.append_assoc]

theorem feed_nil (buffer : LineBuffer) : buffer.feed [] = (buffer, []) := rfl

/-- **Two pieces have the same lines as both of them at once.** -/
theorem feed_append (buffer : LineBuffer) (first second : List UInt8) :
    buffer.feed (first ++ second)
      = (((buffer.feed first).1.feed second).1,
        (buffer.feed first).2 ++ ((buffer.feed first).1.feed second).2) := by
  have whole : buffer.feed (first ++ second)
      = (((first ++ second).foldl take (buffer, [])).1,
        ((first ++ second).foldl take (buffer, [])).2.reverse) := rfl
  rw [whole, List.foldl_append, foldl_take first, foldl_take second]
  simp

theorem feed_singleton (buffer : LineBuffer) (byte : UInt8) :
    buffer.feed [byte] = if byte = lineFeed then (empty, [buffer.begun.reverse])
      else (⟨byte :: buffer.begun⟩, []) := by
  show ((take (buffer, []) byte).1, (take (buffer, []) byte).2.reverse) = _
  unfold take
  by_cases isEnd : byte = lineFeed <;> simp [isEnd]

/-- **What has ended, and what ends because nothing more comes**, are the lines of the whole. The
induction is on the bytes, with the line that has begun before them. -/
theorem feed_append_rest (bytes : List UInt8) (buffer : LineBuffer)
    (whole : lineFeed ∉ buffer.begun) :
    (buffer.feed bytes).2 ++ (buffer.feed bytes).1.rest
      = outputLines (buffer.begun.reverse ++ bytes) := by
  induction bytes generalizing buffer with
  | nil =>
    have line : lineFeed ∉ buffer.begun.reverse := by rwa [List.mem_reverse]
    rw [feed_nil, List.append_nil, outputLines_of_not_mem line, rest]
    cases buffer.begun <;> simp
  | cons byte bytes ih =>
    rw [← List.singleton_append, feed_append, feed_singleton]
    by_cases isEnd : byte = lineFeed
    · have line : lineFeed ∉ buffer.begun.reverse := by rwa [List.mem_reverse]
      have later := ih empty List.not_mem_nil
      rw [if_pos isEnd, isEnd, List.singleton_append, List.singleton_append,
        outputLines_append_cons line]
      simpa [empty] using later
    · have longer : lineFeed ∉ byte :: buffer.begun := by
        rw [List.mem_cons, not_or]
        exact ⟨Ne.symm isEnd, whole⟩
      have later := ih ⟨byte :: buffer.begun⟩ longer
      rw [if_neg isEnd]
      simpa using later

/-- The lines that have ended and the one that is left are the lines of the whole output. -/
theorem ended_append_rest (output : List UInt8) :
    (empty.feed output).2 ++ (empty.feed output).1.rest = outputLines output :=
  feed_append_rest output empty List.not_mem_nil

/-- What has ended stays, whatever comes. -/
theorem ended_isPrefix (output more : List UInt8) :
    (empty.feed output).2 <+: outputLines (output ++ more) := by
  rw [← ended_append_rest, feed_append, List.append_assoc]
  exact List.prefix_append _ _

end LineBuffer
end Cartridge
