import Mathlib.Data.List.Perm.Basic
import Cartridge.Asset.Payload
import Cartridge.Proofs.Asset.Pitch
import Cartridge.Proofs.Text.Line
import Cartridge.Proofs.Text.Utf8

/-!
# Songs line by line

A song has a row for each line that holds a note. Lines without one count for the numbers of lines,
but not for the rows.

* `Song.HoldsNote`: the notes of a text, with the numbers of their lines.
* `Song.Lists`: all of them, in the order of the lines. `Song.lists_notes`, `Song.Lists.eq_notes`:
  they are those that are encoded.
* `AssetKind.payload_isScored`: a song has the rows of all notes, or it is refused for the first of
  three reasons that it gives.
-/

namespace Cartridge
namespace Song

/-- **A note of a text**: a line without the blanks at its ends, if that holds something and does not
start with `#`. -/
def HoldsNote (text : String) (number : Nat) (note : List Char) : Prop :=
  (∃ before line after, IsLine text.toList number before line after
      ∧ ∃ front back, Trims line front note back)
    ∧ note ≠ [] ∧ note.head? ≠ some '#'

/-- **The notes of a text in the order of its lines**, each with the number of its line. -/
structure Lists (text : String) (found : List (List Char × Nat)) : Prop where
  ordered : found.Pairwise fun earlier later => earlier.2 < later.2
  mem_iff : ∀ note number, (note, number) ∈ found ↔ HoldsNote text number note

variable {text : String} {found : List (List Char × Nat)}

theorem isRemark_eq_false_iff {note : List Char} :
    isRemark note = false ↔ note ≠ [] ∧ note.head? ≠ some '#' := by
  cases note <;> simp [isRemark]

/-- The notes that are encoded are those of the text. -/
theorem lists_notes (text : String) : Lists text (notes text) where
  ordered := by
    have numbers : (((lines text.toList).map trim).zipIdx 1).Pairwise
        fun earlier later => earlier.2 < later.2 := by
      rw [← List.pairwise_map (f := Prod.snd) (R := (· < ·)), List.zipIdx_map_snd]
      exact List.pairwise_lt_range'
    exact numbers.filter _
  mem_iff := by
    intro note number
    rw [notes, List.mem_filter, HoldsNote, Bool.not_eq_true', isRemark_eq_false_iff,
      List.zipIdx_map, List.mem_map]
    refine and_congr ⟨?_, ?_⟩ Iff.rfl
    · rintro ⟨⟨line, _⟩, member, same⟩
      cases same
      obtain ⟨before, after, standing⟩ := mem_zipIdx_lines_iff.1 member
      exact ⟨before, line, after, standing, trim_eq_iff.1 rfl⟩
    · rintro ⟨before, line, after, standing, trims⟩
      refine ⟨(line, number), mem_zipIdx_lines_iff.2 ⟨before, after, standing⟩, ?_⟩
      rw [Prod.map_apply, trim_eq_iff.2 trims]
      rfl

/-- There is only one list of the notes of a text. -/
theorem Lists.eq_notes (lists : Lists text found) : found = notes text := by
  have unique : ∀ {items : List (List Char × Nat)},
      items.Pairwise (fun earlier later => earlier.2 < later.2) → items.Nodup := by
    intro items ordered
    exact ordered.imp fun less same => absurd (same ▸ less) (Nat.lt_irrefl _)
  have others := lists_notes text
  have perm : found.Perm (notes text) :=
    (List.perm_ext_iff_of_nodup (unique lists.ordered) (unique others.ordered)).2
      fun (note, number) => (lists.mem_iff note number).trans (others.mem_iff note number).symm
  refine perm.eq_of_pairwise ?_ lists.ordered others.ordered
  intro first second _ _ less greater
  exact absurd (Nat.lt_trans less greater) (Nat.lt_irrefl _)

/-- Whether every note has a register. -/
def HasRegisters (notes : List (List Char × Nat)) : Prop :=
  ∀ note ∈ notes, ∃ row, Note.register note.1 = .ok row

/-- **What bytes come to as a song.** -/
structure IsScored (bytes : List UInt8) (outcome : Except AssetFault (List UInt8)) : Prop where
  /-- There is a song just for a text all of whose notes have registers and can be counted. -/
  accepted : (∃ payload, outcome = .ok payload) ↔ ∃ text notes, bytes = encoded text
    ∧ Lists text notes ∧ HasRegisters notes ∧ notes.length ≤ 65535
  /-- It holds the number of the notes, then the register of each of them, in two bytes each. -/
  stored : ∀ payload, outcome = .ok payload → ∃ text notes rows, bytes = encoded text
    ∧ Lists text notes ∧ List.Forall₂ (fun note row => Note.register note.1 = .ok row) notes rows
    ∧ payload.map UInt8.toNat = (notes.length :: rows.map UInt16.toNat).flatMap
      fun number => [number % 256, number / 256]
  /-- Whatever else there is to say, it is said first that bytes are not a text, -/
  notText : (∃ fault, outcome = .error (.song (.notText fault))) ↔ ∀ text, bytes ≠ encoded text
  /-- then which line is the first one whose note has no register, -/
  badLine : ∀ number note fault, outcome = .error (.song (.badLine number note fault))
    ↔ ∃ text, bytes = encoded text ∧ HoldsNote text number note.toList
      ∧ Note.register note.toList = .error fault
      ∧ ∀ earlier other, HoldsNote text earlier other → earlier < number →
        ∃ row, Note.register other = .ok row
  /-- then that there are too many notes. -/
  tooManyRows : ∀ count, outcome = .error (.song (.tooManyRows count))
    ↔ ∃ text notes, bytes = encoded text ∧ Lists text notes ∧ HasRegisters notes
      ∧ notes.length = count ∧ 65535 < count
  /-- There is no other reason for which a song is refused. -/
  refused : ∀ fault, outcome = .error fault → ∃ reason, fault = .song reason

variable {bytes : List UInt8} {outcome : Except AssetFault (List UInt8)}

/-- What is said of the bytes of a text is said of that text. -/
theorem exists_text_iff {holds : String → Prop} :
    (∃ other, encoded text = encoded other ∧ holds other) ↔ holds text := by
  constructor
  · rintro ⟨other, same, stands⟩
    rwa [encoded_injective same]
  · intro stands
    exact ⟨text, rfl, stands⟩

/-- What is said of the notes in some bytes is said of those that are encoded. -/
theorem exists_notes_iff {holds : List (List Char × Nat) → Prop} :
    (∃ other found, encoded text = encoded other ∧ Lists other found ∧ holds found)
      ↔ holds (notes text) := by
  constructor
  · rintro ⟨other, found, same, lists, stands⟩
    rwa [encoded_injective same, ← lists.eq_notes]
  · intro stands
    exact ⟨text, _, rfl, lists_notes text, stands⟩

/-- Two bytes show the number of a word. -/
theorem map_toNat_littleEndian (word : UInt16) :
    (littleEndian word).map UInt8.toNat = [word.toNat % 256, word.toNat / 256] := by
  have low : word.toUInt8.toNat = word.toNat % 256 := UInt16.toNat_toUInt8 word
  have high : (word >>> 8).toUInt8.toNat = word.toNat / 256 := by
    have small := word.toNat_lt
    rw [UInt16.toNat_toUInt8, UInt16.toNat_shiftRight, Nat.shiftRight_eq_div_pow]
    exact Nat.mod_eq_of_lt (by show word.toNat / 256 < 256; omega)
  rw [littleEndian, List.map_cons, List.map_singleton, low, high]

/-- The bytes of a text are not refused for not being one. -/
theorem notText_iff_of_ne (other : ∀ fault, outcome ≠ .error (.song (.notText fault))) :
    (∃ fault, outcome = .error (.song (.notText fault)))
      ↔ ∀ same, encoded text ≠ encoded same := by
  constructor
  · rintro ⟨fault, failed⟩
    exact absurd failed (other fault)
  · intro noText
    exact absurd rfl (noText text)

section Bad

variable {before after : List (List Char × Nat)} {line note : List Char} {number place : Nat}
  {fault reason : Note.Fault}

/-- A note stands before the first bad one, or it is that, or it stands behind it. -/
theorem cases_of_holdsNote (whole : notes text = before ++ (line, number) :: after)
    (holds : HoldsNote text place note) :
    (note, place) ∈ before ∧ place < number ∨ note = line ∧ place = number ∨ number < place := by
  have lists := lists_notes text
  have ordered := lists.ordered
  rw [whole, List.pairwise_append, List.pairwise_cons] at ordered
  have member := (lists.mem_iff note place).2 holds
  rw [whole, List.mem_append, List.mem_cons] at member
  rcases member with earlier | same | later
  · exact .inl ⟨earlier, ordered.2.2 _ earlier _ List.mem_cons_self⟩
  · cases same
    exact .inr (.inl ⟨rfl, rfl⟩)
  · exact .inr (.inr (ordered.2.1.1 _ later))

/-- **The first bad note is the one before which all others are good.** -/
theorem isFirst_iff (whole : notes text = before ++ (line, number) :: after)
    (good : ∀ earlier ∈ before, ∃ row, Note.register earlier.1 = .ok row)
    (bad : Note.register line = .error fault) :
    (HoldsNote text place note ∧ Note.register note = .error reason
        ∧ ∀ earlier other, HoldsNote text earlier other → earlier < place →
          ∃ row, Note.register other = .ok row)
      ↔ note = line ∧ place = number ∧ reason = fault := by
  have holds : HoldsNote text number line :=
    ((lists_notes text).mem_iff line number).1 (by rw [whole]; simp)
  constructor
  · rintro ⟨holdsNote, alsoBad, first⟩
    rcases cases_of_holdsNote whole holdsNote with ⟨earlier, -⟩ | ⟨rfl, rfl⟩ | later
    · obtain ⟨row, registered⟩ := good _ earlier
      cases alsoBad.symm.trans registered
    · cases alsoBad.symm.trans bad
      exact ⟨rfl, rfl, rfl⟩
    · obtain ⟨row, registered⟩ := first number line holds later
      cases bad.symm.trans registered
  · rintro ⟨rfl, rfl, rfl⟩
    refine ⟨holds, bad, ?_⟩
    intro earlier other holdsOther less
    rcases cases_of_holdsNote whole holdsOther with ⟨member, -⟩ | ⟨-, rfl⟩ | later
    · exact good _ member
    · exact absurd less (Nat.lt_irrefl _)
    · exact absurd later (Nat.lt_asymm less)

theorem isScored_badLine (whole : notes text = before ++ (line, number) :: after)
    (good : ∀ earlier ∈ before, ∃ row, Note.register earlier.1 = .ok row)
    (bad : Note.register line = .error fault) :
    IsScored (encoded text) (.error (.song (.badLine number (String.ofList line) fault))) := by
  have none : ¬ HasRegisters (notes text) := by
    intro all
    obtain ⟨row, registered⟩ := all (line, number) (by rw [whole]; simp)
    cases bad.symm.trans registered
  constructor
  · rw [exists_notes_iff]
    simp [none]
  · intro payload made
    cases made
  · exact notText_iff_of_ne fun _ failed => by cases failed
  · intro place note reason
    rw [exists_text_iff, isFirst_iff whole good bad]
    simp [← String.toList_inj, and_left_comm, eq_comm]
  · intro count
    rw [exists_notes_iff]
    simp [none]
  · intro reason failed
    cases failed
    exact ⟨_, rfl⟩

end Bad

/-- A bad line is not reported where all notes have registers. -/
theorem badLine_iff_of_ne (all : HasRegisters (notes text)) {number : Nat} {note : String}
    {fault : Note.Fault} (other : outcome ≠ .error (.song (.badLine number note fault))) :
    outcome = .error (.song (.badLine number note fault))
      ↔ ∃ same, encoded text = encoded same ∧ HoldsNote same number note.toList
        ∧ Note.register note.toList = .error fault
        ∧ ∀ earlier note, HoldsNote same earlier note → earlier < number →
          ∃ row, Note.register note = .ok row := by
  rw [exists_text_iff]
  refine ⟨fun failed => absurd failed other, ?_⟩
  rintro ⟨holds, bad, -⟩
  obtain ⟨row, registered⟩ :=
    all _ (((lists_notes text).mem_iff note.toList number).2 holds)
  cases bad.symm.trans registered

theorem isScored_stored {rows : List UInt16}
    (registered : List.Forall₂ (fun line row => Note.register line.1 = .ok row) (notes text) rows) :
    IsScored (encoded text) ((stored rows).mapError .song) := by
  have all : HasRegisters (notes text) := by
    intro note member
    obtain ⟨row, _, found⟩ := exists_of_mem_of_forall₂ (List.Forall₂.flip registered) member
    exact ⟨row, found⟩
  have length : (notes text).length = rows.length := registered.length_eq
  unfold stored
  split
  · next many =>
    constructor
    · rw [exists_notes_iff, length]
      simp [Except.mapError, many]
    · intro payload made
      cases made
    · exact notText_iff_of_ne fun _ failed => by cases failed
    · intro number note fault
      exact badLine_iff_of_ne all fun failed => by cases failed
    · intro count
      rw [exists_notes_iff, length]
      constructor
      · intro failed
        cases failed
        exact ⟨all, rfl, many⟩
      · rintro ⟨-, rfl, -⟩
        rfl
    · intro fault failed
      cases failed
      exact ⟨_, rfl⟩
  · next few =>
    have few := Nat.not_lt.1 few
    constructor
    · rw [exists_notes_iff, length]
      exact ⟨fun _ => ⟨all, few⟩, fun _ => ⟨_, rfl⟩⟩
    · intro payload made
      cases made
      refine ⟨text, _, rows, rfl, lists_notes text, registered, ?_⟩
      have count : (UInt16.ofNat rows.length).toNat = rows.length :=
        UInt16.toNat_ofNat_of_lt' (Nat.lt_succ_of_le few)
      rw [List.map_append, map_toNat_littleEndian, count, length, List.flatMap_cons,
        List.map_flatMap, List.flatMap_map]
      simp [map_toNat_littleEndian]
    · exact notText_iff_of_ne fun _ failed => by cases failed
    · intro number note fault
      exact badLine_iff_of_ne all fun failed => by cases failed
    · intro count
      rw [exists_notes_iff, length]
      constructor
      · intro failed
        cases failed
      · rintro ⟨-, rfl, many⟩
        exact absurd few (Nat.not_le.2 many)
    · intro fault failed
      cases failed

theorem isScored_notText {fault : Utf8.Fault} (noText : ∀ text, bytes ≠ encoded text) :
    IsScored bytes (.error (.song (.notText fault))) := by
  constructor
  · simp [noText]
  · intro payload made
    cases made
  · exact ⟨fun _ => noText, fun _ => ⟨fault, rfl⟩⟩
  · simp [noText]
  · simp [noText]
  · intro reason failed
    cases failed
    exact ⟨_, rfl⟩

end Song

/-- **A song has the rows of all notes of its text**, or it is refused: for not being a text, else for
its first bad line, else for having too many notes. -/
theorem AssetKind.payload_isScored (path : String) (file : ByteArray) :
    Song.IsScored file.toList (AssetKind.song.payload path file) := by
  show Song.IsScored file.toList ((Song.payload file.toList).mapError .song)
  generalize file.toList = bytes
  cases read : Utf8.decode bytes with
  | error fault =>
    have refused : Song.payload bytes = .error (.notText fault) := by
      rw [Song.payload, read]
      rfl
    rw [refused]
    refine Song.isScored_notText fun text same => ?_
    cases read.symm.trans (Utf8.decode_eq_ok_iff.2 same)
  | ok text =>
    obtain rfl := Utf8.decode_eq_ok_iff.1 read
    rcases Song.payload_cases read with
      ⟨rows, registered, made⟩ | ⟨before, line, number, after, fault, whole, good, bad, made⟩
    · rw [made]
      exact Song.isScored_stored registered
    · rw [made]
      exact Song.isScored_badLine whole good bad

end Cartridge
