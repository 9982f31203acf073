import Cartridge.Asset.Song
import Cartridge.Proofs.Asset.Packing

/-!
# The numbers of notes

A note is played at the frequency that its number says, and the number is computed in 32 bits. Here
are the octaves for which that can be done. Over a note of any other octave the program crashes.

* `toNat_toUInt16_lt`: a floating-point number below 2048, cut off, is below 2048.
* `Note.Writes`: the semitone and the octave that a line gives.
* `Note.number`, `Note.Fits`: the number of a note, and whether it is computed within 32 bits.
* `Note.fits_iff`: the octaves for which it is.
* `Note.pitch_eq_ok_iff`: the number is computed for these, and for no others.
* `Note.register_cases`: a line is a rest or a note, or it has a fault.
* `Note.IsPlayed`: what a note is played as.
* `Song.payload_cases`: a song has the registers of all lines, or its first bad line is reported.
* `Song.crashes_iff`: the songs over which the program crashes.
* `Song.payload_isPlayed`: what becomes of the notes of a song, and of the assets around it.
-/

namespace Cartridge

/-! ### Floating-point numbers below a bound -/

section Cut

open Float.Model Float.Model.UnpackedFloat

theorem mantissa_shiftRight (extended : ExtendedMantissa) (count : Nat) :
    (extended >>> count).mantissa = extended.mantissa / 2 ^ count := by
  induction count with
  | zero => exact (Nat.div_one _).symm
  | succ count ih =>
    show (extended >>> count).mantissa / 2 = _
    rw [ih, Nat.div_div_eq_div_mul, Nat.pow_succ]

theorem roundToInt_of_nonpos (sign : Sign) (mantissa : Nat) {exponent : Int}
    (nonpos : exponent ≤ 0) :
    roundToInt sign mantissa exponent = sign.apply (mantissa / 2 ^ (-exponent).toNat : Nat) := by
  have none : (exponent - 0).toNat = 0 := by omega
  rw [roundToInt, decreaseExponent, none]
  dsimp only
  rw [shiftToExponent]
  dsimp only
  rw [mantissa_shiftRight]
  simp [ExtendedMantissa.ofMantissaAndAccuracy]

theorem mantissa_lt_of_unpack {number : Float.Model} {sign : Sign} {mantissa : Nat} {exponent : Int}
    {positive : 0 < mantissa} (unpacked : number.unpack = .finite sign mantissa exponent positive) :
    mantissa < 2 ^ 53 := by
  unfold Float.Model.unpack UnpackedFloat.unpack at unpacked
  dsimp only at unpacked
  split at unpacked
  · split at unpacked <;> cases unpacked
  · split at unpacked
    · split at unpacked
      · cases unpacked
      · cases unpacked
        omega
    · cases unpacked
      exact BitVec.isLt _

/-- The number 2048 as a mantissa and an exponent. -/
def unpacked2048 : UnpackedFloat := .finite .positive (2 ^ 52) (-41) (by decide)

theorem unpack_2048 : (2048.0 : Float).toModel.unpack = unpacked2048 := by
  have bits : (2048.0 : Float).toModel.toBits = 0x40A0000000000000 := by decide +kernel
  rw [Float.Model.unpack, bits]
  rfl

theorem exponent_lt_or_of_lt {mantissa : Nat} {exponent : Int} {positive : 0 < mantissa}
    (less : UnpackedFloat.lt (.finite .positive mantissa exponent positive) unpacked2048 = true) :
    exponent < -41 ∨ exponent = -41 ∧ mantissa < 2 ^ 52 := by
  have ordered : (compare exponent (-41)).then (compare mantissa (2 ^ 52)) = .lt := by
    simpa [UnpackedFloat.lt, UnpackedFloat.compare, unpacked2048] using less
  rw [Ordering.then_eq_lt, Int.compare_eq_lt, Int.compare_eq_eq, Nat.compare_eq_lt] at ordered
  exact ordered

theorem toInt_lt_of_lt {number : UnpackedFloat} (less : number.lt unpacked2048 = true)
    (bounded : ∀ sign mantissa exponent positive,
      number = .finite sign mantissa exponent positive → mantissa < 2 ^ 53) (greatest : Int) :
    number.toInt 0 greatest < 2048 := by
  cases number with
  | infinity sign =>
    cases sign with
    | negative => exact (by decide : (0 : Int) < 2048)
    | positive => cases less
  | notANumber => cases less
  | zero sign => exact (by decide : (0 : Int) < 2048)
  | finite sign mantissa exponent positive =>
    have small := bounded _ _ _ _ rfl
    cases sign with
    | negative =>
      exact Int.lt_of_le_of_lt (Int.neg_nonpos_of_nonneg (Int.natCast_nonneg _)) (by decide)
    | positive =>
      have near := exponent_lt_or_of_lt less
      have nonpos : exponent ≤ 0 := by omega
      have fits : mantissa < 2 ^ (-exponent).toNat * 2048 := by
        rcases near with far | ⟨rfl, fewer⟩
        · have power : 2 ^ 42 ≤ 2 ^ (-exponent).toNat := Nat.pow_le_pow_right (by decide) (by omega)
          omega
        · exact fewer
      rw [UnpackedFloat.toInt, roundToInt_of_nonpos _ mantissa nonpos]
      exact Int.ofNat_lt.2 (Nat.div_lt_of_lt_mul fits)

/-- **A floating-point number below 2048, cut off, is below 2048.** -/
theorem toNat_toUInt16_lt {number : Float} (below : number < 2048.0) :
    number.toUInt16.toNat < 2048 := by
  have less : number.toModel.unpack.lt (2048.0 : Float).toModel.unpack = true :=
    of_decide_eq_true below
  rw [unpack_2048] at less
  have small := toInt_lt_of_lt less (fun _ _ _ _ unpacked => mantissa_lt_of_unpack unpacked)
    (UInt16.size - 1)
  have few : (number.toModel.unpack.toInt 0 (UInt16.size - 1)).toNat < 2048 := by omega
  show (UInt16.ofNatClamp (number.toModel.unpack.toInt 0 (UInt16.size - 1)).toNat).toNat < 2048
  rw [UInt16.ofNatClamp, dif_pos (Nat.lt_trans few (by decide)), UInt16.toNat_ofNatLT]
  exact few

end Cut

namespace Note

/-! ### The number of a note -/

/-- The semitone and the octave that a line gives. -/
inductive Writes : List Char → Int32 → Int32 → Prop where
  | natural {letter : Char} {digits : List Char} {semitone octave : Int32} :
    semitone? letter = some semitone → octave? digits = some octave →
      Writes (letter :: '-' :: digits) semitone octave
  | sharp {letter : Char} {digits : List Char} {semitone octave : Int32} :
    semitone? letter = some semitone → octave? digits = some octave →
      Writes (letter :: '#' :: digits) (semitone + 1) octave

/-- The number of a note, whatever its size. -/
def number (semitone octave : Int32) : Int := (octave.toInt + 1) * 12 + semitone.toInt - 69

/-- Whether a number has 32 bits. -/
def IsInt32 (number : Int) : Prop := -2 ^ 31 ≤ number ∧ number < 2 ^ 31

/-- **The number of a note is computed within 32 bits**: none of the numbers on the way is beyond
them. -/
structure Fits (semitone octave : Int32) : Prop where
  next : IsInt32 (octave.toInt + 1)
  scaled : IsInt32 ((octave.toInt + 1) * 12)
  raised : IsInt32 ((octave.toInt + 1) * 12 + semitone.toInt)
  lowered : IsInt32 (number semitone octave)

/-- The first octave in which the number of a semitone is computed within 32 bits. -/
def firstOctave (semitone : Int32) : Int := if semitone.toInt = 0 then -178956965 else -178956966

/-- The last octave in which the number of a semitone is computed within 32 bits. -/
def lastOctave (semitone : Int32) : Int := if semitone.toInt < 8 then 178956969 else 178956968

variable {note : List Char} {semitone octave : Int32}

theorem semitone?_bounds {letter : Char} (found : semitone? letter = some semitone) :
    0 ≤ semitone.toInt ∧ semitone.toInt ≤ 11 := by
  unfold semitone? at found
  split at found <;> cases found <;> decide

theorem Writes.bounds (writes : Writes note semitone octave) :
    0 ≤ semitone.toInt ∧ semitone.toInt ≤ 12 := by
  cases writes with
  | natural found _ =>
    have bounds := semitone?_bounds found
    omega
  | @sharp _ _ natural _ found _ =>
    have bounds := semitone?_bounds found
    have one : (1 : Int32).toInt = 1 := rfl
    have raised : (natural + 1).toInt = natural.toInt + 1 := by
      rw [Int32.toInt_add, one]
      exact Int.bmod_eq_of_le (by omega) (by omega)
    omega

/-- The greatest number on the way is the one before the last step, and the least one the last. -/
theorem fits_iff_number (least : 0 ≤ semitone.toInt) (greatest : semitone.toInt ≤ 12) :
    Fits semitone octave
      ↔ -2 ^ 31 ≤ number semitone octave ∧ number semitone octave + 69 < 2 ^ 31 := by
  unfold number
  constructor
  · rintro ⟨_, _, raised, lowered⟩
    unfold IsInt32 at raised
    unfold IsInt32 number at lowered
    omega
  · rintro ⟨low, high⟩
    refine ⟨?_, ?_, ?_, ?_⟩
    · unfold IsInt32
      omega
    · unfold IsInt32
      omega
    · unfold IsInt32
      omega
    · unfold IsInt32 number
      omega

/-- **The octaves for which the number of a note is computed within 32 bits.** -/
theorem fits_iff (least : 0 ≤ semitone.toInt) (greatest : semitone.toInt ≤ 12) :
    Fits semitone octave
      ↔ firstOctave semitone ≤ octave.toInt ∧ octave.toInt ≤ lastOctave semitone := by
  rw [fits_iff_number least greatest]
  unfold number firstOctave lastOctave
  split <;> split <;> omega

theorem isInt32_toInt (word : Int32) : IsInt32 word.toInt := ⟨Int32.le_toInt _, Int32.toInt_lt _⟩

/-- A number of 32 bits is that of a word. -/
theorem IsInt32.exists_toInt {number : Int} (inside : IsInt32 number) :
    ∃ word : Int32, word.toInt = number :=
  ⟨Int32.ofInt number, Int32.toInt_ofInt_of_le inside.1 inside.2⟩

/-- A word is the result of an operation just if it is the number. So there is none for a number
that does not have 32 bits. -/
theorem checked_eq_ok_iff {operation : Overflow} {result : Int} {word : Int32} :
    checked operation result = .ok word ↔ word.toInt = result := by
  unfold checked
  split
  · next inside =>
    have is : (Int32.ofInt result).toInt = result := Int32.toInt_ofInt_of_le inside.1 inside.2
    rw [Except.ok.injEq, ← Int32.toInt_inj, is]
    exact eq_comm
  · next outside =>
    refine ⟨nofun, fun is => ?_⟩
    rw [← is] at outside
    exact absurd (isInt32_toInt word) outside

/-- **The number of a note is computed** just if none of the numbers on the way is beyond 32 bits. -/
theorem pitch_eq_ok_iff {word : Int32} :
    pitch semitone octave = .ok word
      ↔ Fits semitone octave ∧ word.toInt = number semitone octave := by
  constructor
  · intro computed
    obtain ⟨next, nextMade, computed⟩ := bind_eq_ok computed
    obtain ⟨scaled, scaledMade, computed⟩ := bind_eq_ok computed
    obtain ⟨raised, raisedMade, loweredMade⟩ := bind_eq_ok computed
    have nextIs := checked_eq_ok_iff.1 nextMade
    have scaledIs := checked_eq_ok_iff.1 scaledMade
    have raisedIs := checked_eq_ok_iff.1 raisedMade
    have loweredIs := checked_eq_ok_iff.1 loweredMade
    rw [nextIs] at scaledIs
    rw [scaledIs] at raisedIs
    rw [raisedIs] at loweredIs
    refine ⟨⟨?_, ?_, ?_, ?_⟩, loweredIs⟩
    · rw [← nextIs]
      exact isInt32_toInt next
    · rw [← scaledIs]
      exact isInt32_toInt scaled
    · rw [← raisedIs]
      exact isInt32_toInt raised
    · rw [number, ← loweredIs]
      exact isInt32_toInt word
  · rintro ⟨fits, is⟩
    obtain ⟨next, nextIs⟩ := fits.next.exists_toInt
    obtain ⟨scaled, scaledIs⟩ := fits.scaled.exists_toInt
    obtain ⟨raised, raisedIs⟩ := fits.raised.exists_toInt
    rw [number, ← raisedIs] at is
    rw [← scaledIs] at raisedIs
    rw [← nextIs] at scaledIs
    rw [pitch, checked_eq_ok_iff.2 nextIs]
    show checked .multiply (next.toInt * 12) >>= _ = _
    rw [checked_eq_ok_iff.2 scaledIs]
    show checked .add (scaled.toInt + semitone.toInt) >>= _ = _
    rw [checked_eq_ok_iff.2 raisedIs]
    exact checked_eq_ok_iff.2 is

/-! ### What is played -/

/-- What is played for a number. -/
def played (number : Int) : Except Fault UInt16 :=
  let frequency : Float := 440.0 * Float.pow 2.0 (Float.ofInt number / 12.0)
  match registerOf frequency with
  | some register => .ok register
  | none => .error (.outOfRange (Fixed.oneDecimal frequency))

/-- A note whose number is computed is played, and over any other one the program crashes. -/
theorem register_of_writes (writes : Writes note semitone octave) :
    register note = match pitch semitone octave with
      | .error operation => .error (.overflow operation)
      | .ok word => played word.toInt := by
  have notRest : ∀ (letter : Char) (natural : Int32) (rest : List Char),
      semitone? letter = some natural → letter :: rest ≠ ['-', '-', '-'] := by
    intro letter natural rest found same
    cases same
    cases found
  cases writes with
  | natural found parsed =>
    rw [register, if_neg (notRest _ _ _ found)]
    simp only [List.head?_cons, Option.bind_some, found, List.tail_cons, List.drop_succ_cons,
      List.drop_zero, parsed]
    rfl
  | sharp found parsed =>
    rw [register, if_neg (notRest _ _ _ found)]
    simp only [List.head?_cons, Option.bind_some, found, List.tail_cons, List.drop_succ_cons,
      List.drop_zero, parsed]
    rfl

theorem register_of_fits (writes : Writes note semitone octave) (fits : Fits semitone octave) :
    register note = played (number semitone octave) := by
  obtain ⟨word, is⟩ := fits.lowered.exists_toInt
  rw [register_of_writes writes, pitch_eq_ok_iff.2 ⟨fits, is⟩, ← is]

theorem register_of_not_fits (writes : Writes note semitone octave)
    (beyond : ¬ Fits semitone octave) :
    ∃ operation, register note = .error (.overflow operation) := by
  rw [register_of_writes writes]
  cases computed : pitch semitone octave with
  | error operation => exact ⟨operation, rfl⟩
  | ok word => exact absurd (pitch_eq_ok_iff.1 computed).1 beyond

/-- **A register is below 2048.** -/
theorem toNat_lt_of_registerOf {frequency : Float} {row : UInt16}
    (found : registerOf frequency = some row) : row.toNat < 2048 := by
  unfold registerOf at found
  dsimp only at found
  split at found
  · rename_i inside
    cases found
    exact toNat_toUInt16_lt (of_decide_eq_true (Bool.and_eq_true_iff.1 inside).2)
  · cases found

/-- **What is played is a register of the channel, or the frequency is beyond it.** -/
theorem played_cases (number : Int) :
    (∃ row, played number = .ok row ∧ row.toNat < 2048)
      ∨ ∃ frequency, played number = .error (.outOfRange frequency) := by
  unfold played
  dsimp only
  split
  · rename_i row found
    exact .inl ⟨row, rfl, toNat_lt_of_registerOf found⟩
  · exact .inr ⟨_, rfl⟩

/-- **A line is a rest or a note**, or it has a fault that is no crash. -/
theorem register_cases (note : List Char) :
    register note = .ok 0 ∨ (∃ semitone octave, Writes note semitone octave)
      ∨ ∃ fault, register note = .error fault ∧ ∀ operation, fault ≠ .overflow operation := by
  by_cases rest : note = ['-', '-', '-']
  · left
    rw [register, if_pos rest]
  · right
    rw [register, if_neg rest]
    cases heard : note.head?.bind semitone? with
    | none => exact .inr ⟨.badLetter, rfl, nofun⟩
    | some natural =>
      obtain ⟨letter, first, found⟩ := Option.bind_eq_some_iff.1 heard
      obtain ⟨tail, rfl⟩ := List.head?_eq_some_iff.1 first
      cases tail with
      | nil => exact .inr ⟨.badAccidental, rfl, nofun⟩
      | cons accidental digits =>
        by_cases sharp : accidental = '#'
        · subst sharp
          cases parsed : octave? digits with
          | none => exact .inr ⟨.badOctave, by simp [parsed], nofun⟩
          | some octave => exact .inl ⟨_, octave, .sharp found parsed⟩
        · by_cases plain : accidental = '-'
          · subst plain
            cases parsed : octave? digits with
            | none => exact .inr ⟨.badOctave, by simp [parsed], nofun⟩
            | some octave => exact .inl ⟨_, octave, .natural found parsed⟩
          · exact .inr ⟨.badAccidental, by simp [sharp, plain], nofun⟩

/-- **The program crashes over a line just if that is a note whose number is not computed.** -/
theorem overflow_iff (note : List Char) :
    (∃ operation, register note = .error (.overflow operation))
      ↔ ∃ semitone octave, Writes note semitone octave ∧ ¬ Fits semitone octave := by
  constructor
  · rintro ⟨operation, crash⟩
    rcases register_cases note with rest | ⟨semitone, octave, writes⟩ | ⟨fault, failed, other⟩
    · cases crash.symm.trans rest
    · refine ⟨semitone, octave, writes, fun fits => ?_⟩
      rw [register_of_fits writes fits] at crash
      rcases played_cases (number semitone octave) with ⟨_, done, _⟩ | ⟨_, refused⟩
      · cases done.symm.trans crash
      · cases refused.symm.trans crash
    · cases failed.symm.trans crash
      exact absurd rfl (other operation)
  · rintro ⟨semitone, octave, writes, beyond⟩
    exact register_of_not_fits writes beyond

theorem toNat_lt_of_register {row : UInt16} (registered : register note = .ok row) :
    row.toNat < 2048 := by
  rcases register_cases note with rest | ⟨semitone, octave, writes⟩ | ⟨fault, failed, _⟩
  · cases rest.symm.trans registered
    decide
  · by_cases fits : Fits semitone octave
    · rw [register_of_fits writes fits] at registered
      rcases played_cases (number semitone octave) with ⟨found, done, below⟩ | ⟨_, failed⟩
      · cases done.symm.trans registered
        exact below
      · cases failed.symm.trans registered
    · obtain ⟨operation, crash⟩ := register_of_not_fits writes fits
      cases crash.symm.trans registered
  · cases failed.symm.trans registered

/-- **What a written note comes to.** -/
structure IsPlayed (note : List Char) (semitone octave : Int32) : Prop where
  /-- For these octaves the number is computed within 32 bits, -/
  fits_iff : Fits semitone octave
    ↔ firstOctave semitone ≤ octave.toInt ∧ octave.toInt ≤ lastOctave semitone
  /-- and the note of that very number is played: -/
  register_of_fits : Fits semitone octave → register note = played (number semitone octave)
  /-- there is a register of the channel, or the frequency is beyond it. -/
  cases : Fits semitone octave → (∃ row, register note = .ok row ∧ row.toNat < 2048)
    ∨ ∃ frequency, register note = .error (.outOfRange frequency)
  /-- For the other octaves, and for no others, the program crashes. -/
  crashes_iff : (∃ operation, register note = .error (.overflow operation))
    ↔ ¬ Fits semitone octave

theorem Writes.isPlayed (writes : Writes note semitone octave) : IsPlayed note semitone octave where
  fits_iff := Note.fits_iff writes.bounds.1 writes.bounds.2
  register_of_fits := Note.register_of_fits writes
  cases := by
    intro fits
    rw [Note.register_of_fits writes fits]
    exact played_cases _
  crashes_iff := by
    refine ⟨?_, Note.register_of_not_fits writes⟩
    rintro ⟨operation, crash⟩ fits
    rw [Note.register_of_fits writes fits] at crash
    rcases played_cases (number semitone octave) with ⟨_, done, _⟩ | ⟨_, refused⟩
    · cases done.symm.trans crash
    · cases refused.symm.trans crash

end Note

/-! ### Songs -/

namespace Song

/-- The lines that hold notes, with their numbers. -/
def notes (text : String) : List (List Char × Nat) :=
  (((lines text.toList).map trim).zipIdx 1).filter fun (line, _) => !isRemark line

/-- The register of a line, or the fault of the song. -/
def row (line : List Char × Nat) : Except Fault UInt16 :=
  (Note.register line.1).mapError (.badLine line.2 (String.ofList line.1))

/-- The payload of some registers. -/
def stored (rows : List UInt16) : Except Fault (List UInt8) :=
  if 65535 < rows.length then .error (.tooManyRows rows.length)
  else .ok (littleEndian (UInt16.ofNat rows.length) ++ rows.flatMap littleEndian)

variable {bytes : List UInt8} {text : String}

theorem payload_eq (isText : Utf8.decode bytes = .ok text) :
    payload bytes = (notes text).mapM row >>= stored := by
  have rows_eq : rows (((lines text.toList).map trim).zipIdx 1) = (notes text).mapM row := by
    refine congrArg (fun compute => (notes text).mapM compute) (funext ?_)
    rintro ⟨line, number⟩
    unfold row
    dsimp only
    cases Note.register line <;> rfl
  unfold payload
  rw [isText]
  dsimp only
  rw [rows_eq]
  refine congrArg (fun next => (notes text).mapM row >>= next) (funext fun rows => ?_)
  unfold stored
  split <;> rfl

theorem row_eq_ok_iff {line : List Char × Nat} {register : UInt16} :
    row line = .ok register ↔ Note.register line.1 = .ok register := by
  unfold row
  cases Note.register line.1 <;> simp [Except.mapError]

/-- **A song has the registers of all lines, or its first bad line is reported.** -/
theorem payload_cases (isText : Utf8.decode bytes = .ok text) :
    (∃ rows, List.Forall₂ (fun line row => Note.register line.1 = .ok row) (notes text) rows
        ∧ payload bytes = stored rows)
      ∨ ∃ before line number after fault, notes text = before ++ (line, number) :: after
        ∧ (∀ earlier ∈ before, ∃ row, Note.register earlier.1 = .ok row)
        ∧ Note.register line = .error fault
        ∧ payload bytes = .error (.badLine number (String.ofList line) fault) := by
  rw [payload_eq isText]
  cases outcome : (notes text).mapM row with
  | ok rows =>
    left
    exact ⟨rows, (forall₂_of_mapM outcome).imp fun _ _ => row_eq_ok_iff.1, rfl⟩
  | error fault =>
    right
    obtain ⟨before, ⟨line, number⟩, after, whole, good, bad⟩ := mapM_eq_error_iff.1 outcome
    unfold row at bad
    cases registered : Note.register line with
    | ok register =>
      simp only [registered] at bad
      cases bad
    | error reason =>
      simp only [registered] at bad
      cases bad
      refine ⟨before, line, number, after, reason, whole, ?_, registered, rfl⟩
      intro earlier member
      obtain ⟨register, stands⟩ := good earlier member
      exact ⟨register, row_eq_ok_iff.1 stands⟩

/-- **The program crashes over a song** at an operation. -/
def Crashes (file : ByteArray) (operation : Overflow) : Prop :=
  ∃ number note, payload file.toList = .error (.badLine number note (.overflow operation))

/-- **The songs over which the program crashes** are those whose first line without a register is a
note whose number is not computed. -/
theorem crashes_iff {file : ByteArray} (isText : Utf8.decode file.toList = .ok text) :
    (∃ operation, Crashes file operation)
      ↔ ∃ before line number after semitone octave, notes text = before ++ (line, number) :: after
        ∧ (∀ earlier ∈ before, ∃ row, Note.register earlier.1 = .ok row)
        ∧ Note.Writes line semitone octave ∧ ¬ Note.Fits semitone octave := by
  constructor
  · rintro ⟨operation, number, note, crash⟩
    rcases payload_cases isText with
      ⟨rows, _, made⟩ | ⟨before, line, number, after, fault, whole, good, bad, made⟩
    · rw [made, stored] at crash
      split at crash <;> cases crash
    · cases crash.symm.trans made
      obtain ⟨semitone, octave, writes, beyond⟩ := (Note.overflow_iff line).1 ⟨operation, bad⟩
      exact ⟨before, line, number, after, semitone, octave, whole, good, writes, beyond⟩
  · rintro ⟨before, line, number, after, semitone, octave, whole, good, writes, beyond⟩
    obtain ⟨operation, bad⟩ := Note.register_of_not_fits writes beyond
    have failed : (notes text).mapM row
        = .error (.badLine number (String.ofList line) (.overflow operation)) := by
      refine mapM_eq_error_iff.2 ⟨before, (line, number), after, whole, ?_, ?_⟩
      · intro earlier member
        obtain ⟨register, stands⟩ := good earlier member
        exact ⟨register, row_eq_ok_iff.2 stands⟩
      · simp only [row, bad]
        rfl
    refine ⟨operation, number, String.ofList line, ?_⟩
    rw [payload_eq isText, failed]
    rfl

/-! ### Songs among other assets -/

open PackedAssets

variable {read : String → Except FileError ByteArray} {project : Project}
  {earlier later : List AssetSource} {source : AssetSource} {file : ByteArray} {fault : Fault}
  {operation : Overflow}

/-- A picture over which nothing is made is no bad song. -/
theorem overflow?_of_ofBytes {fault : AssetFault}
    (failed : ShadeGrid.ofBytes file = .error fault) : fault.overflow? = none := by
  unfold ShadeGrid.ofBytes at failed
  split at failed
  · obtain ⟨cause, -, rfl⟩ := mapError_eq_error_iff.1 failed
    rfl
  · cases failed
    rfl

/-- **A file over which the program crashes is a song.** -/
theorem crashes_of_payload {kind : AssetKind} {path : String} {fault : AssetFault}
    (failed : kind.payload path file = .error fault)
    (crash : fault.overflow? = some operation) : kind = .song ∧ Crashes file operation := by
  have noPicture : ∀ {make : ShadeGrid → Except AssetFault (List UInt8)},
      ShadeGrid.ofBytes file >>= make = .error fault →
        ∃ grid, make grid = .error fault := by
    intro make failed
    cases opened : ShadeGrid.ofBytes file with
    | error cause =>
      rw [opened] at failed
      cases failed
      cases crash.symm.trans (overflow?_of_ofBytes opened)
    | ok grid =>
      rw [opened] at failed
      exact ⟨grid, failed⟩
  cases kind with
  | image =>
    obtain ⟨grid, failed⟩ := noPicture failed
    cases failed
  | tileset =>
    obtain ⟨grid, failed⟩ := noPicture failed
    obtain ⟨cause, -, rfl⟩ := mapError_eq_error_iff.1 failed
    cases crash
  | song =>
    obtain ⟨cause, made, rfl⟩ := mapError_eq_error_iff.1 failed
    unfold AssetFault.overflow? at crash
    split at crash
    · next number note other same =>
      cases same
      cases crash
      exact ⟨rfl, number, note, made⟩
    · cases crash
  | sound =>
    obtain ⟨cause, -, rfl⟩ := mapError_eq_error_iff.1 failed
    cases crash

/-- By itself, a file crashes the program just if it is such a song. -/
theorem crashes_iff_alone :
    (∃ fault, alone read source = .error fault ∧ fault.overflow? = some operation)
      ↔ source.kind = .song ∧ ∃ file, read source.path = .ok file ∧ Crashes file operation := by
  constructor
  · rintro ⟨fault, failed, crash⟩
    cases found : read source.path with
    | error unread =>
      rw [alone, found] at failed
      cases failed
      cases crash
    | ok file =>
      rw [alone_eq found] at failed
      obtain ⟨isSong, crashes⟩ := crashes_of_payload failed crash
      exact ⟨isSong, file, rfl, crashes⟩
  · rintro ⟨isSong, file, found, number, note, failed⟩
    refine ⟨.song (.badLine number note (.overflow operation)), ?_, rfl⟩
    rw [alone_eq found, isSong]
    show (payload file.toList).mapError _ = _
    rw [failed]
    rfl

/-- **The packer crashes just if the project has a song over which the program crashes.** -/
theorem ofProject_eq_crash_iff (collisionFree : CollisionFree read project.assets) :
    (∃ operation, ofProject read project = .error (.crash operation))
      ↔ ∃ source ∈ project.assets, source.kind = .song
        ∧ ∃ file, read source.path = .ok file ∧ ∃ operation, Crashes file operation := by
  obtain ⟨progress, _, result⟩ := ofProject_eq read project
  simp only [result, verdict_eq_crash_iff, refusals_made collisionFree, crash?_among]
  rw [exists_crash?_iff]
  constructor
  · rintro ⟨earlier, source, later, fault, operation, whole, failed, crash⟩
    obtain ⟨isSong, file, found, crashes⟩ := crashes_iff_alone.1 ⟨fault, failed, crash⟩
    have listed : source ∈ project.assets := by
      rw [whole]
      exact List.mem_append_right _ List.mem_cons_self
    exact ⟨source, listed, isSong, file, found, operation, crashes⟩
  · rintro ⟨source, listed, isSong, file, found, operation, crashes⟩
    obtain ⟨earlier, later, whole⟩ := List.append_of_mem listed
    obtain ⟨fault, failed, crash⟩ := crashes_iff_alone.2 ⟨isSong, file, found, crashes⟩
    exact ⟨earlier, source, later, fault, operation, whole, failed, crash⟩

/-- A song that has no payload is refused, unless another file has the same digest. -/
theorem made_eq_error (collisionFree : CollisionFree read project.assets)
    (whole : project.assets = earlier ++ source :: later) (isSong : source.kind = .song)
    (found : read source.path = .ok file) (failed : payload file.toList = .error fault) :
    made read earlier source = .error (.song fault) := by
  have alike : among read earlier source = alone read source := by
    apply Decidable.of_not_not
    intro differ
    have shadowed := (among_ne_alone_iff earlier source).1 differ
    cases isSong.symm.trans shadowed.1
  rw [made_eq_among_of_split collisionFree whole, alike, alone_eq found, isSong]
  show (payload file.toList).mapError _ = _
  rw [failed]
  rfl

/-- **What is refused is reported among the assets before and behind it**, all of which are tried if
the program does not crash over one of them. -/
theorem ofProject_of_made_eq_error {fault : AssetFault}
    (whole : project.assets = earlier ++ source :: later)
    (refused : made read earlier source = .error fault)
    (clear : ∀ operation, ofProject read project ≠ .error (.crash operation)) :
    ofProject read project = .error (.refused (refusals (made read) earlier
      ++ ⟨source.path, fault⟩ :: along (refusal (made read)) (earlier ++ [source]) later)) := by
  obtain ⟨progress, _, packed⟩ := ofProject_eq read project
  have here : refusal (made read) earlier source = [⟨source.path, fault⟩] := by
    rw [refusal, refused]
  have all : refusals (made read) project.assets = refusals (made read) earlier
      ++ ⟨source.path, fault⟩ :: along (refusal (made read)) (earlier ++ [source]) later := by
    rw [refusals, whole, along_append, along, List.nil_append, here]
    rfl
  have noCrash : crash? (refusals (made read) project.assets) = none := by
    cases crash : crash? (refusals (made read) project.assets) with
    | none => rfl
    | some operation =>
      exact absurd (packed.trans (verdict_eq_crash_iff.2 crash)) (clear operation)
  rw [packed, ← all]
  refine verdict_of_ne_nil ?_ noCrash
  rw [all]
  exact List.append_ne_nil_of_right_ne_nil _ (List.cons_ne_nil _ _)

/-- **What a song comes to.** -/
structure IsPlayed (file : ByteArray) (text : String) : Prop where
  /-- Every line that gives an octave is played as its number says, or refused, or the program
  crashes over it. -/
  lines : ∀ line ∈ notes text, ∀ semitone octave, Note.Writes line.1 semitone octave →
    Note.IsPlayed line.1 semitone octave
  /-- No line has a register that the channel does not have. -/
  below : ∀ line row, Note.register line = .ok row → row.toNat < 2048
  /-- The song has the registers of all lines, or its first bad line decides. -/
  outcome : (∃ rows, List.Forall₂ (fun line row => Note.register line.1 = .ok row) (notes text) rows
      ∧ payload file.toList = stored rows)
    ∨ ∃ before line number after fault, notes text = before ++ (line, number) :: after
      ∧ (∀ earlier ∈ before, ∃ row, Note.register earlier.1 = .ok row)
      ∧ Note.register line = .error fault
      ∧ payload file.toList = .error (.badLine number (String.ofList line) fault)
  /-- The program crashes over the song just if that line is a note whose number does not fit. -/
  crashes_iff : (∃ operation, Crashes file operation)
    ↔ ∃ before line number after semitone octave, notes text = before ++ (line, number) :: after
      ∧ (∀ earlier ∈ before, ∃ row, Note.register earlier.1 = .ok row)
      ∧ Note.Writes line semitone octave ∧ ¬ Note.Fits semitone octave
  /-- Then the packer does not go on to other assets, wherever the song stands among them. -/
  stops : ∀ read project source operation, CollisionFree read project.assets →
    source ∈ project.assets → source.kind = .song → read source.path = .ok file →
      Crashes file operation → ∃ first, ofProject read project = .error (.crash first)
  /-- A song that is refused is reported among the other assets, all of which are tried, if the
  program does not crash over a song. -/
  goesOn : ∀ read project earlier source later fault, CollisionFree read project.assets →
    project.assets = earlier ++ source :: later → source.kind = .song →
      read source.path = .ok file → payload file.toList = .error fault →
        (∀ song ∈ project.assets, song.kind = .song → ∀ other operation,
          read song.path = .ok other → ¬ Crashes other operation) →
          ofProject read project = .error (.refused (refusals (made read) earlier
            ++ ⟨source.path, .song fault⟩
              :: along (refusal (made read)) (earlier ++ [source]) later))

/-- **What becomes of the notes of a song.** For the octaves from `firstOctave` to `lastOctave` the
very note that is written is played or refused. For any other octave its number overflows: the
program crashes, and the packer attempts nothing more. -/
theorem payload_isPlayed {text : String} (isText : Utf8.decode file.toList = .ok text) :
    IsPlayed file text where
  lines := by
    intro line _ semitone octave writes
    exact writes.isPlayed
  below := by
    intro line row registered
    exact Note.toNat_lt_of_register registered
  outcome := payload_cases isText
  crashes_iff := crashes_iff isText
  stops := by
    intro read project source operation collisionFree listed isSong found crashes
    exact (ofProject_eq_crash_iff collisionFree).2
      ⟨source, listed, isSong, file, found, operation, crashes⟩
  goesOn := by
    intro read project earlier source later fault collisionFree whole isSong found failed none
    refine ofProject_of_made_eq_error whole (made_eq_error collisionFree whole isSong found failed)
      fun operation crash => ?_
    obtain ⟨song, listed, alsoSong, other, there, first, crashes⟩ :=
      (ofProject_eq_crash_iff collisionFree).1 ⟨operation, crash⟩
    exact none song listed alsoSong other first there crashes

/-- Over a note of the octave 1073741829 the program crashes, though the song has a note behind it
that can be played, and the project has an asset behind the song. -/
theorem payload_isPlayed_overflow :
    Utf8.decode "C-1073741829\nC-5".toUTF8.toList = .ok "C-1073741829\nC-5"
      ∧ Note.Writes "C-1073741829".toList 0 1073741829 ∧ ¬ Note.Fits 0 1073741829
      ∧ (∃ operation, Note.register "C-1073741829".toList = .error (.overflow operation))
      ∧ Note.Writes "C-5".toList 0 5 ∧ Note.Fits 0 5
      ∧ Note.register "C-5".toList = Note.played 3
      ∧ ∃ (read : String → Except FileError ByteArray) (project : Project) (operation : Overflow),
        project.assets = [⟨"m", .song, "m.txt"⟩, ⟨"n", .sound, "n.raw"⟩]
          ∧ read "m.txt" = .ok "C-1073741829\nC-5".toUTF8
          ∧ ofProject read project = .error (.crash operation) := by
  have isText : Utf8.decode "C-1073741829\nC-5".toUTF8.toList = .ok "C-1073741829\nC-5" := by
    decide +kernel
  have notes_eq : notes "C-1073741829\nC-5" = [("C-1073741829".toList, 1), ("C-5".toList, 2)] := by
    decide +kernel
  have far : Note.Writes "C-1073741829".toList 0 1073741829 := .natural rfl (by decide +kernel)
  have near : Note.Writes "C-5".toList 0 5 := .natural rfl (by decide +kernel)
  have played := payload_isPlayed isText
  have farPlayed := played.lines ("C-1073741829".toList, 1) (by rw [notes_eq]; simp) 0 _ far
  have nearPlayed := played.lines ("C-5".toList, 2) (by rw [notes_eq]; simp) 0 _ near
  have fits : Note.Fits 0 5 := nearPlayed.fits_iff.2 (by decide)
  have beyond : ¬ Note.Fits 0 1073741829 := by
    rw [farPlayed.fits_iff]
    decide
  refine ⟨isText, far, beyond, farPlayed.crashes_iff.2 beyond, near, fits,
    nearPlayed.register_of_fits fits, ?_⟩
  let read : String → Except FileError ByteArray := fun _ => .ok "C-1073741829\nC-5".toUTF8
  let project : Project := ⟨"", none, [], [], [],
    [⟨"m", .song, "m.txt"⟩, ⟨"n", .sound, "n.raw"⟩], [], [], [], []⟩
  have collisionFree : CollisionFree read project.assets := by
    intro _ _ _ _ firstBytes secondBytes first second _
    cases first
    cases second
    rfl
  obtain ⟨operation, crashes⟩ := played.crashes_iff.2
    ⟨[], _, _, _, 0, _, notes_eq, by simp, far, beyond⟩
  obtain ⟨first, crash⟩ := played.stops read project ⟨"m", .song, "m.txt"⟩ operation collisionFree
    List.mem_cons_self rfl rfl crashes
  exact ⟨read, project, first, rfl, rfl, crash⟩

end Song
end Cartridge
