import Cartridge.Asset.Payload
import Cartridge.Proofs.Bytecode.Reading
import Cartridge.Proofs.Success

/-!
# Reading sounds back

A sound is stored as the number of its samples and their upper halves, two to a byte. Here is the
engine's way of reading it.

* `StoredSound.read?`, `StoredSound.halves`: a sound as its bytes show it, and its halves of bytes.
* `Sound.HasRawExtension`: the paths that promise raw samples.
* `Sound.halves_nibbles`: the halves of the bytes are the upper halves of the samples.
* `AssetKind.payload_isQuantized`: so a sound keeps the upper half of every sample, and there is one
  for every file of raw samples that is neither empty nor too long.
-/

namespace Cartridge

/-! ### Sounds in bytes -/

/-- A sound as its bytes show it. -/
structure StoredSound where
  /-- The number of the samples. -/
  count : UInt16
  /-- The waves. -/
  bytes : List UInt8

namespace StoredSound

/-- The sound that some bytes hold: two for the number of the samples, the lower one first, then the
waves. -/
def read? : List UInt8 → Option StoredSound
  | low :: high :: bytes => some ⟨wordOf low high, bytes⟩
  | _ => none

/-- The halves of the bytes, the upper half of each first. -/
def halves (sound : StoredSound) : List UInt8 :=
  sound.bytes.flatMap fun (byte : UInt8) => [byte >>> 4, byte &&& 0x0F]

end StoredSound

namespace Sound

/-- Whether a text is a word in small or in capital letters, or in some of each. -/
def IsSpelled (word text : String) : Prop :=
  List.Forall₂ (fun letter c => c = letter ∨ c = letter.toUpper) word.toList text.toList

/-- **A path of raw samples.** -/
def HasRawExtension (path : String) : Prop :=
  ∃ extension, FilePath.extension? path = some extension
    ∧ (IsSpelled "raw" extension ∨ IsSpelled "pcm" extension)

/-- **The upper halves of the samples are in a sound**, and nothing else. -/
structure Shows (samples : List UInt8) (sound : StoredSound) : Prop where
  count : sound.count.toNat = samples.length
  /-- There are as many waves of 16 bytes as 32 samples at a time take. -/
  length : sound.bytes.length = 16 * ((samples.length + 31) / 32)
  /-- Each half of a byte is the upper half of a sample, -/
  sample : ∀ place, (inside : place < samples.length) →
    sound.halves[place]? = some (samples[place] >>> 4)
  /-- and silence behind the last one. -/
  silence : ∀ place, samples.length ≤ place → place < 2 * sound.bytes.length →
    sound.halves[place]? = some 0

/-! ### Extensions -/

theorem toNat_toLower (c : Char) :
    c.toLower.toNat = if 65 ≤ c.toNat ∧ c.toNat ≤ 90 then c.toNat + 32 else c.toNat := by
  unfold Char.toLower
  split
  · next capital =>
    have capital : 65 ≤ c.toNat ∧ c.toNat ≤ 90 := capital
    rw [if_pos capital]
    show (c.val + 32).toNat = c.toNat + 32
    rw [UInt32.toNat_add]
    exact Nat.mod_eq_of_lt (by show c.toNat + 32 < _; omega)
  · next other => exact (if_neg other).symm

/-- A character is a letter in small just if it is that letter or its capital. -/
theorem toLower_eq_iff {letter capital : Char} (least : 97 ≤ letter.toNat)
    (greatest : letter.toNat ≤ 122) (above : capital.toNat + 32 = letter.toNat) (c : Char) :
    c.toLower = letter ↔ c = letter ∨ c = capital := by
  rw [← Char.toNat_inj, ← Char.toNat_inj, ← Char.toNat_inj, toNat_toLower]
  split <;> omega

/-- A word in small letters is spelled by what is that word in small letters. -/
theorem isSpelled_iff (word : String)
    (letters : ∀ letter ∈ word.toList, 97 ≤ letter.toNat ∧ letter.toNat ≤ 122
      ∧ letter.toUpper.toNat + 32 = letter.toNat) (text : String) :
    IsSpelled word text ↔ text.map Char.toLower = word := by
  rw [← String.toList_inj, String.toList_map, IsSpelled]
  generalize word.toList = small at letters
  generalize text.toList = written
  induction small generalizing written with
  | nil => cases written <;> simp
  | cons letter small ih =>
    obtain ⟨⟨least, greatest, above⟩, letters⟩ := List.forall_mem_cons.1 letters
    cases written with
    | nil => simp
    | cons c written =>
      rw [List.forall₂_cons, List.map_cons, List.cons.injEq, ih letters,
        toLower_eq_iff least greatest above]

/-- A sound is accepted by what the path promises. -/
theorem isRaw_iff (path : String) :
    isRaw (FilePath.extension? path) = true ↔ HasRawExtension path := by
  unfold HasRawExtension
  cases FilePath.extension? path with
  | none => simp [isRaw]
  | some extension =>
    simp [isRaw, isSpelled_iff "raw" (by simp), isSpelled_iff "pcm" (by simp)]

/-! ### Halves of bytes -/

theorem toNat_shiftRight_lt (sample : UInt8) : (sample >>> 4).toNat < 16 := by
  have small := sample.toNat_lt
  rw [UInt8.toNat_shiftRight, Nat.shiftRight_eq_div_pow]
  simp
  omega

/-- Two halves that are put together in a byte are its halves. -/
theorem halves_join : ∀ upper < 16, ∀ lower < 16,
    (UInt8.ofNat upper <<< 4 ||| UInt8.ofNat lower) >>> 4 = UInt8.ofNat upper
      ∧ (UInt8.ofNat upper <<< 4 ||| UInt8.ofNat lower) &&& 0x0F = UInt8.ofNat lower := by
  decide

/-- The upper half of a sample. -/
def upperHalf (sample : UInt8) : UInt8 := sample >>> 4

/-- The halves of the bytes for some samples are their upper halves, and silence fills up the last
byte. -/
theorem halves_nibbles (count : UInt16) (samples : List UInt8) :
    StoredSound.halves ⟨count, nibbles samples⟩
      = samples.map upperHalf ++ List.replicate (samples.length % 2) 0 := by
  unfold StoredSound.halves
  dsimp only
  fun_induction nibbles samples with
  | case1 first second rest ih =>
    have joined := halves_join _ (toNat_shiftRight_lt first) _ (toNat_shiftRight_lt second)
    simp only [UInt8.ofNat_toNat] at joined
    have parity : (first :: second :: rest).length % 2 = rest.length % 2 := Nat.add_mod_right _ 2
    rw [List.flatMap_cons, ih, joined.1, joined.2, parity]
    rfl
  | case2 last =>
    have joined := halves_join _ (toNat_shiftRight_lt last) 0 (by decide)
    have none : (UInt8.ofNat 0) = 0 := rfl
    simp only [UInt8.ofNat_toNat, none, UInt8.or_zero] at joined
    rw [List.flatMap_singleton, joined.1, joined.2]
    rfl
  | case3 => rfl

theorem length_nibbles (samples : List UInt8) :
    (nibbles samples).length = (samples.length + 1) / 2 := by
  fun_induction nibbles samples with
  | case1 first second rest ih =>
    simp only [List.length_cons, ih]
    omega
  | case2 last => simp
  | case3 => rfl

theorem length_wholeWaves (bytes : List UInt8) :
    (wholeWaves bytes).length = 16 * ((bytes.length + 15) / 16) := by
  rw [wholeWaves, List.length_append, List.length_replicate, waveSize]
  omega

/-- **The halves of the waves for some samples** are their upper halves, and silence behind. -/
theorem exists_halves_wholeWaves (count : UInt16) (samples : List UInt8) :
    ∃ silent, StoredSound.halves ⟨count, wholeWaves (nibbles samples)⟩
      = samples.map upperHalf ++ List.replicate silent 0 := by
  have silence (bytes : Nat) : StoredSound.halves ⟨count, List.replicate bytes 0⟩
      = List.replicate (bytes * 2) 0 := by
    have silent : [(0 : UInt8) >>> 4, 0 &&& 0x0F] = List.replicate 2 0 := rfl
    rw [StoredSound.halves, List.flatMap_replicate, silent, List.flatten_replicate_replicate]
  have waves (bytes more : List UInt8) : StoredSound.halves ⟨count, bytes ++ more⟩
      = StoredSound.halves ⟨count, bytes⟩ ++ StoredSound.halves ⟨count, more⟩ :=
    List.flatMap_append
  obtain ⟨zeros, split⟩ : ∃ zeros, wholeWaves (nibbles samples)
      = nibbles samples ++ List.replicate zeros 0 := ⟨_, rfl⟩
  refine ⟨samples.length % 2 + zeros * 2, ?_⟩
  rw [split, waves, halves_nibbles, silence, List.append_assoc, List.replicate_append_replicate]

/-- **The waves for some samples show them.** -/
theorem shows_wholeWaves {samples : List UInt8} (few : samples.length ≤ 65535) :
    Shows samples ⟨UInt16.ofNat samples.length, wholeWaves (nibbles samples)⟩ := by
  obtain ⟨silent, halves⟩ :=
    exists_halves_wholeWaves (UInt16.ofNat samples.length) samples
  have length : (StoredSound.halves ⟨UInt16.ofNat samples.length,
      wholeWaves (nibbles samples)⟩).length = 2 * (wholeWaves (nibbles samples)).length := by
    simp [StoredSound.halves, Nat.mul_comm]
  constructor
  · exact UInt16.toNat_ofNat_of_lt' (Nat.lt_succ_of_le few)
  · rw [length_wholeWaves, length_nibbles]
    omega
  · intro place inside
    rw [halves, List.getElem?_append_left (by simpa using inside), List.getElem?_map,
      List.getElem?_eq_getElem inside]
    rfl
  · intro place behind inside
    rw [← length, halves, List.length_append, List.length_map, List.length_replicate] at inside
    rw [halves, List.getElem?_append_right (by simpa using behind), List.length_map,
      List.getElem?_replicate, if_pos (by omega)]

variable {path : String} {samples : List UInt8}

/-- **What a file comes to as a sound.** -/
structure IsQuantized (path : String) (samples : List UInt8)
    (outcome : Except AssetFault (List UInt8)) : Prop where
  /-- There is a sound just for raw samples that can be counted. -/
  accepted : (∃ payload, outcome = .ok payload)
    ↔ HasRawExtension path ∧ 1 ≤ samples.length ∧ samples.length ≤ 65535
  /-- It holds the upper half of every sample. -/
  stored : ∀ payload, outcome = .ok payload →
    ∃ sound, StoredSound.read? payload = some sound ∧ Shows samples sound
  /-- Without that extension there is none, whatever the samples. -/
  refused : ¬ HasRawExtension path → outcome = .error (.sound .badExtension)

theorem isQuantized_error {fault : Fault}
    (refused : ¬ (HasRawExtension path ∧ 1 ≤ samples.length ∧ samples.length ≤ 65535))
    (reason : ¬ HasRawExtension path → fault = .badExtension) :
    IsQuantized path samples (.error (.sound fault)) where
  accepted := by
    refine ⟨?_, fun accepted => absurd accepted refused⟩
    rintro ⟨payload, made⟩
    cases made
  stored := by
    intro payload made
    cases made
  refused := fun other => by rw [reason other]

end Sound

/-- **A sound keeps the upper half of every sample**, and raw samples are a sound just if they can be
counted. -/
theorem AssetKind.payload_isQuantized (path : String) (file : ByteArray) :
    Sound.IsQuantized path file.toList (AssetKind.sound.payload path file) := by
  show Sound.IsQuantized path file.toList
    ((Sound.payload (FilePath.extension? path) file.toList).mapError .sound)
  generalize file.toList = samples
  unfold Sound.payload
  split
  · next other =>
    rw [Bool.not_eq_true', ← Bool.not_eq_true, Sound.isRaw_iff] at other
    exact Sound.isQuantized_error (fun accepted => other accepted.1) fun _ => rfl
  next raw =>
  rw [Bool.not_eq_true', Bool.not_eq_false, Sound.isRaw_iff] at raw
  split
  · next none =>
    obtain rfl := List.isEmpty_iff.1 none
    exact Sound.isQuantized_error (fun accepted => absurd accepted.2.1 (by decide)) (absurd raw)
  next some =>
  split
  · next many =>
    exact Sound.isQuantized_error (fun accepted => Nat.not_le.2 many accepted.2.2) (absurd raw)
  next few =>
  have filled : 1 ≤ samples.length := by
    rw [List.isEmpty_iff, ← List.length_eq_zero_iff] at some
    omega
  refine ⟨⟨fun _ => ⟨raw, filled, Nat.not_lt.1 few⟩, fun _ => ⟨_, rfl⟩⟩, ?_, absurd raw⟩
  intro payload made
  cases made
  refine ⟨_, rfl, ?_⟩
  rw [wordOf_low_high]
  exact Sound.shows_wholeWaves (Nat.not_lt.1 few)

end Cartridge
