import Cartridge.Bytecode.Instruction

/-!
# Sounds

A sound is a run of unsigned 8-bit samples. The upper four bits of each are kept, two samples to a
byte, and the bytes are filled up to whole waves of 16.

* `Sound.payload` — the payload of a sound, or why there is none.
-/

namespace Cartridge.Sound

/-- How many bytes the engine plays at a time. -/
def waveSize : Nat := 16

/-- Why a file is no sound. -/
inductive Fault where
  /-- The file name does not end as one of raw samples does. -/
  | badExtension
  | noSamples
  | tooManySamples (count : Nat)
  deriving DecidableEq, Repr

/-- Two samples to a byte, the first one in the upper half. -/
def nibbles : List UInt8 → List UInt8
  | first :: second :: rest => ((first >>> 4) <<< 4 ||| second >>> 4) :: nibbles rest
  | [last] => [(last >>> 4) <<< 4]
  | [] => []

/-- Bytes filled up with zeros to whole waves. -/
def wholeWaves (bytes : List UInt8) : List UInt8 :=
  bytes ++ List.replicate ((bytes.length + waveSize - 1) / waveSize * waveSize - bytes.length) 0

/-- Whether a file name with this extension promises raw samples. -/
def isRaw (extension : Option String) : Bool :=
  match extension with
  | some text =>
    let small := text.map Char.toLower
    small == "raw" || small == "pcm"
  | none => false

/-- The payload of a sound: the number of samples, then the samples. -/
def payload (extension : Option String) (samples : List UInt8) : Except Fault (List UInt8) :=
  if !isRaw extension then .error .badExtension
  else if samples.isEmpty then .error .noSamples
  else if 65535 < samples.length then .error (.tooManySamples samples.length)
  else .ok (littleEndian (UInt16.ofNat samples.length) ++ wholeWaves (nibbles samples))

end Cartridge.Sound
