import Cartridge.Script.Lowering

/-!
# Assembling steps to bytecode

The second pass of the compiler. It writes the instructions one after the other. A label that has no
address yet leaves a hole; the hole is noted in the innermost open block, and filled in when the
block closes, or handed on to the block around it.

* `Assembly.ofLowered` — the code of a script and the addresses of its labels.
-/

namespace Cartridge

/-- A hole in the code: the label whose address belongs there, and the place. -/
abbrev Hole : Type := Label × Nat

/-- The code of a script so far. -/
structure Assembly where
  code : Array UInt8
  /-- The addresses of the labels, by their numbers. -/
  addresses : Array (Option UInt16)
  /-- The holes of the open blocks, the innermost block first. -/
  blocks : List (Array Hole)

namespace Assembly

/-- No code yet, and no label bound. -/
def start (labelCount : Nat) : Assembly :=
  ⟨#[], Array.replicate labelCount none, []⟩

/-- The address of a label, once it is bound. -/
def address? (addresses : Array (Option UInt16)) (target : Label) : Option UInt16 :=
  (addresses[target.toNat]?).join

/-- Writes an address into a hole. -/
def fill (code : Array UInt8) (place : Nat) (address : UInt16) : Array UInt8 :=
  (code.setIfInBounds place address.toUInt8).setIfInBounds (place + 1) (address >>> 8).toUInt8

/-- Fills in the holes whose labels are bound; the others are left. -/
def fillAll (addresses : Array (Option UInt16)) (code : Array UInt8) (holes : Array Hole) :
    Array UInt8 × Array Hole :=
  holes.foldl (fun (code, left) (target, place) =>
    match address? addresses target with
    | some address => (fill code place address, left)
    | none => (code, left.push (target, place))) (code, #[])

/-- Carries out one step. A hole that no block is left for is reported by its label. -/
def step (assembly : Assembly) : Step → Except Label Assembly
  | .enter => .ok { assembly with blocks := #[] :: assembly.blocks }
  | .emit instruction =>
    let ⟨code, addresses, blocks⟩ := assembly
    let (code, holes) := instruction.encode (address? addresses) code
    match blocks with
    | [] => .ok ⟨code, addresses, []⟩
    | innermost :: outer => .ok ⟨code, addresses, (innermost ++ holes) :: outer⟩
  | .bind target =>
    let ⟨code, addresses, blocks⟩ := assembly
    let here := UInt16.ofNat code.size
    .ok ⟨code, addresses.setIfInBounds target.toNat (some here), blocks⟩
  | .exit =>
    let ⟨code, addresses, blocks⟩ := assembly
    let (code, left) := fillAll addresses code (blocks.headD #[])
    match blocks.tail with
    | parent :: outer => .ok ⟨code, addresses, (parent ++ left) :: outer⟩
    | [] =>
      match left[0]? with
      | some (target, _) => .error target
      | none => .ok ⟨code, addresses, []⟩

/-- The addresses of all labels, or the first one that has none. -/
def settled (addresses : Array (Option UInt16)) : Except Label (List UInt16) :=
  addresses.toList.zipIdx.mapM fun (address, number) =>
    match address with
    | some address => .ok address
    | none => .error (UInt16.ofNat number)

/-- The code of a script and the addresses of its labels, or a label that has no address. -/
def ofLowered (lowered : Lowered) : Except Label (List UInt8 × List UInt16) := do
  let assembly ← lowered.steps.toList.foldlM step (start lowered.labelCount)
  return (assembly.code.toList, ← settled assembly.addresses)

end Assembly
end Cartridge
