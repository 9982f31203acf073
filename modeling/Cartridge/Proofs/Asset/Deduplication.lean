import Mathlib.Data.List.Nodup
import Cartridge.Proofs.Asset.Making
import Cartridge.Proofs.Text.Line

/-!
# Everything is stored once

What is stored has a digest of its kind and its payload. The kind is set apart from the payload, so
that only collisions of digests could make two different things look the same. Without them each
thing is stored when it first comes, and once.

* `PackedAsset.hashed`: what a digest is taken of. `PackedAsset.hashed_ofPayload_inj`: it tells the
  kind and the payload.
* `PackedAsset.symbol_ofPayload`: the name of what is stored has the first digits of that digest.
* `PackedAssets.DigitsApart`: the first digits of SHA-256 digests do not collide.
* `PackedAssets.packed_eq`: what is stored, and in which order.
* `PackedAssets.ne_nil_of_made`: nothing that is made of a file is empty.
-/

namespace Cartridge

/-! ### What a digest is taken of -/

theorem AssetKind.name_injective : Function.Injective AssetKind.name := by
  intro first second same
  cases first <;> cases second <;> first | rfl | exact absurd same (by decide)

namespace PackedKind

/-- The names of kinds have no zero byte in them. -/
theorem zero_not_mem_name (kind : PackedKind) : 0 ∉ encoded kind.name := by
  cases kind with
  | asset kind => cases kind <;> decide
  | palette => decide

theorem name_injective : Function.Injective name := by
  have different : ∀ kind : AssetKind, kind.name ≠ "palette" := by
    intro kind
    cases kind <;> decide
  intro first second same
  cases first with
  | asset kind =>
    cases second with
    | asset other => exact congrArg asset (AssetKind.name_injective same)
    | palette => exact absurd same (different kind)
  | palette =>
    cases second with
    | asset other => exact absurd same.symm (different other)
    | palette => rfl

end PackedKind

/-- The first 16 hexadecimal digits of the SHA-256 digest of some bytes. -/
def Digest.firstDigits (bytes : List UInt8) : List Char := (ofBytes bytes).hex.toList.take 16

namespace PackedAsset

/-- What the digest of something stored is taken of. -/
def hashed (asset : PackedAsset) : List UInt8 := encoded asset.kind.name ++ 0 :: asset.payload

theorem digest_ofPayload (kind : PackedKind) (payload : List UInt8) :
    (ofPayload kind payload).digest = Digest.ofBytes (ofPayload kind payload).hashed := rfl

/-- **What is stored is named by the first digits** of the digest of its kind and its payload. -/
theorem symbol_ofPayload (kind : PackedKind) (payload : List UInt8) :
    (ofPayload kind payload).symbol
      = "blob_" ++ String.ofList (Digest.firstDigits (ofPayload kind payload).hashed) := by
  rw [symbol, digest_ofPayload, Digest.firstDigits]

/-- **What a digest is taken of tells the kind and the payload.** -/
theorem hashed_ofPayload_inj {kind other : PackedKind} {payload others : List UInt8}
    (same : (ofPayload kind payload).hashed = (ofPayload other others).hashed) :
    kind = other ∧ payload = others := by
  obtain ⟨names, payloads⟩ := append_cons_inj kind.zero_not_mem_name other.zero_not_mem_name same
  exact ⟨PackedKind.name_injective (encoded_injective names), payloads⟩

end PackedAsset

/-! ### Nothing is empty -/

theorem Palette.length_payload (palette : Palette) : palette.payload.length = 8 := by
  rw [payload, List.length_flatMap]
  simp [littleEndian]

theorem Palette.payload_ne_nil (palette : Palette) : palette.payload ≠ [] :=
  List.ne_nil_of_length_pos (palette.length_payload ▸ Nat.succ_pos 7)

/-- A payload starts with a count of its own. -/
theorem AssetKind.payload_ne_nil {kind : AssetKind} {path : String} {bytes : ByteArray}
    {payload : List UInt8} (packed : kind.payload path bytes = .ok payload) : payload ≠ [] := by
  cases kind with
  | image =>
    obtain ⟨grid, _, packed⟩ := bind_eq_ok packed
    cases packed
    exact List.cons_ne_nil _ _
  | tileset =>
    obtain ⟨grid, _, packed⟩ := bind_eq_ok packed
    obtain ⟨numbered, _, packed⟩ := bind_eq_ok (mapError_eq_ok packed)
    cases packed
    exact List.cons_ne_nil _ _
  | song =>
    have packed := mapError_eq_ok packed
    unfold Song.payload at packed
    split at packed
    · cases packed
    · obtain ⟨rows, _, packed⟩ := bind_eq_ok packed
      split at packed
      · cases packed
      · cases packed
        exact List.cons_ne_nil _ _
  | sound =>
    have packed := mapError_eq_ok packed
    unfold Sound.payload at packed
    split at packed
    · cases packed
    · split at packed
      · cases packed
      · split at packed
        · cases packed
        · cases packed
          exact List.cons_ne_nil _ _

namespace PackedAssets

variable {read : String → Except FileError ByteArray} {project : Project}

/-- **What holds of the payload of a file holds of what is decoded**, and goes on to do so. -/
theorem decode_cases {holds : AssetKind → List UInt8 → Prop} {decoded after : Decoded}
    {source : AssetSource} {bytes : ByteArray} {payload : List UInt8}
    (each : ∀ payload, source.kind.payload source.path bytes = .ok payload →
      holds source.kind payload)
    (known : ∀ (key : AssetKind × Digest) payload, decoded[key]? = some payload →
      holds key.1 payload)
    (outcome : decode decoded source bytes = .ok (payload, after)) :
    holds source.kind payload
      ∧ ∀ (key : AssetKind × Digest) payload, after[key]? = some payload → holds key.1 payload := by
  unfold decode at outcome
  dsimp only at outcome
  split at outcome
  case h_1 _ found =>
    cases outcome
    exact ⟨known _ _ found, known⟩
  case h_2 =>
    split at outcome
    case h_1 _ packed =>
      cases outcome
      refine ⟨each _ packed, fun key payload found => ?_⟩
      rw [Std.HashMap.getElem?_insert] at found
      split at found
      · rename_i same
        cases found
        rw [← eq_of_beq same]
        exact each _ packed
      · exact known key payload found
    case h_2 => cases outcome

/-- **What holds of the payloads of the files before holds of what the packer remembers.** -/
theorem forall_decoded {holds : AssetKind → List UInt8 → Prop} {earlier : List AssetSource}
    (each : ∀ source ∈ earlier, ∀ bytes payload,
      source.kind.payload source.path bytes = .ok payload → holds source.kind payload) :
    ∀ (key : AssetKind × Digest) payload, (reached read earlier).decoded[key]? = some payload →
      holds key.1 payload := by
  induction earlier using List.reverseRecOn with
  | nil =>
    intro key payload found
    rw [show (reached read []).decoded[key]? = none from Std.HashMap.getElem?_empty] at found
    cases found
  | append_singleton earlier source ih =>
    have known := ih fun other member => each other (List.mem_append_left _ member)
    rw [reached_append_singleton, Progress.attempt]
    cases read source.path with
    | error fault => exact known
    | ok bytes =>
      cases outcome : decode (reached read earlier).decoded source bytes with
      | error fault =>
        simp only [outcome]
        exact known
      | ok result =>
        obtain ⟨payload, after⟩ := result
        simp only [outcome, Progress.decoded_store]
        exact (decode_cases (each source (List.mem_append_right _ List.mem_cons_self) bytes) known
          outcome).2

/-- **The first asset of its kind is made of its file alone.** -/
theorem made_of_new_kind {earlier : List AssetSource} {source : AssetSource}
    (new : ∀ other ∈ earlier, other.kind ≠ source.kind) :
    made read earlier source = made read [] source := by
  rw [made_nil, made]
  cases read source.path with
  | error fault => rfl
  | ok bytes =>
    have fresh : (reached read earlier).decoded[(source.kind, Digest.ofArray bytes)]? = none := by
      refine Option.eq_none_iff_forall_ne_some.2 fun payload found => ?_
      have known := @forall_decoded read (fun kind _ => kind ≠ source.kind) earlier
        (fun other member _ _ _ => new other member) _ _ found
      exact known rfl
    simp only [decode, fresh]
    cases source.kind.payload source.path bytes <;> rfl

/-- **Nothing that is made of a file is empty.** -/
theorem ne_nil_of_made {earlier : List AssetSource} {source : AssetSource} {payload : List UInt8}
    (packed : made read earlier source = .ok payload) : payload ≠ [] := by
  unfold made at packed
  cases found : read source.path with
  | error fault =>
    rw [found] at packed
    cases packed
  | ok bytes =>
    rw [found] at packed
    cases outcome : decode (reached read earlier).decoded source bytes with
    | error fault =>
      simp only [outcome] at packed
      cases packed
    | ok result =>
      simp only [outcome] at packed
      cases packed
      let filled : AssetKind → List UInt8 → Prop := fun _ payload => payload ≠ []
      exact (@decode_cases filled _ _ _ _ _ (fun _ => AssetKind.payload_ne_nil)
        (@forall_decoded _ filled _ fun _ _ _ _ => AssetKind.payload_ne_nil) outcome).1

/-! ### Each thing once -/

theorem exists_ofPayload_of_mem_entries {one : Entry} (member : one ∈ entries (made read) project) :
    ∃ kind payload, one.2 = .ofPayload kind payload ∧ payload ≠ [] := by
  obtain ⟨earlier, source, later, payload, _, packed, rfl⟩ | ⟨palette, _, rfl⟩ :=
    mem_entries_cases member
  · exact ⟨_, payload, rfl, ne_nil_of_made packed⟩
  · exact ⟨_, _, rfl, palette.payload_ne_nil⟩

theorem length_payload_pos_of_mem_entries {one : Entry}
    (member : one ∈ entries (made read) project) : 0 < one.2.payload.length := by
  obtain ⟨kind, payload, whole, filled⟩ := exists_ofPayload_of_mem_entries member
  rw [whole]
  exact List.length_pos_iff.2 filled

/-- What is made is known by its kind and its payload. -/
theorem eq_of_mem_entries {first second : Entry} (member : first ∈ entries (made read) project)
    (also : second ∈ entries (made read) project) (kind : first.2.kind = second.2.kind)
    (payload : first.2.payload = second.2.payload) : first.2 = second.2 := by
  obtain ⟨_, _, whole, _⟩ := exists_ofPayload_of_mem_entries member
  obtain ⟨_, _, alsoWhole, _⟩ := exists_ofPayload_of_mem_entries also
  rw [whole, alsoWhole] at kind payload ⊢
  exact congrArg₂ PackedAsset.ofPayload kind payload

/-- **The first digits of SHA-256 digests do not collide** on what is made: where they are the same,
the digests are taken of the same bytes. -/
def DigitsApart (read : String → Except FileError ByteArray) (project : Project) : Prop :=
  ∀ first ∈ entries (made read) project, ∀ second ∈ entries (made read) project,
    Digest.firstDigits first.2.hashed = Digest.firstDigits second.2.hashed →
      first.2.hashed = second.2.hashed

/-- So no two different things have the same name. -/
theorem DigitsApart.namesApart (apart : DigitsApart read project) : NamesApart read project := by
  intro first firstMember second secondMember same
  have hashed := apart first firstMember second secondMember
  obtain ⟨kind, payload, made, _⟩ := exists_ofPayload_of_mem_entries firstMember
  obtain ⟨other, others, alsoMade, _⟩ := exists_ofPayload_of_mem_entries secondMember
  rw [made, alsoMade] at same hashed ⊢
  rw [PackedAsset.symbol_ofPayload, PackedAsset.symbol_ofPayload, String.append_right_inj,
    String.ofList_inj] at same
  obtain ⟨rfl, rfl⟩ := PackedAsset.hashed_ofPayload_inj (hashed same)
  rfl

/-- Where what is made is among things with different digits, no digits collide. -/
theorem digitsApart_of_nodup {assets : List PackedAsset}
    (among : ∀ one ∈ entries (made read) project, one.2 ∈ assets)
    (distinct : (assets.map fun asset => Digest.firstDigits asset.hashed).Nodup) :
    DigitsApart read project := by
  intro first firstMember second secondMember same
  exact congrArg _ (List.inj_on_of_nodup_map distinct (among first firstMember)
    (among second secondMember) same)

/-- What two things that are made have the same digest of is the same. -/
theorem NamesApart.digest_inj (apart : NamesApart read project) :
    ∀ first ∈ (entries (made read) project).map Prod.snd,
      ∀ second ∈ (entries (made read) project).map Prod.snd,
        first.digest = second.digest → first = second := by
  intro first firstMember second secondMember same
  obtain ⟨one, listed, rfl⟩ := List.mem_map.1 firstMember
  obtain ⟨other, alsoListed, rfl⟩ := List.mem_map.1 secondMember
  exact apart one listed other alsoListed (by rw [PackedAsset.symbol, same, PackedAsset.symbol])

/-- The different values of a function that is injective on a list are those of the different
items. -/
theorem eraseDups_map {α β : Type} [BEq α] [LawfulBEq α] [BEq β] [LawfulBEq β] {f : α → β}
    {items : List α}
    (inj : ∀ first ∈ items, ∀ second ∈ items, f first = f second → first = second) :
    (items.map f).eraseDups = items.eraseDups.map f := by
  induction items using List.reverseRecOn with
  | nil => rfl
  | append_singleton items item ih =>
    have before := ih fun first firstMember second secondMember =>
      inj first (List.mem_append_left _ firstMember) second (List.mem_append_left _ secondMember)
    rw [List.map_append, List.map_singleton]
    by_cases member : item ∈ items
    · rw [eraseDups_append_of_mem member, eraseDups_append_of_mem (List.mem_map_of_mem member),
        before]
    · have new : f item ∉ items.map f := by
        intro listed
        obtain ⟨other, otherMember, same⟩ := List.mem_map.1 listed
        have equal := inj other (List.mem_append_left _ otherMember) item
          (List.mem_append_right _ List.mem_cons_self) same
        exact member (equal ▸ otherMember)
      rw [eraseDups_append_of_not_mem member, eraseDups_append_of_not_mem new, before,
        List.map_append, List.map_singleton]

theorem eq_of_map_eq {α β : Type} {f : α → β} {first second : List α}
    (inj : ∀ one ∈ first, ∀ other ∈ second, f one = f other → one = other)
    (same : first.map f = second.map f) : first = second := by
  induction first generalizing second with
  | nil => exact (List.map_eq_nil_iff.1 same.symm).symm
  | cons one first ih =>
    obtain ⟨other, others, rfl, head, tail⟩ := List.map_eq_cons_iff.1 same.symm
    rw [inj one List.mem_cons_self other List.mem_cons_self head.symm,
      ih (fun one member other also => inj one (List.mem_cons_of_mem _ member) other
        (List.mem_cons_of_mem _ also)) tail.symm]

variable {assets : PackedAssets}

theorem mem_entries_of_mem_packed (packed : ofProject read project = .ok assets)
    {asset : PackedAsset} (member : asset ∈ assets.packed) :
    ∃ symbol, (symbol, asset) ∈ entries (made read) project := by
  obtain ⟨_, progress, holds, rfl⟩ := ofProject_eq_ok packed
  exact holds.stored asset member

/-- **What is stored is what is made, each thing once**, in the order in which it first comes. -/
theorem packed_eq (packed : ofProject read project = .ok assets)
    (apart : NamesApart read project) :
    assets.packed.toList = ((entries (made read) project).map Prod.snd).eraseDups := by
  have stored : ∀ asset ∈ assets.packed.toList,
      asset ∈ (entries (made read) project).map Prod.snd := by
    intro asset member
    obtain ⟨symbol, listed⟩ := mem_entries_of_mem_packed packed (Array.mem_toList_iff.1 member)
    exact List.mem_map_of_mem listed
  obtain ⟨_, progress, holds, rfl⟩ := ofProject_eq_ok packed
  refine @eq_of_map_eq _ _ PackedAsset.digest _ _ (fun one member other also => ?_) ?_
  · exact apart.digest_inj one (stored one member) other (List.mem_eraseDups.1 also)
  · rw [← eraseDups_map apart.digest_inj, List.map_map]
    exact holds.order

/-- **No two things that are stored have the same kind and the same payload.** -/
theorem place_eq_of_payload_eq (packed : ofProject read project = .ok assets)
    (apart : NamesApart read project) {place other : Nat} {first second : PackedAsset}
    (there : assets.packed[place]? = some first) (also : assets.packed[other]? = some second)
    (kind : first.kind = second.kind) (payload : first.payload = second.payload) :
    place = other := by
  obtain ⟨_, listed⟩ := mem_entries_of_mem_packed packed (Array.mem_of_getElem? there)
  obtain ⟨_, alsoListed⟩ := mem_entries_of_mem_packed packed (Array.mem_of_getElem? also)
  have same : first = second := eq_of_mem_entries listed alsoListed kind payload
  rw [← Array.getElem?_toList] at there also
  obtain ⟨inside, _⟩ := List.getElem?_eq_some_iff.1 there
  have distinct := List.Nodup.of_map _ (nodup_symbols packed apart)
  exact (List.getElem?_inj inside distinct).1 (there.trans (same ▸ also.symm))

end PackedAssets
end Cartridge
