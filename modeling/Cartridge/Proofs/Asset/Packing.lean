import Mathlib
import Cartridge.Proofs.Asset.Making

/-!
# Files that are not decoded again

A file whose bytes have been seen before is not decoded again. So an asset is packed like the first
one before it with the same contents that could be packed. This differs from packing it by itself
only for sounds, whose payload depends on their file name as well.

* `PackedAssets.alone`, `PackedAssets.among`: an asset packed by itself, and after others.
* `PackedAssets.packsAs_among`: the packer does the latter, and stores or refuses accordingly.
* `PackedAssets.among_ne_alone_iff`: the difference is a sound with a bad file name behind a good
  one.
* `PackedAssets.crash?_among`: over the same assets the program crashes at the same operation.
* `PackedAssets.packsAs_alone_iff`: when the packer behaves as if each asset were packed by itself.
-/

namespace Cartridge

/-- A payload does not depend on the path, but that a sound needs a good one. -/
theorem AssetKind.payload_eq_of_ok {kind : AssetKind} {path other : String} {bytes : ByteArray}
    {payload : List UInt8} (packed : kind.payload path bytes = .ok payload)
    (good : kind ≠ .sound ∨ Sound.isRaw (FilePath.extension? other) = true) :
    kind.payload other bytes = .ok payload := by
  cases kind with
  | image | tileset | song => exact packed
  | sound =>
    have raw := good.resolve_left fun differ => differ rfl
    have accepted := mapError_eq_ok packed
    show (Sound.payload (FilePath.extension? other) bytes.toList).mapError _ = _
    unfold Sound.payload at accepted ⊢
    cases promised : Sound.isRaw (FilePath.extension? path) with
    | false =>
      rw [promised] at accepted
      cases accepted
    | true =>
      rw [promised] at accepted
      rw [raw, accepted]
      rfl

theorem AssetKind.payload_of_not_isRaw {path : String}
    (bad : ¬ Sound.isRaw (FilePath.extension? path) = true) (bytes : ByteArray) :
    AssetKind.payload .sound path bytes = .error (.sound .badExtension) := by
  show (Sound.payload (FilePath.extension? path) bytes.toList).mapError _ = _
  rw [Sound.payload, Bool.eq_false_iff.2 bad]
  rfl

namespace PackedAssets

section Outcomes

variable (read : String → Except FileError ByteArray)

/-- **What packing an asset by itself gives**, with nothing decoded before. -/
def alone (source : AssetSource) : Except AssetFault (List UInt8) :=
  match read source.path with
  | .ok bytes => (decode ∅ source bytes).map Prod.fst
  | .error fault => .error (.unreadable fault)

/-- Whether two assets are of one kind and their files hold the same bytes. -/
def isTwin (other source : AssetSource) : Bool :=
  match read other.path, read source.path with
  | .ok first, .ok second => other.kind = source.kind && first.data = second.data
  | _, _ => false

/-- The payload of the first twin that packs by itself. -/
def twin? (earlier : List AssetSource) (source : AssetSource) : Option (List UInt8) :=
  earlier.findSome? fun other =>
    if isTwin read other source then (alone read other).toOption else none

/-- **What packing an asset after others gives.** -/
def among (earlier : List AssetSource) (source : AssetSource) : Except AssetFault (List UInt8) :=
  match twin? read earlier source with
  | some payload => .ok payload
  | none => alone read source

/-- **A sound with a bad file name, behind a twin that packs by itself.** -/
def IsShadowed (earlier : List AssetSource) (source : AssetSource) : Prop :=
  source.kind = .sound ∧ ¬ Sound.isRaw (FilePath.extension? source.path) = true
    ∧ ∃ other ∈ earlier, other.kind = .sound
      ∧ (∃ bytes, read other.path = .ok bytes ∧ read source.path = .ok bytes)
      ∧ ∃ payload, alone read other = .ok payload

end Outcomes

variable {read : String → Except FileError ByteArray}

theorem isTwin_iff {other source : AssetSource} :
    isTwin read other source = true ↔ other.kind = source.kind
      ∧ ∃ bytes, read other.path = .ok bytes ∧ read source.path = .ok bytes := by
  unfold isTwin
  cases read other.path with
  | error fault => simp
  | ok first =>
    cases read source.path with
    | error fault => simp
    | ok second =>
      simp only [Bool.and_eq_true, decide_eq_true_eq, Except.ok.injEq]
      refine and_congr_right fun _ => ⟨fun same => ⟨second, ByteArray.ext same, rfl⟩, ?_⟩
      rintro ⟨bytes, rfl, rfl⟩
      rfl

theorem twin?_append_singleton (earlier : List AssetSource) (last source : AssetSource) :
    twin? read (earlier ++ [last]) source
      = (twin? read earlier source).or
        (if isTwin read last source then (alone read last).toOption else none) := by
  rw [twin?, List.findSome?_append, List.findSome?_singleton]
  rfl

theorem twin?_congr {first second : AssetSource} (twins : isTwin read first second = true)
    (earlier : List AssetSource) : twin? read earlier first = twin? read earlier second := by
  obtain ⟨kind, bytes, firstBytes, secondBytes⟩ := isTwin_iff.1 twins
  have same : ∀ other, isTwin read other first = isTwin read other second := by
    intro other
    unfold isTwin
    rw [firstBytes, secondBytes, kind]
  unfold twin?
  simp only [same]

theorem twin?_eq_some {earlier : List AssetSource} {source : AssetSource} {payload : List UInt8}
    (found : twin? read earlier source = some payload) :
    ∃ other ∈ earlier, other.kind = source.kind
      ∧ (∃ bytes, read other.path = .ok bytes ∧ read source.path = .ok bytes)
      ∧ alone read other = .ok payload := by
  obtain ⟨other, member, here⟩ := List.exists_of_findSome?_eq_some found
  split at here
  · rename_i twins
    obtain ⟨kind, bytes⟩ := isTwin_iff.1 twins
    refine ⟨other, member, kind, bytes, ?_⟩
    cases packed : alone read other with
    | error fault =>
      rw [packed] at here
      cases here
    | ok found =>
      rw [packed] at here
      exact congrArg _ (Option.some.inj here)
  · cases here

theorem alone_eq {source : AssetSource} {bytes : ByteArray} (found : read source.path = .ok bytes) :
    alone read source = source.kind.payload source.path bytes := by
  rw [alone, found]
  simp only [decode, Std.HashMap.getElem?_empty]
  cases source.kind.payload source.path bytes <;> rfl

/-- **Other assets matter just to sounds with a bad file name behind a good one.** -/
theorem among_ne_alone_iff (earlier : List AssetSource) (source : AssetSource) :
    among read earlier source ≠ alone read source ↔ IsShadowed read earlier source := by
  unfold among
  constructor
  · intro differ
    cases found : twin? read earlier source with
    | none =>
      rw [found] at differ
      exact (differ rfl).elim
    | some payload =>
      rw [found] at differ
      obtain ⟨other, member, kind, ⟨bytes, otherBytes, sourceBytes⟩, packed⟩ := twin?_eq_some found
      have otherPacked := packed
      rw [alone_eq otherBytes, kind] at otherPacked
      have bad : ¬ (source.kind ≠ .sound
          ∨ Sound.isRaw (FilePath.extension? source.path) = true) := by
        intro good
        have same := AssetKind.payload_eq_of_ok otherPacked good
        rw [alone_eq sourceBytes, same] at differ
        exact differ rfl
      rw [not_or, Decidable.not_not] at bad
      exact ⟨bad.1, bad.2, other, member, kind.trans bad.1, ⟨bytes, otherBytes, sourceBytes⟩,
        payload, packed⟩
  · rintro ⟨sound, bad, other, member, otherSound, ⟨bytes, otherBytes, sourceBytes⟩, payload,
      packed⟩ same
    have twins : isTwin read other source = true :=
      isTwin_iff.2 ⟨otherSound.trans sound.symm, bytes, otherBytes, sourceBytes⟩
    have refused : alone read source = .error (.sound .badExtension) := by
      rw [alone_eq sourceBytes, sound, AssetKind.payload_of_not_isRaw bad bytes]
    cases found : twin? read earlier source with
    | none =>
      have missing := List.findSome?_eq_none_iff.1 found other member
      rw [if_pos twins, packed] at missing
      cases missing
    | some first =>
      rw [found, refused] at same
      cases same

/-! ### The memo of files that have been decoded -/

/-- **Different files have different digests**, if they are read for one of the assets. -/
def CollisionFree (read : String → Except FileError ByteArray) (sources : List AssetSource) :
    Prop :=
  ∀ first ∈ sources, ∀ second ∈ sources, ∀ firstBytes secondBytes,
    read first.path = .ok firstBytes → read second.path = .ok secondBytes →
      Digest.ofArray firstBytes = Digest.ofArray secondBytes → firstBytes = secondBytes

/-- What the memo holds for an asset to come is the payload of its first twin. -/
def Remembers (read : String → Except FileError ByteArray) (sources earlier : List AssetSource)
    (decoded : Decoded) : Prop :=
  ∀ source ∈ sources, ∀ bytes, read source.path = .ok bytes →
    decoded[(source.kind, Digest.ofArray bytes)]? = twin? read earlier source

theorem remembers_start (read : String → Except FileError ByteArray) (sources : List AssetSource) :
    Remembers read sources [] ∅ := by
  intro source _ bytes _
  rw [Std.HashMap.getElem?_empty]
  rfl

variable {sources earlier : List AssetSource} {decoded : Decoded} {source : AssetSource}

theorem Remembers.skip (remembers : Remembers read sources earlier decoded)
    (stale : (∃ payload, twin? read earlier source = some payload)
      ∨ ∃ fault, alone read source = .error fault) :
    Remembers read sources (earlier ++ [source]) decoded := by
  intro other listed bytes found
  rw [remembers other listed bytes found, twin?_append_singleton]
  by_cases twins : isTwin read source other = true
  · rw [if_pos twins, ← twin?_congr twins]
    obtain ⟨payload, known⟩ | ⟨fault, refused⟩ := stale
    · rw [known, Option.some_or]
    · rw [refused]
      exact (Option.or_none).symm
  · rw [if_neg twins, Option.or_none]

theorem Remembers.insert (collisionFree : CollisionFree read sources)
    (remembers : Remembers read sources earlier decoded) (listed : source ∈ sources)
    {bytes : ByteArray} (found : read source.path = .ok bytes)
    (unknown : twin? read earlier source = none) {payload : List UInt8}
    (packed : alone read source = .ok payload) :
    Remembers read sources (earlier ++ [source])
      (decoded.insert (source.kind, Digest.ofArray bytes) payload) := by
  intro other otherListed otherBytes otherFound
  rw [Std.HashMap.getElem?_insert, twin?_append_singleton]
  by_cases twins : isTwin read source other = true
  · obtain ⟨kind, bytes', here, there⟩ := isTwin_iff.1 twins
    cases found.symm.trans here
    cases otherFound.symm.trans there
    rw [kind, if_pos (beq_self_eq_true _), if_pos twins, ← twin?_congr twins, unknown, packed]
    rfl
  · have apart : ¬ ((source.kind, Digest.ofArray bytes) == (other.kind, Digest.ofArray otherBytes))
        = true := by
      intro same
      obtain ⟨kind, digest⟩ := Prod.mk.inj (beq_iff_eq.1 same)
      have bytesEq := collisionFree source listed other otherListed _ _ found otherFound digest
      exact twins (isTwin_iff.2 ⟨kind, bytes, found, bytesEq ▸ otherFound⟩)
    rw [if_neg apart, if_neg twins, Option.or_none]
    exact remembers other otherListed otherBytes otherFound

/-- **The memo gives what the twins say**, and goes on to do so. -/
theorem Remembers.decode (collisionFree : CollisionFree read sources)
    (remembers : Remembers read sources earlier decoded) (listed : source ∈ sources)
    {bytes : ByteArray} (found : read source.path = .ok bytes) :
    match among read earlier source with
    | .ok payload => ∃ after, PackedAssets.decode decoded source bytes = .ok (payload, after)
        ∧ Remembers read sources (earlier ++ [source]) after
    | .error fault => PackedAssets.decode decoded source bytes = .error fault
        ∧ Remembers read sources (earlier ++ [source]) decoded := by
  have memo := remembers source listed bytes found
  have itself := alone_eq found
  unfold among PackedAssets.decode
  simp only [memo]
  cases known : twin? read earlier source with
  | some payload => exact ⟨decoded, rfl, remembers.skip (.inl ⟨payload, known⟩)⟩
  | none =>
    cases packed : source.kind.payload source.path bytes with
    | ok payload =>
      rw [packed] at itself
      rw [itself]
      exact ⟨_, rfl, remembers.insert collisionFree listed found known itself⟩
    | error fault =>
      rw [packed] at itself
      rw [itself]
      exact ⟨rfl, remembers.skip (.inr ⟨fault, itself⟩)⟩

/-- What the packer makes of an asset is what its twins say. -/
theorem made_eq_among (collisionFree : CollisionFree read sources)
    (remembers : Remembers read sources earlier (reached read earlier).decoded)
    (listed : source ∈ sources) : made read earlier source = among read earlier source := by
  rw [made]
  cases found : read source.path with
  | error fault =>
    have unknown : twin? read earlier source = none := by
      cases known : twin? read earlier source with
      | none => rfl
      | some payload =>
        obtain ⟨_, _, _, ⟨bytes, _, there⟩, _⟩ := twin?_eq_some known
        cases found.symm.trans there
    rw [among, unknown, alone, found]
  | ok bytes =>
    have decodes := remembers.decode collisionFree listed found
    cases outcome : among read earlier source with
    | ok payload =>
      rw [outcome] at decodes
      obtain ⟨after, decoded, _⟩ := decodes
      simp only [decoded]
      rfl
    | error fault =>
      rw [outcome] at decodes
      simp only [decodes.1]
      rfl

theorem Remembers.attempt (collisionFree : CollisionFree read sources) {progress : Progress}
    (remembers : Remembers read sources earlier progress.decoded) (listed : source ∈ sources) :
    Remembers read sources (earlier ++ [source]) (progress.attempt read source).decoded := by
  rw [Progress.attempt]
  cases found : read source.path with
  | error fault =>
    have refused : alone read source = .error (.unreadable fault) := by rw [alone, found]
    exact remembers.skip (.inr ⟨_, refused⟩)
  | ok bytes =>
    have decodes := remembers.decode collisionFree listed found
    cases outcome : among read earlier source with
    | ok payload =>
      rw [outcome] at decodes
      obtain ⟨after, decoded, remembers⟩ := decodes
      simp only [decoded, Progress.decoded_store]
      exact remembers
    | error fault =>
      rw [outcome] at decodes
      simp only [decodes.1]
      exact decodes.2

/-- **The memo holds what the twins say**, after any of the assets. -/
theorem remembers_reached (collisionFree : CollisionFree read sources) (earlier : List AssetSource)
    (inside : ∀ source ∈ earlier, source ∈ sources) :
    Remembers read sources earlier (reached read earlier).decoded := by
  induction earlier using List.reverseRecOn with
  | nil => exact remembers_start read sources
  | append_singleton earlier source ih =>
    have before := ih fun other member => inside other (List.mem_append_left _ member)
    rw [reached_append_singleton]
    exact before.attempt collisionFree
      (inside source (List.mem_append_right _ List.mem_cons_self))

/-! ### The packer as a whole -/

/-- What is to be stored: the payloads of the assets that pack by themselves, and the palettes. -/
def blobs (read : String → Except FileError ByteArray) (project : Project) : List PackedAsset :=
  (project.assets.filterMap fun source =>
      (alone read source).toOption.map (.ofPayload (.asset source.kind)))
    ++ project.palettes.map fun palette => .ofPayload .palette palette.payload

/-- **Different things to be stored have different digests.** -/
def BlobsApart (read : String → Except FileError ByteArray) (project : Project) : Prop :=
  ∀ first ∈ blobs read project, ∀ second ∈ blobs read project,
    first.digest = second.digest → first = second

variable {project : Project}

theorem mem_blobs_of_among {before later : List AssetSource} {payload : List UInt8}
    (whole : project.assets = before ++ source :: later)
    (accepted : among read before source = .ok payload) :
    PackedAsset.ofPayload (.asset source.kind) payload ∈ blobs read project := by
  have packs : ∃ other ∈ project.assets, other.kind = source.kind
      ∧ alone read other = .ok payload := by
    rw [whole]
    unfold among at accepted
    cases known : twin? read before source with
    | none =>
      rw [known] at accepted
      exact ⟨source, List.mem_append_right _ List.mem_cons_self, rfl, accepted⟩
    | some found =>
      rw [known] at accepted
      cases accepted
      obtain ⟨other, member, kind, _, packed⟩ := twin?_eq_some known
      exact ⟨other, List.mem_append_left _ member, kind, packed⟩
  obtain ⟨other, member, kind, packed⟩ := packs
  refine List.mem_append_left _ (List.mem_filterMap.2 ⟨other, member, ?_⟩)
  rw [packed, kind]
  rfl

theorem made_eq_among_of_split (collisionFree : CollisionFree read project.assets)
    {later : List AssetSource} (whole : project.assets = earlier ++ source :: later) :
    made read earlier source = among read earlier source := by
  refine made_eq_among collisionFree (remembers_reached collisionFree earlier ?_) ?_
  · rw [whole]
    exact fun other member => List.mem_append_left _ member
  · rw [whole]
    exact List.mem_append_right _ List.mem_cons_self

theorem refusals_made (collisionFree : CollisionFree read project.assets) :
    refusals (made read) project.assets = refusals (among read) project.assets := by
  refine along_congr fun before item later whole => ?_
  rw [List.nil_append, refusal, refusal, made_eq_among_of_split collisionFree whole]

/-- **The packer stores or refuses an asset as its twins say.** -/
theorem packsAs_among (collisionFree : CollisionFree read project.assets)
    (apart : BlobsApart read project) : PacksAs read project (among read) := by
  have stored : ∀ one ∈ entries (made read) project, one.2 ∈ blobs read project := by
    intro one member
    rcases mem_entries_cases member with ⟨before, asset, after, payload, whole, accepted, rfl⟩
      | ⟨palette, listed, rfl⟩
    · rw [made_eq_among_of_split collisionFree whole] at accepted
      exact mem_blobs_of_among whole accepted
    · exact List.mem_append_right _ (List.mem_map.2 ⟨palette, listed, rfl⟩)
  have packs : PacksAs read project (made read) :=
    packsAs_made fun first firstMember second secondMember =>
      apart first.2 (stored first firstMember) second.2 (stored second secondMember)
  exact packs.congr fun earlier source later whole => made_eq_among_of_split collisionFree whole

/-! ### When other assets do not matter -/

/-- A sound that is shadowed is refused by itself, and accepted behind the other one. -/
theorem IsShadowed.cases (shadowed : IsShadowed read earlier source) :
    alone read source = .error (.sound .badExtension)
      ∧ ∃ payload, among read earlier source = .ok payload := by
  have differ := (among_ne_alone_iff earlier source).2 shadowed
  obtain ⟨sound, bad, _, _, _, ⟨bytes, _, sourceBytes⟩, _⟩ := shadowed
  constructor
  · rw [alone_eq sourceBytes, sound, AssetKind.payload_of_not_isRaw bad bytes]
  · unfold among at differ ⊢
    cases known : twin? read earlier source with
    | none =>
      rw [known] at differ
      exact (differ rfl).elim
    | some payload => exact ⟨payload, rfl⟩

/-- What is refused or accepted because of other assets is no crash. -/
theorem crash?_among (sources : List AssetSource) :
    crash? (refusals (among read) sources) = crash? (refusals (fun _ => alone read) sources) := by
  refine crash?_along fun before source later _ => ?_
  rw [List.nil_append]
  by_cases shadowed : IsShadowed read before source
  · obtain ⟨refused, payload, accepted⟩ := shadowed.cases
    rw [refusal, refusal, refused, accepted]
    rfl
  · have same : among read before source = alone read source :=
      Classical.byContradiction fun differ => shadowed ((among_ne_alone_iff before source).1 differ)
    rw [refusal, refusal, same]

theorem length_refusal_among_le (read : String → Except FileError ByteArray)
    (earlier : List AssetSource) (source : AssetSource) :
    (refusal (among read) earlier source).length
      ≤ (refusal (fun _ => alone read) earlier source).length := by
  unfold refusal among
  cases twin? read earlier source with
  | some payload => exact Nat.zero_le _
  | none => exact Nat.le_refl _

/-- **A shadowed sound shows**, unless the program crashes: the packer does not behave as if it were
packed by itself. -/
theorem not_packsAs_alone (collisionFree : CollisionFree read project.assets)
    (clear : crash? (refusals (fun _ => alone read) project.assets) = none) {later : List AssetSource}
    (whole : project.assets = earlier ++ source :: later)
    (shadowed : IsShadowed read earlier source) :
    ¬ PacksAs read project fun _ => alone read := by
  intro packs
  obtain ⟨refused, payload, accepted⟩ := shadowed.cases
  have fewer : (refusals (among read) project.assets).length
      < (refusals (fun _ => alone read) project.assets).length := by
    have before := length_along_le (length_refusal_among_le read) [] earlier
    have behind := length_along_le (length_refusal_among_le read) (earlier ++ [source]) later
    rw [refusals, refusals, whole, along_append, along_append, along, along, List.nil_append]
    simp only [refusal, refused, accepted, List.length_append, List.length_nil,
      List.length_singleton] at before behind ⊢
    omega
  obtain ⟨progress, _, result⟩ := ofProject_eq read project
  rw [refusals_made collisionFree, verdict, crash?_among, clear] at result
  dsimp only at result
  have some : refusals (fun _ => alone read) project.assets ≠ [] := by
    intro none
    rw [none] at fewer
    exact Nat.not_lt_zero _ fewer
  have reported := result.symm.trans (packs.refuses some clear)
  split at reported
  · cases reported
  · rw [PackingFault.refused.inj (Except.error.inj reported)] at fewer
    exact Nat.lt_irrefl _ fewer

/-- **A crash hides the rest**: over it, packing each asset by itself is the same. -/
theorem packsAs_alone_of_crash (packs : PacksAs read project (among read)) {operation : Overflow}
    (crash : crash? (refusals (fun _ => alone read) project.assets) = some operation) :
    PacksAs read project fun _ => alone read := by
  refine ⟨fun none => ?_, fun _ clear => ?_, ?_⟩
  · rw [none] at crash
    cases crash
  · cases crash.symm.trans clear
  · rw [← crash?_among]
    exact packs.crashes

/-- **When other assets do not matter.** An asset is always packed as its twins say. So the packer
behaves as if each asset were packed by itself, exactly if no sound with a bad file name stands
behind one with a good file name and the same bytes, or the program crashes over a song anyway. Such
a sound is accepted, though by itself it is refused. -/
theorem packsAs_alone_iff (read : String → Except FileError ByteArray) (project : Project)
    (collisionFree : CollisionFree read project.assets) (apart : BlobsApart read project) :
    PacksAs read project (among read)
      ∧ (PacksAs read project (fun _ => alone read)
        ↔ (∃ operation, crash? (refusals (fun _ => alone read) project.assets) = some operation)
          ∨ ∀ earlier source later, project.assets = earlier ++ source :: later →
            ¬ IsShadowed read earlier source)
      ∧ ∀ earlier source, among read earlier source ≠ alone read source
        ↔ IsShadowed read earlier source := by
  have packs := packsAs_among collisionFree apart
  refine ⟨packs, ⟨fun itself => ?_, ?_⟩, among_ne_alone_iff⟩
  · cases crash : crash? (refusals (fun _ => alone read) project.assets) with
    | some operation => exact .inl ⟨operation, rfl⟩
    | none =>
      refine .inr fun earlier source later whole shadowed => ?_
      exact not_packsAs_alone collisionFree crash whole shadowed itself
  · rintro (⟨operation, crash⟩ | clear)
    · exact packsAs_alone_of_crash packs crash
    · refine packs.congr fun earlier source later whole => ?_
      exact Classical.byContradiction fun differ =>
        clear earlier source later whole ((among_ne_alone_iff earlier source).1 differ)

/-- The name of a file of raw samples. -/
theorem extension?_raw : FilePath.extension? "a.raw" = some "raw" := by
  have slash : FilePath.parts "a.raw" = [("", "a.raw")] := by cbv
  have point : "a.raw".splitOn "." = ["a", "raw"] := by
    rw [String.splitOn, if_neg (by decide)]
    repeat (rw [String.splitOnAux]; simp +decide only [if_true, if_false])
  rw [FilePath.extension?, FilePath.fileName?, slash]
  simp +decide [point]

/-- Two files with the same samples, the second one without an extension. By itself the second sound
is refused, but not here. -/
theorem packsAs_alone_iff_twins :
    ∃ (read : String → Except FileError ByteArray) (project : Project),
      project.assets = [⟨"hit", .sound, "a.raw"⟩, ⟨"miss", .sound, "b"⟩]
        ∧ CollisionFree read project.assets ∧ BlobsApart read project
        ∧ (∃ fault, alone read ⟨"miss", .sound, "b"⟩ = .error fault)
        ∧ (∃ assets, ofProject read project = .ok assets)
        ∧ ¬ PacksAs read project fun _ => alone read := by
  let read : String → Except FileError ByteArray := fun _ => .ok ⟨#[0xF0, 0x10]⟩
  let project : Project := ⟨"", none, [], [], [],
    [⟨"hit", .sound, "a.raw"⟩, ⟨"miss", .sound, "b"⟩], [], [], [], []⟩
  have collisionFree : CollisionFree read project.assets := by
    intro _ _ _ _ firstBytes secondBytes first second _
    cases first
    cases second
    rfl
  have accepted : ∃ payload, alone read ⟨"hit", .sound, "a.raw"⟩ = .ok payload := by
    have raw : Sound.isRaw (some "raw") = true := by cbv
    rw [alone_eq rfl]
    show ∃ payload, (Sound.payload (FilePath.extension? "a.raw") _).mapError _ = _
    have samples : ByteArray.toList ⟨#[0xF0, 0x10]⟩ = [0xF0, 0x10] := by cbv
    rw [extension?_raw, Sound.payload, raw, samples]
    exact ⟨_, rfl⟩
  have bad : ¬ Sound.isRaw (FilePath.extension? "b") = true := by
    rw [Bool.not_eq_true]
    cbv
  have shadowed : IsShadowed read [⟨"hit", .sound, "a.raw"⟩] ⟨"miss", .sound, "b"⟩ :=
    ⟨rfl, bad, _, List.mem_cons_self, rfl, ⟨_, rfl, rfl⟩, accepted⟩
  obtain ⟨refused, payload, behind⟩ := shadowed.cases
  have noCrash : crash? (refusals (fun _ => alone read) project.assets) = none := by
    obtain ⟨first, packed⟩ := accepted
    show crash? (refusal _ [] ⟨"hit", .sound, "a.raw"⟩
      ++ (refusal _ [⟨"hit", .sound, "a.raw"⟩] ⟨"miss", .sound, "b"⟩ ++ [])) = none
    simp only [refusal, packed, refused]
    rfl
  have apart : BlobsApart read project := by
    obtain ⟨first, packed⟩ := accepted
    have one : blobs read project = [.ofPayload (.asset .sound) first] := by
      simp [blobs, project, packed, refused, Except.toOption]
    intro first firstMember second secondMember _
    rw [one, List.mem_singleton] at firstMember secondMember
    rw [firstMember, secondMember]
  obtain ⟨general, exactly, _⟩ := packsAs_alone_iff read project collisionFree apart
  have clear : refusals (among read) project.assets = [] := by
    obtain ⟨first, packed⟩ := accepted
    have firstAccepted : among read [] ⟨"hit", .sound, "a.raw"⟩ = .ok first := packed
    show refusal (among read) [] ⟨"hit", .sound, "a.raw"⟩
      ++ (refusal (among read) [⟨"hit", .sound, "a.raw"⟩] ⟨"miss", .sound, "b"⟩ ++ []) = []
    rw [refusal_eq_nil_iff.2 ⟨first, firstAccepted⟩, refusal_eq_nil_iff.2 ⟨payload, behind⟩]
    rfl
  obtain ⟨assets, packed, _⟩ := general.accepts clear
  refine ⟨read, project, rfl, collisionFree, apart, ⟨_, refused⟩, ⟨assets, packed⟩, fun packs => ?_⟩
  rcases exactly.1 packs with ⟨operation, crash⟩ | none
  · cases crash.symm.trans noCrash
  · exact none _ _ [] rfl shadowed

end PackedAssets
end Cartridge
