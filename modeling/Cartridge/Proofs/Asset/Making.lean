import Mathlib.Data.List.Induction
import Cartridge.Proofs.Asset.Storing

/-!
# What the packer makes of each asset

The packer goes through the assets in their order. What it makes of one depends on those before it
only through what has been decoded for them.

* `PackedAssets.along`: what is made of the items of a list one after the other.
* `PackedAssets.made`: what the packer makes of an asset.
* `PackedAssets.crash?`: where the program crashes over what is refused.
* `PackedAssets.PacksAs`: the packer behaves as an outcome for each asset says.
* `PackedAssets.ofProject_eq`: the packer stores what it makes of the assets and the palettes, or
  reports what it refuses, unless it crashes over an asset.
-/

namespace Cartridge.PackedAssets

/-! ### Going through a list -/

section Along

variable {α β : Type} {make other : List α → α → List β}

/-- Goes through a list and gathers what is made of each item and the ones before it. -/
def along {α β : Type} (make : List α → α → List β) (earlier : List α) : List α → List β
  | [] => []
  | item :: later => make earlier item ++ along make (earlier ++ [item]) later

theorem along_append (make : List α → α → List β) (earlier first second : List α) :
    along make earlier (first ++ second)
      = along make earlier first ++ along make (earlier ++ first) second := by
  induction first generalizing earlier with
  | nil => rw [List.nil_append, along, List.nil_append, List.append_nil]
  | cons item first ih =>
    rw [List.cons_append, along, along, ih, List.append_assoc, List.append_assoc]
    rfl

theorem along_append_singleton (make : List α → α → List β) (items : List α) (item : α) :
    along make [] (items ++ [item]) = along make [] items ++ make items item := by
  rw [along_append, along, along, List.nil_append, List.append_nil]

theorem mem_along {earlier items : List α} {result : β}
    (member : result ∈ along make earlier items) :
    ∃ before item later, items = before ++ item :: later
      ∧ result ∈ make (earlier ++ before) item := by
  induction items generalizing earlier with
  | nil => cases member
  | cons item items ih =>
    rcases List.mem_append.1 member with here | there
    · exact ⟨[], item, items, rfl, by rwa [List.append_nil]⟩
    · obtain ⟨before, found, later, whole, made⟩ := ih there
      refine ⟨item :: before, found, later, by rw [whole, List.cons_append], ?_⟩
      rwa [List.append_assoc] at made

theorem length_along_le
    (least : ∀ earlier item, (make earlier item).length ≤ (other earlier item).length)
    (earlier items : List α) :
    (along make earlier items).length ≤ (along other earlier items).length := by
  induction items generalizing earlier with
  | nil => exact Nat.le_refl _
  | cons item items ih =>
    rw [along, along, List.length_append, List.length_append]
    exact Nat.add_le_add (least earlier item) (ih _)

theorem along_congr {earlier items : List α}
    (same : ∀ before item later, items = before ++ item :: later →
      make (earlier ++ before) item = other (earlier ++ before) item) :
    along make earlier items = along other earlier items := by
  induction items generalizing earlier with
  | nil => rfl
  | cons item items ih =>
    have here := same [] item items rfl
    rw [List.append_nil] at here
    rw [along, along, here, ih fun before found later whole => ?_]
    rw [List.append_assoc]
    exact same (item :: before) found later (by rw [whole, List.cons_append])

end Along

/-! ### Outcomes -/

/-- What an asset comes to, given the assets before it. -/
abbrev Outcome : Type := List AssetSource → AssetSource → Except AssetFault (List UInt8)

/-- The error of an asset that is refused. -/
def refusal (outcome : Outcome) (earlier : List AssetSource) (source : AssetSource) :
    List AssetError :=
  match outcome earlier source with
  | .ok _ => []
  | .error fault => [⟨source.path, fault⟩]

/-- What is stored for an asset. -/
def entry (outcome : Outcome) (earlier : List AssetSource) (source : AssetSource) : List Entry :=
  match outcome earlier source with
  | .ok payload => [(assetSymbol source.name, .ofPayload (.asset source.kind) payload)]
  | .error _ => []

/-- The errors of all assets that are refused, in their order. -/
def refusals (outcome : Outcome) (sources : List AssetSource) : List AssetError :=
  along (refusal outcome) [] sources

/-- The first operation at which the program crashes over some refusals. -/
def crash? (errors : List AssetError) : Option Overflow :=
  errors.findSome? fun error => error.fault.overflow?

/-- What is stored for the palettes. -/
def paletteEntries (project : Project) : List Entry :=
  project.palettes.map fun palette =>
    (paletteSymbol palette.name, .ofPayload .palette palette.payload)

/-- **What is stored for the assets and the palettes**, in their order. -/
def entries (outcome : Outcome) (project : Project) : List Entry :=
  along (entry outcome) [] project.assets ++ paletteEntries project

variable {outcome : Outcome} {earlier : List AssetSource} {source : AssetSource}
  {project : Project} {payload : List UInt8} {fault : AssetFault}

theorem refusal_eq_nil_iff :
    refusal outcome earlier source = [] ↔ ∃ payload, outcome earlier source = .ok payload := by
  unfold refusal
  cases outcome earlier source <;> simp

theorem accepts_of_refusals_eq_nil (none : refusals outcome project.assets = [])
    {later : List AssetSource} (whole : project.assets = earlier ++ source :: later) :
    ∃ payload, outcome earlier source = .ok payload := by
  rw [refusals, whole, along_append, along, List.append_eq_nil_iff, List.append_eq_nil_iff] at none
  exact refusal_eq_nil_iff.1 none.2.1

theorem crash?_append (errors others : List AssetError) :
    crash? (errors ++ others) = (crash? errors).or (crash? others) := List.findSome?_append

/-- Refusals that crash alike, asset by asset, crash alike as a whole. -/
theorem crash?_along {make other : List AssetSource → AssetSource → List AssetError}
    {earlier sources : List AssetSource}
    (same : ∀ before source later, sources = before ++ source :: later →
      crash? (make (earlier ++ before) source) = crash? (other (earlier ++ before) source)) :
    crash? (along make earlier sources) = crash? (along other earlier sources) := by
  induction sources generalizing earlier with
  | nil => rfl
  | cons source sources ih =>
    have here := same [] source sources rfl
    rw [List.append_nil] at here
    rw [along, along, crash?_append, crash?_append, here, ih fun before found later whole => ?_]
    rw [List.append_assoc]
    exact same (source :: before) found later (by rw [whole, List.cons_append])

/-- The program crashes over what is refused just if it does over one of the assets. -/
theorem exists_crash?_iff {sources : List AssetSource} :
    (∃ operation, crash? (refusals outcome sources) = some operation)
      ↔ ∃ earlier source later fault operation, sources = earlier ++ source :: later
        ∧ outcome earlier source = .error fault ∧ fault.overflow? = some operation := by
  constructor
  · rintro ⟨operation, crash⟩
    obtain ⟨error, member, here⟩ := List.exists_of_findSome?_eq_some crash
    obtain ⟨earlier, source, later, whole, refused⟩ := mem_along member
    rw [List.nil_append, refusal] at refused
    split at refused
    · cases refused
    · next fault failed =>
      obtain rfl := List.mem_singleton.1 refused
      exact ⟨earlier, source, later, fault, operation, whole, failed, here⟩
  · rintro ⟨earlier, source, later, fault, operation, rfl, failed, here⟩
    have refused : refusal outcome earlier source = [⟨source.path, fault⟩] := by
      rw [refusal, failed]
    have crash : crash? (refusal outcome earlier source) = some operation := by
      rw [refused, crash?, List.findSome?_singleton]
      exact here
    rw [refusals, along_append, along, List.nil_append, crash?_append, crash?_append, crash]
    cases crash? (along (refusal outcome) [] earlier) with
    | some first => exact ⟨first, rfl⟩
    | none => exact ⟨operation, rfl⟩

theorem mem_entries_cases {one : Entry} (member : one ∈ entries outcome project) :
    (∃ earlier source later payload, project.assets = earlier ++ source :: later
        ∧ outcome earlier source = .ok payload
        ∧ one = (assetSymbol source.name, .ofPayload (.asset source.kind) payload))
      ∨ ∃ palette ∈ project.palettes,
        one = (paletteSymbol palette.name, .ofPayload .palette palette.payload) := by
  rcases List.mem_append.1 member with ofAsset | ofPalette
  · obtain ⟨before, asset, after, whole, made⟩ := mem_along ofAsset
    rw [List.nil_append] at made
    unfold entry at made
    split at made
    · rename_i payload accepted
      exact .inl ⟨before, asset, after, payload, whole, accepted, List.mem_singleton.1 made⟩
    · cases made
  · obtain ⟨palette, listed, rfl⟩ := List.mem_map.1 ofPalette
    exact .inr ⟨palette, listed, rfl⟩

/-- What is stored for an asset stands between what is stored for the assets before it and for those
behind it. -/
theorem entries_eq {later : List AssetSource} (whole : project.assets = earlier ++ source :: later)
    (accepted : outcome earlier source = .ok payload) :
    entries outcome project
      = along (entry outcome) [] earlier
        ++ (assetSymbol source.name, .ofPayload (.asset source.kind) payload)
          :: (along (entry outcome) (earlier ++ [source]) later ++ paletteEntries project) := by
  have made : entry outcome earlier source
      = [(assetSymbol source.name, .ofPayload (.asset source.kind) payload)] := by
    rw [entry, accepted]
  rw [entries, whole, along_append, along, List.nil_append, made, List.append_assoc]
  rfl

theorem mem_entries_of_eq_ok {later : List AssetSource}
    (whole : project.assets = earlier ++ source :: later)
    (accepted : outcome earlier source = .ok payload) :
    (assetSymbol source.name, .ofPayload (.asset source.kind) payload)
      ∈ entries outcome project := by
  rw [entries_eq whole accepted]
  exact List.mem_append_right _ List.mem_cons_self

theorem mem_entries_of_mem_palettes {palette : Palette} (declared : palette ∈ project.palettes) :
    (paletteSymbol palette.name, .ofPayload .palette palette.payload)
      ∈ entries outcome project :=
  List.mem_append_right _ (List.mem_map.2 ⟨palette, declared, rfl⟩)

/-! ### The run of the packer -/

section Run

variable (read : String → Except FileError ByteArray)

/-- What is done for an asset where that does not crash: it is stored or reported. -/
def Progress.attempt (progress : Progress) (source : AssetSource) : Progress :=
  let found := match read source.path with
    | .ok bytes => decode progress.decoded source bytes
    | .error fault => .error (.unreadable fault)
  match found with
  | .ok (payload, decoded) =>
    ({ progress with decoded }).store (assetSymbol source.name)
      (.ofPayload (.asset source.kind) payload)
  | .error fault => { progress with errors := progress.errors.push ⟨source.path, fault⟩ }

/-- Where the packer is after some assets over which it does not crash. -/
def reached (earlier : List AssetSource) : Progress := earlier.foldl (Progress.attempt read) .start

/-- **What the packer makes of an asset**, with what has been decoded for those before it. -/
def made (earlier : List AssetSource) (source : AssetSource) : Except AssetFault (List UInt8) :=
  match read source.path with
  | .ok bytes => (decode (reached read earlier).decoded source bytes).map Prod.fst
  | .error fault => .error (.unreadable fault)

end Run

variable {read : String → Except FileError ByteArray}

/-- Before anything has been decoded, an asset is made of its file alone. -/
theorem made_nil (source : AssetSource) :
    made read [] source = match read source.path with
      | .ok bytes => source.kind.payload source.path bytes
      | .error fault => .error (.unreadable fault) := by
  unfold made
  cases read source.path with
  | error fault => rfl
  | ok bytes =>
    have fresh : (reached read []).decoded[(source.kind, Digest.ofArray bytes)]? = none :=
      Std.HashMap.getElem?_empty
    simp only [decode, fresh]
    cases source.kind.payload source.path bytes <;> rfl

theorem reached_append_singleton (earlier : List AssetSource) (source : AssetSource) :
    reached read (earlier ++ [source]) = (reached read earlier).attempt read source := by
  rw [reached, List.foldl_append]
  rfl

/-- The packer crashes over an asset, or it attempts it. -/
theorem addAsset_reached (earlier : List AssetSource) (source : AssetSource) :
    (reached read earlier).addAsset read source
      = match crash? (refusal (made read) earlier source) with
        | some operation => .error operation
        | none => .ok (reached read (earlier ++ [source])) := by
  rw [reached_append_singleton, Progress.addAsset, Progress.attempt, refusal, made]
  generalize reached read earlier = progress
  cases found : read source.path with
  | error fault => rfl
  | ok bytes =>
    simp only
    cases outcome : decode progress.decoded source bytes with
    | ok result => rfl
    | error fault =>
      cases overflow : fault.overflow? <;>
        simp only [Except.map, crash?, List.findSome?_singleton, overflow]

/-- **The packer goes through the assets up to the first one over which it crashes.** -/
theorem foldlM_addAsset (read : String → Except FileError ByteArray)
    (sources : List AssetSource) :
    sources.foldlM (Progress.addAsset read) .start
      = match crash? (refusals (made read) sources) with
        | some operation => .error operation
        | none => .ok (reached read sources) := by
  induction sources using List.reverseRecOn with
  | nil => rfl
  | append_singleton sources source ih =>
    have refused : refusals (made read) (sources ++ [source])
        = refusals (made read) sources ++ refusal (made read) sources source :=
      along_append_singleton _ _ _
    rw [List.foldlM_append, ih, refused, crash?_append]
    cases crash? (refusals (made read) sources) with
    | some operation => rfl
    | none =>
      rw [Option.none_or, ← addAsset_reached]
      show (reached read sources).addAsset read source >>= pure = _
      rw [bind_pure]

theorem attempt_of_ok (accepted : made read earlier source = .ok payload) :
    ∃ decoded, reached read (earlier ++ [source])
      = { reached read earlier with decoded }.store (assetSymbol source.name)
        (.ofPayload (.asset source.kind) payload) := by
  rw [reached_append_singleton, Progress.attempt]
  unfold made at accepted
  cases found : read source.path with
  | error fault =>
    rw [found] at accepted
    cases accepted
  | ok bytes =>
    rw [found] at accepted
    cases outcome : decode (reached read earlier).decoded source bytes with
    | error fault =>
      simp only [outcome] at accepted
      cases accepted
    | ok result =>
      simp only [outcome] at accepted
      cases accepted
      exact ⟨result.2, by simp only [outcome]⟩

/-- An asset that is refused is reported, and nothing else happens. -/
theorem attempt_of_error (refused : made read earlier source = .error fault) :
    reached read (earlier ++ [source])
      = { reached read earlier with
          errors := (reached read earlier).errors.push ⟨source.path, fault⟩ } := by
  rw [reached_append_singleton, Progress.attempt]
  unfold made at refused
  cases found : read source.path with
  | error fault =>
    rw [found] at refused
    cases refused
    rfl
  | ok bytes =>
    rw [found] at refused
    cases outcome : decode (reached read earlier).decoded source bytes with
    | error fault =>
      simp only [outcome] at refused
      cases refused
      simp only [outcome]
    | ok result =>
      simp only [outcome] at refused
      cases refused

/-- **The packer stores what it makes of the assets, and reports those that it refuses.** -/
theorem holds_reached (read : String → Except FileError ByteArray) (sources : List AssetSource) :
    (reached read sources).errors.toList = refusals (made read) sources
      ∧ (reached read sources).Holds (along (entry (made read)) [] sources) := by
  induction sources using List.reverseRecOn with
  | nil => exact ⟨rfl, Progress.holds_start⟩
  | append_singleton sources source ih =>
    obtain ⟨errors, holds⟩ := ih
    rw [refusals, along_append_singleton, along_append_singleton, refusal, entry]
    cases outcome : made read sources source with
    | ok payload =>
      obtain ⟨decoded, stored⟩ := attempt_of_ok outcome
      have before : Progress.Holds { reached read sources with decoded }
          (along (entry (made read)) [] sources) :=
        ⟨holds.places_iff, holds.stored, holds.order, holds.last⟩
      rw [stored]
      refine ⟨?_, before.store _ _⟩
      rw [Progress.errors_store, List.append_nil]
      exact errors
    | error fault =>
      rw [attempt_of_error outcome]
      refine ⟨?_, ?_⟩
      · rw [Array.toList_push, errors]
        rfl
      · rw [List.append_nil]
        exact ⟨holds.places_iff, holds.stored, holds.order, holds.last⟩

theorem foldl_addPalette (palettes : List Palette) {progress : Progress} {entries : List Entry}
    (holds : progress.Holds entries) :
    (palettes.foldl Progress.addPalette progress).errors = progress.errors
      ∧ (palettes.foldl Progress.addPalette progress).Holds (entries ++ palettes.map fun palette =>
        (paletteSymbol palette.name, .ofPayload .palette palette.payload)) := by
  induction palettes generalizing progress entries with
  | nil =>
    rw [List.map_nil, List.append_nil]
    exact ⟨rfl, holds⟩
  | cons palette palettes ih =>
    obtain ⟨errors, stored⟩ := ih (holds.store (paletteSymbol palette.name)
      (.ofPayload .palette palette.payload))
    refine ⟨errors.trans (Progress.errors_store _ _ _), ?_⟩
    rwa [List.append_assoc] at stored

/-- **What the packer comes to**, when some assets are refused. -/
def verdict (assets : PackedAssets) (errors : List AssetError) :
    Except PackingFault PackedAssets :=
  match crash? errors with
  | some operation => .error (.crash operation)
  | none => if errors = [] then .ok assets else .error (.refused errors)

theorem verdict_eq_ok_iff {assets packed : PackedAssets} {errors : List AssetError} :
    verdict assets errors = .ok packed ↔ errors = [] ∧ assets = packed := by
  unfold verdict
  by_cases none : errors = []
  · subst none
    simp [crash?]
  · cases crash? errors <;> simp [none]

theorem verdict_eq_crash_iff {assets : PackedAssets} {errors : List AssetError}
    {operation : Overflow} :
    verdict assets errors = .error (.crash operation) ↔ crash? errors = some operation := by
  unfold verdict
  cases crash? errors with
  | some first => simp
  | none => by_cases none : errors = [] <;> simp [none]

theorem verdict_of_ne_nil {assets : PackedAssets} {errors : List AssetError}
    (some : errors ≠ []) (clear : crash? errors = none) :
    verdict assets errors = .error (.refused errors) := by
  rw [verdict, clear]
  exact if_neg some

/-- **The packer stores what it makes of the assets and the palettes**, or reports what it refuses,
unless it crashes over an asset. -/
theorem ofProject_eq (read : String → Except FileError ByteArray) (project : Project) :
    ∃ progress : Progress, progress.Holds (entries (made read) project)
      ∧ ofProject read project
        = verdict progress.assets (refusals (made read) project.assets) := by
  obtain ⟨errors, held⟩ := holds_reached read project.assets
  obtain ⟨kept, holds⟩ := foldl_addPalette project.palettes held
  refine ⟨_, holds, ?_⟩
  rw [ofProject, foldlM_addAsset, verdict]
  cases crash? (refusals (made read) project.assets) with
  | some operation => rfl
  | none =>
    let all := project.palettes.foldl Progress.addPalette (reached read project.assets)
    show (if all.errors.isEmpty then Except.ok all.assets
      else .error (PackingFault.refused all.errors.toList)) = _
    rw [kept, ← errors]
    by_cases none : (reached read project.assets).errors = #[]
    · simp [none, all]
    · simp [none]

theorem assetSymbol_ne_paletteSymbol (asset palette : String) :
    assetSymbol asset ≠ paletteSymbol palette := by
  intro same
  have first := congrArg (fun symbol => symbol.toList.head?) same
  simp [Declaration.symbol] at first

/-- **The packer behaves as an outcome says.** It accepts the project just if that refuses no asset,
and then every symbol has the payload that is due to the last asset of that symbol; if not, it
reports all refusals in their order, or crashes at the first one that is a crash. -/
structure PacksAs (read : String → Except FileError ByteArray) (project : Project)
    (outcome : Outcome) : Prop where
  accepts : refusals outcome project.assets = [] → ∃ assets, ofProject read project = .ok assets
    ∧ ∀ earlier source later, project.assets = earlier ++ source :: later →
      (∀ other ∈ later, assetSymbol other.name ≠ assetSymbol source.name) →
        ∃ payload, outcome earlier source = .ok payload
          ∧ assets.get? (assetSymbol source.name)
            = some (.ofPayload (.asset source.kind) payload)
  refuses : refusals outcome project.assets ≠ [] → crash? (refusals outcome project.assets) = none →
    ofProject read project = .error (.refused (refusals outcome project.assets))
  crashes : ∀ operation, crash? (refusals outcome project.assets) = some operation →
    ofProject read project = .error (.crash operation)

/-- Outcomes that agree on the assets of the project mean the same behaviour. -/
theorem PacksAs.congr {other : Outcome} (packs : PacksAs read project outcome)
    (same : ∀ earlier source later, project.assets = earlier ++ source :: later →
      outcome earlier source = other earlier source) :
    PacksAs read project other := by
  have refused : refusals outcome project.assets = refusals other project.assets := by
    refine along_congr fun before item later whole => ?_
    rw [List.nil_append, refusal, refusal, same before item later whole]
  refine ⟨fun none => ?_, ?_, ?_⟩
  · obtain ⟨assets, packed, aliased⟩ := packs.accepts (refused.trans none)
    refine ⟨assets, packed, fun earlier source later whole last => ?_⟩
    rw [← same earlier source later whole]
    exact aliased earlier source later whole last
  · rw [← refused]
    exact packs.refuses
  · rw [← refused]
    exact packs.crashes

/-- **The packer behaves as what it makes of the assets says**, if things that it makes have the
same digest only if they are the same. -/
theorem packsAs_made (apart : ∀ first ∈ entries (made read) project,
      ∀ second ∈ entries (made read) project,
        first.2.digest = second.2.digest → first.2 = second.2) :
    PacksAs read project (made read) := by
  obtain ⟨progress, holds, result⟩ := ofProject_eq read project
  refine ⟨fun none => ?_, fun some clear => result.trans (verdict_of_ne_nil some clear),
    fun operation crash => result.trans (verdict_eq_crash_iff.2 crash)⟩
  refine ⟨progress.assets, result.trans (verdict_eq_ok_iff.2 ⟨none, rfl⟩),
    fun earlier source later whole last => ?_⟩
  obtain ⟨payload, accepted⟩ := accepts_of_refusals_eq_nil none whole
  refine ⟨payload, accepted, ?_⟩
  refine holds.get?_eq apart (entries_eq whole accepted) fun other member => ?_
  rcases List.mem_append.1 member with ofAsset | ofPalette
  · obtain ⟨before, asset, after, split, made⟩ := mem_along ofAsset
    unfold entry at made
    split at made
    · rw [List.mem_singleton.1 made]
      exact last asset (by rw [split]; exact List.mem_append_right _ List.mem_cons_self)
    · cases made
  · obtain ⟨palette, _, rfl⟩ := List.mem_map.1 ofPalette
    exact (assetSymbol_ne_paletteSymbol _ _).symm

/-! ### What is stored for a symbol -/

/-- **Different things that the packer makes have different names**, though a name has just the
first digits of a digest. -/
def NamesApart (read : String → Except FileError ByteArray) (project : Project) : Prop :=
  ∀ first ∈ entries (made read) project, ∀ second ∈ entries (made read) project,
    first.2.symbol = second.2.symbol → first.2 = second.2

variable {assets : PackedAssets}

theorem ofProject_eq_ok (packed : ofProject read project = .ok assets) :
    refusals (made read) project.assets = []
      ∧ ∃ progress : Progress, progress.Holds (entries (made read) project)
        ∧ progress.assets = assets := by
  obtain ⟨progress, holds, result⟩ := ofProject_eq read project
  obtain ⟨none, same⟩ := verdict_eq_ok_iff.1 (result.symm.trans packed)
  exact ⟨none, progress, holds, same⟩

theorem map_fst_entries (none : refusals outcome project.assets = []) :
    (entries outcome project).map Prod.fst
      = project.assets.map (fun source => assetSymbol source.name)
        ++ project.palettes.map fun palette => paletteSymbol palette.name := by
  have ofAssets : ∀ earlier later, project.assets = earlier ++ later →
      (along (entry outcome) earlier later).map Prod.fst
        = later.map fun source => assetSymbol source.name := by
    intro earlier later whole
    induction later generalizing earlier with
    | nil => rfl
    | cons source later ih =>
      obtain ⟨payload, accepted⟩ := accepts_of_refusals_eq_nil none whole
      rw [along, entry, accepted, List.map_append, ih _ (by rw [whole, List.append_assoc]; rfl)]
      rfl
  rw [entries, List.map_append, ofAssets [] project.assets rfl, paletteEntries, List.map_map]
  rfl

/-- **A symbol has what was made for it**, if no symbol is given twice. -/
theorem get?_of_mem_entries (packed : ofProject read project = .ok assets)
    (apart : NamesApart read project)
    (distinct : ((entries (made read) project).map Prod.fst).Nodup) {one : Entry}
    (member : one ∈ entries (made read) project) : assets.get? one.1 = some one.2 := by
  obtain ⟨_, progress, holds, rfl⟩ := ofProject_eq_ok packed
  obtain ⟨before, after, whole⟩ := List.append_of_mem member
  refine holds.get?_eq (fun first firstMember second secondMember same => ?_) whole
    fun other later same => ?_
  · exact apart first firstMember second secondMember
      (by rw [PackedAsset.symbol, same, PackedAsset.symbol])
  · rw [whole, List.map_append, List.map_cons, List.nodup_append, List.nodup_cons] at distinct
    exact distinct.2.1.1 (same ▸ List.mem_map_of_mem later)

theorem mem_packed_of_get? {symbol : String} {asset : PackedAsset}
    (found : assets.get? symbol = some asset) : asset ∈ assets.packed := by
  rw [Progress.get?_eq_bind] at found
  obtain ⟨place, _, there⟩ := Option.bind_eq_some_iff.1 found
  exact Array.mem_of_getElem? there

/-- **No name is stored twice.** -/
theorem nodup_symbols (packed : ofProject read project = .ok assets)
    (apart : NamesApart read project) :
    (assets.packed.toList.map PackedAsset.symbol).Nodup := by
  obtain ⟨_, progress, holds, rfl⟩ := ofProject_eq_ok packed
  rw [List.Nodup, List.pairwise_map, List.pairwise_iff_getElem]
  intro first second firstInside secondInside before same
  obtain ⟨firstName, firstMember⟩ := holds.stored _ (Array.getElem_mem firstInside)
  obtain ⟨secondName, secondMember⟩ := holds.stored _ (Array.getElem_mem secondInside)
  have equal := apart _ firstMember _ secondMember (by simpa using same)
  have firstPlace := (holds.places_iff _ first).2 ⟨_, Array.getElem?_eq_getElem firstInside, rfl⟩
  have secondPlace := (holds.places_iff _ second).2 ⟨_, Array.getElem?_eq_getElem secondInside, rfl⟩
  simp only at equal
  rw [equal, secondPlace] at firstPlace
  exact Nat.ne_of_lt before (Option.some.inj firstPlace).symm

end Cartridge.PackedAssets
