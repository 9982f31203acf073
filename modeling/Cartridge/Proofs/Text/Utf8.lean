import Cartridge.Text.Encoded
import Cartridge.Text.Utf8

/-!
# Bytes that are UTF-8

Bytes are read as a text just if they are the bytes of that text. Any other bytes are shown with
replacements, and in one way only.

* `isContinuation_iff`, `isSecond_iff`, `widthOf_cases`: the bytes at each place of a character.
* `Spells`: the bytes of a character, by its number.
* `Spells.eq_utf8EncodeChar`: they are those that the encoding gives.
* `Spells.piece_eq`: a character is read from its bytes, whatever follows them.
* `spells_of_piece`: what is read as a character are its bytes.
* `decode_eq_ok_iff`: a text is read from its bytes, and from no others.
* `Shows`: how any bytes are shown, in terms of the bytes of characters alone.
* `lossy_eq_iff`: the text that is read from any bytes is how they are shown.
-/

namespace Cartridge.Utf8

/-! ### The bytes at each place -/

theorem isContinuation_iff (byte : UInt8) :
    isContinuation byte = true ↔ 128 ≤ byte.toNat ∧ byte.toNat < 192 := by
  have all : ∀ number < 256,
      isContinuation (UInt8.ofNat number) = true ↔ 128 ≤ number ∧ number < 192 := by
    decide +kernel
  have here := all byte.toNat byte.toNat_lt
  rwa [UInt8.ofNat_toNat] at here

theorem payload_eq (byte : UInt8) : payload byte = byte.toNat % 64 := by
  rw [payload, UInt8.toNat_and]
  exact Nat.and_two_pow_sub_one_eq_mod _ 6

/-- The second byte keeps a character from being longer than it has to be, from being a surrogate
and from being beyond the last one. -/
theorem isSecond_iff (first second : UInt8) :
    isSecond first second = true ↔ (128 ≤ second.toNat ∧ second.toNat < 192)
      ∧ (first.toNat = 0xE0 → 0xA0 ≤ second.toNat) ∧ (first.toNat = 0xED → second.toNat < 0xA0)
      ∧ (first.toNat = 0xF0 → 0x90 ≤ second.toNat) ∧ (first.toNat = 0xF4 → second.toNat < 0x90) := by
  unfold isSecond
  simp only [beq_iff_eq, ← UInt8.toNat_inj, UInt8.le_iff_toNat_le, UInt8.toNat_ofNat]
  split
  · simp only [Bool.and_eq_true, decide_eq_true_eq]
    omega
  · split
    · simp only [Bool.and_eq_true, decide_eq_true_eq]
      omega
    · split
      · simp only [Bool.and_eq_true, decide_eq_true_eq]
        omega
      · split
        · simp only [Bool.and_eq_true, decide_eq_true_eq]
          omega
        · rw [isContinuation_iff]
          omega

/-- The width of a character in the ranges of its first byte. -/
theorem widthOf_cases (first : UInt8) :
    widthOf first = 1 ∧ first.toNat < 0x80
      ∨ widthOf first = 0 ∧ (0x80 ≤ first.toNat ∧ first.toNat < 0xC2 ∨ 0xF5 ≤ first.toNat)
      ∨ widthOf first = 2 ∧ 0xC2 ≤ first.toNat ∧ first.toNat < 0xE0
      ∨ widthOf first = 3 ∧ 0xE0 ≤ first.toNat ∧ first.toNat < 0xF0
      ∨ widthOf first = 4 ∧ 0xF0 ≤ first.toNat ∧ first.toNat < 0xF5 := by
  unfold widthOf
  simp only [UInt8.lt_iff_toNat_lt, UInt8.toNat_ofNat]
  split
  · omega
  · split
    · omega
    · split
      · omega
      · split
        · omega
        · split <;> omega

/-! ### Characters -/

/-- The bytes of a character, by its number. -/
inductive Spells : Char → UInt8 → List UInt8 → Prop where
  | one {c : Char} {first : UInt8} : widthOf first = 1 → c.toNat = first.toNat →
    Spells c first []
  | two {c : Char} {first second : UInt8} : widthOf first = 2 → isSecond first second = true →
    c.toNat = (first.toNat - 0xC0) * 64 + payload second → Spells c first [second]
  | three {c : Char} {first second third : UInt8} : widthOf first = 3 →
    isSecond first second = true → isContinuation third = true →
    c.toNat = ((first.toNat - 0xE0) * 64 + payload second) * 64 + payload third →
      Spells c first [second, third]
  | four {c : Char} {first second third fourth : UInt8} : widthOf first = 4 →
    isSecond first second = true → isContinuation third = true → isContinuation fourth = true →
    c.toNat = (((first.toNat - 0xF0) * 64 + payload second) * 64 + payload third) * 64
      + payload fourth → Spells c first [second, third, fourth]

variable {c : Char} {first : UInt8} {more rest : List UInt8}

theorem toNat_ofNat {number : Nat}
    (valid : number < 0xD800 ∨ 0xDFFF < number ∧ number < 0x110000) :
    (Char.ofNat number).toNat = number := by
  rw [Char.ofNat, dif_pos valid]
  rfl

theorem ofNat_eq_of_toNat {number : Nat} (byte : UInt8) (same : number = byte.toNat) :
    UInt8.ofNat number = byte := by
  rw [same, UInt8.ofNat_toNat]

theorem Spells.eq_utf8EncodeChar (spells : Spells c first more) :
    String.utf8EncodeChar c = first :: more := by
  have width := widthOf_cases first
  have same : c.val.toNat = c.toNat := rfl
  unfold String.utf8EncodeChar
  dsimp only
  cases spells with
  | one one number =>
    rw [if_pos (by omega), ofNat_eq_of_toNat first (by omega)]
  | @two second two then2 number =>
    have bounds := (isSecond_iff first second).1 then2
    rw [payload_eq] at number
    rw [if_neg (by omega), if_pos (by omega), ofNat_eq_of_toNat first (by omega),
      ofNat_eq_of_toNat second (by omega)]
  | @three second third three then2 then3 number =>
    have bounds := (isSecond_iff first second).1 then2
    rw [payload_eq, payload_eq] at number
    rw [isContinuation_iff] at then3
    rw [if_neg (by omega), if_neg (by omega), if_pos (by omega),
      ofNat_eq_of_toNat first (by omega), ofNat_eq_of_toNat second (by omega),
      ofNat_eq_of_toNat third (by omega)]
  | @four second third fourth four then2 then3 then4 number =>
    have bounds := (isSecond_iff first second).1 then2
    rw [payload_eq, payload_eq, payload_eq] at number
    rw [isContinuation_iff] at then3 then4
    rw [if_neg (by omega), if_neg (by omega), if_neg (by omega),
      ofNat_eq_of_toNat first (by omega), ofNat_eq_of_toNat second (by omega),
      ofNat_eq_of_toNat third (by omega), ofNat_eq_of_toNat fourth (by omega)]

/-- Every character has its bytes. -/
theorem exists_spells (c : Char) : ∃ first more, Spells c first more := by
  have valid : c.toNat < 0xD800 ∨ 0xDFFF < c.toNat ∧ c.toNat < 0x110000 := c.valid
  have byte : ∀ number < 256, ∃ byte : UInt8, byte.toNat = number := by
    intro number small
    exact ⟨UInt8.ofNat number, by rw [UInt8.toNat_ofNat']; omega⟩
  by_cases one : c.toNat < 0x80
  · obtain ⟨first, is1⟩ := byte c.toNat (by omega)
    have width := widthOf_cases first
    exact ⟨first, [], .one (by omega) (by omega)⟩
  · obtain ⟨last, isLast⟩ := byte (c.toNat % 64 + 128) (by omega)
    have follows : isContinuation last = true := (isContinuation_iff last).2 (by omega)
    have lastPayload := payload_eq last
    by_cases two : c.toNat < 0x800
    · obtain ⟨first, is1⟩ := byte (c.toNat / 64 + 0xC0) (by omega)
      have width := widthOf_cases first
      exact ⟨first, [last], .two (by omega) ((isSecond_iff first last).2 (by omega)) (by omega)⟩
    · obtain ⟨next, isNext⟩ := byte (c.toNat / 64 % 64 + 128) (by omega)
      have nextPayload := payload_eq next
      by_cases three : c.toNat < 0x10000
      · obtain ⟨first, is1⟩ := byte (c.toNat / 4096 + 0xE0) (by omega)
        have width := widthOf_cases first
        exact ⟨first, [next, last], .three (by omega) ((isSecond_iff first next).2 (by omega))
          follows (by omega)⟩
      · obtain ⟨first, is1⟩ := byte (c.toNat / 262144 + 0xF0) (by omega)
        obtain ⟨second, is2⟩ := byte (c.toNat / 4096 % 64 + 128) (by omega)
        have width := widthOf_cases first
        have payload2 := payload_eq second
        exact ⟨first, [second, next, last], .four (by omega)
          ((isSecond_iff first second).2 (by omega)) ((isContinuation_iff next).2 (by omega))
          follows (by omega)⟩

/-- **A character is read from its bytes**, whatever follows them. -/
theorem Spells.piece_eq (spells : Spells c first more) (rest : List UInt8) :
    piece first (more ++ rest) = (.char c, more.length) := by
  cases spells with
  | one one number => simp [piece, one, ← number]
  | two two then2 number => simp [piece, two, then2, ← number]
  | three three then2 then3 number => simp [piece, three, then2, then3, ← number]
  | four four then2 then3 then4 number => simp [piece, four, then2, then3, then4, ← number]

/-- **What is read as a character are its bytes.** -/
theorem spells_of_piece {taken : Nat} (found : piece first rest = (.char c, taken)) :
    Spells c first (rest.take taken) := by
  have width := widthOf_cases first
  fun_cases piece first rest with
  | case1 _ _ one =>
    have spells : Spells (Char.ofNat first.toNat) first [] := .one one (toNat_ofNat (by omega))
    cases found.symm.trans (spells.piece_eq rest)
    exact spells
  | case5 _ second rest then2 notOne notZero two =>
    have then2 : isSecond first second = true := by simpa using then2
    have bounds := (isSecond_iff first second).1 then2
    have payload2 := payload_eq second
    have spells := Spells.two two then2 (toNat_ofNat (by omega))
    cases found.symm.trans (spells.piece_eq rest)
    exact spells
  | case8 _ second then2 third rest then3 notOne notZero notTwo three =>
    have then2 : isSecond first second = true := by simpa using then2
    have then3 : isContinuation third = true := by simpa using then3
    have bounds := (isSecond_iff first second).1 then2
    have payload2 := payload_eq second
    have payload3 := payload_eq third
    have spells := Spells.three three then2 then3 (toNat_ofNat (by omega))
    cases found.symm.trans (spells.piece_eq rest)
    exact spells
  | case11 _ second then2 third then3 fourth rest then4 notOne notZero notTwo notThree =>
    have four : widthOf first = 4 := by
      have notOne : widthOf first ≠ 1 := notOne
      have notZero : widthOf first ≠ 0 := notZero
      omega
    have then2 : isSecond first second = true := by simpa using then2
    have then3 : isContinuation third = true := by simpa using then3
    have then4 : isContinuation fourth = true := by simpa using then4
    have bounds := (isSecond_iff first second).1 then2
    have payload2 := payload_eq second
    have payload3 := payload_eq third
    have payload4 := payload_eq fourth
    have spells := Spells.four four then2 then3 then4 (toNat_ofNat (by omega))
    cases found.symm.trans (spells.piece_eq rest)
    exact spells
  -- nothing else is a character
  | _ => simp_all [piece]

/-! ### Texts -/

/-- The pieces before do not matter. -/
theorem piecesOnto_eq (before : List Piece) (bytes : List UInt8) :
    piecesOnto before bytes = before.reverse ++ pieces bytes := by
  induction bytes using (measure List.length).wf.induction generalizing before with
  | _ bytes ih =>
    cases bytes with
    | nil => simp [pieces, piecesOnto]
    | cons first rest =>
      have shorter : (rest.drop (piece first rest).2).length < (first :: rest).length := by
        rw [List.length_drop, List.length_cons]
        omega
      rw [pieces, piecesOnto, piecesOnto]
      dsimp only
      rw [ih _ shorter, ih _ shorter [_]]
      simp

theorem pieces_cons (first : UInt8) (rest : List UInt8) :
    pieces (first :: rest)
      = (piece first rest).1 :: pieces (rest.drop (piece first rest).2) := by
  rw [pieces, piecesOnto]
  exact piecesOnto_eq _ _

/-- **Bytes are cut into characters just if they are the bytes of these.** -/
theorem pieces_eq_map_iff {bytes : List UInt8} {chars : List Char} :
    pieces bytes = chars.map .char ↔ bytes = chars.flatMap String.utf8EncodeChar := by
  induction chars generalizing bytes with
  | nil =>
    cases bytes with
    | nil => simp [pieces, piecesOnto]
    | cons first rest => simp [pieces_cons]
  | cons c chars ih =>
    rw [List.map_cons, List.flatMap_cons]
    constructor
    · intro cut
      cases bytes with
      | nil =>
        rw [pieces, piecesOnto] at cut
        cases cut
      | cons first rest =>
        rw [pieces_cons] at cut
        obtain ⟨found, behind⟩ := List.cons.inj cut
        have spells : Spells c first (rest.take (piece first rest).2) :=
          spells_of_piece (Prod.ext found rfl)
        rw [spells.eq_utf8EncodeChar, ← ih.1 behind, List.cons_append, List.take_append_drop]
    · rintro rfl
      obtain ⟨first, more, spells⟩ := exists_spells c
      rw [spells.eq_utf8EncodeChar, List.cons_append, pieces_cons, spells.piece_eq,
        List.drop_left, ih.2 rfl]

theorem gather_eq_ok_iff {before text : String} {index : Nat} {found : List Piece} :
    gather before index found = .ok text
      ↔ ∃ chars, found = chars.map .char ∧ text = before ++ String.ofList chars := by
  induction found generalizing before index with
  | nil => simp [gather, eq_comm]
  | cons head found ih =>
    cases head with
    | char c =>
      rw [gather, ih]
      constructor
      · rintro ⟨chars, rfl, rfl⟩
        exact ⟨c :: chars, rfl, by rw [← String.toList_inj]; simp⟩
      · rintro ⟨chars, whole, rfl⟩
        cases chars with
        | nil => cases whole
        | cons first chars =>
          cases whole
          exact ⟨chars, rfl, by rw [← String.toList_inj]; simp⟩
    | invalid width =>
      constructor
      · intro gathered
        cases gathered
      · rintro ⟨_ | _, whole, -⟩ <;> cases whole
    | incomplete =>
      constructor
      · intro gathered
        cases gathered
      · rintro ⟨_ | _, whole, -⟩ <;> cases whole

theorem encoded_eq_flatMap (text : String) :
    encoded text = text.toList.flatMap String.utf8EncodeChar := by
  rw [encoded, String.toUTF8_eq_toByteArray, ← String.utf8Encode_toList, List.utf8Encode,
    List.data_toByteArray]

/-- **A text is read from its bytes, and from no others.** -/
theorem decode_eq_ok_iff {bytes : List UInt8} {text : String} :
    decode bytes = .ok text ↔ bytes = encoded text := by
  rw [decode, gather_eq_ok_iff, encoded_eq_flatMap, ← pieces_eq_map_iff]
  constructor
  · rintro ⟨chars, cut, rfl⟩
    simpa using cut
  · intro cut
    exact ⟨text.toList, cut, by simp⟩

/-! ### Replacements -/

/-- The bytes are the first ones of a character. -/
def IsBegun (bytes : List UInt8) : Prop := bytes ≠ [] ∧ ∃ c, bytes <+: String.utf8EncodeChar c

/-- **What stands before the rest is no character**: none stands there, and this is as long as it
could still have become one. It is one byte at least. -/
structure IsWrong (wrong rest : List UInt8) : Prop where
  none : ∀ c, ¬ String.utf8EncodeChar c <+: wrong ++ rest
  begun : IsBegun wrong ∨ wrong.length = 1
  longest : ∀ longer, IsBegun longer → longer <+: wrong ++ rest → longer.length ≤ wrong.length

/-- **How any bytes are shown**: each character as it is, and what is no character as U+FFFD. -/
inductive Shows : List UInt8 → List Char → Prop where
  | nil : Shows [] []
  | char {rest : List UInt8} {chars : List Char} (c : Char) (later : Shows rest chars) :
    Shows (String.utf8EncodeChar c ++ rest) (c :: chars)
  | replaced {wrong rest : List UInt8} {chars : List Char} (wrong_here : IsWrong wrong rest)
    (later : Shows rest chars) : Shows (wrong ++ rest) ('\uFFFD' :: chars)

/-- The bytes can follow a first one. -/
structure Follows (first : UInt8) (more : List UInt8) : Prop where
  second : ∀ second, more.head? = some second → isSecond first second = true
  later : ∀ byte ∈ more.tail, isContinuation byte = true

theorem Follows.of_prefix {longer : List UInt8} (follows : Follows first longer)
    (isPrefix : more <+: longer) : Follows first more := by
  obtain ⟨rest, rfl⟩ := isPrefix
  cases more with
  | nil => exact ⟨nofun, nofun⟩
  | cons second more =>
    exact ⟨follows.second, fun byte member => follows.later byte (List.mem_append_left _ member)⟩

theorem Spells.follows (spells : Spells c first more) :
    Follows first more ∧ more.length + 1 = widthOf first := by
  cases spells with
  | one one number => exact ⟨⟨nofun, nofun⟩, one.symm⟩
  | two two then2 number => exact ⟨⟨by simpa using then2, nofun⟩, two.symm⟩
  | three three then2 then3 number =>
    exact ⟨⟨by simpa using then2, by simpa using then3⟩, three.symm⟩
  | four four then2 then3 then4 number =>
    exact ⟨⟨by simpa using then2, by simpa using ⟨then3, then4⟩⟩, four.symm⟩

/-- As many bytes as a first one asks for are those of a character. -/
theorem exists_spells_of_follows (follows : Follows first more)
    (whole : more.length + 1 = widthOf first) : ∃ c, Spells c first more := by
  have few := widthOf_cases first
  have found : ∃ c, piece first more = (.char c, more.length) := by
    obtain ⟨second, later⟩ := follows
    rcases more with _ | ⟨second, _ | ⟨third, _ | ⟨fourth, _ | ⟨fifth, more⟩⟩⟩⟩
    · simp [piece, ← whole]
    · simp_all [piece, ← whole]
    · simp_all [piece, ← whole]
    · simp_all [piece, ← whole]
    · simp only [List.length_cons] at whole
      omega
  obtain ⟨c, found⟩ := found
  exact ⟨c, by simpa using spells_of_piece found⟩

/-- Behind some bytes of a character another one can follow. -/
theorem Follows.exists_next (follows : Follows first more)
    (short : more.length + 1 < widthOf first) : ∃ byte, Follows first (more ++ [byte]) := by
  cases more with
  | nil =>
    have width := widthOf_cases first
    have second : ∃ second, isSecond first second = true := by
      have values : (0xA0 : UInt8).toNat = 0xA0 ∧ (0x90 : UInt8).toNat = 0x90
        ∧ (0x80 : UInt8).toNat = 0x80 := ⟨rfl, rfl, rfl⟩
      simp only [isSecond_iff]
      by_cases least : first.toNat = 0xE0
      · exact ⟨0xA0, by decide, by omega, by omega, by omega, by omega⟩
      · by_cases four : first.toNat = 0xF0
        · exact ⟨0x90, by decide, by omega, by omega, by omega, by omega⟩
        · exact ⟨0x80, by decide, by omega, by omega, by omega, by omega⟩
    obtain ⟨second, follows⟩ := second
    exact ⟨second, by rintro _ ⟨⟩; exact follows, nofun⟩
  | cons second more =>
    refine ⟨0x80, ⟨follows.second, ?_⟩⟩
    intro byte member
    rcases List.mem_append.1 member with before | last
    · exact follows.later byte before
    · rw [List.mem_singleton.1 last]
      decide

/-- **The first bytes of characters.** -/
theorem isBegun_cons_iff :
    IsBegun (first :: more) ↔ Follows first more ∧ more.length < widthOf first := by
  constructor
  · rintro ⟨-, c, isPrefix⟩
    obtain ⟨head, tail, spells⟩ := exists_spells c
    rw [spells.eq_utf8EncodeChar, List.cons_prefix_cons] at isPrefix
    obtain ⟨rfl, isPrefix⟩ := isPrefix
    obtain ⟨follows, whole⟩ := spells.follows
    have short := isPrefix.length_le
    exact ⟨follows.of_prefix isPrefix, by omega⟩
  · rintro ⟨follows, short⟩
    -- the induction is on the number of bytes that are missing
    induction missing : widthOf first - more.length generalizing more with
    | zero => omega
    | succ missing ih =>
      by_cases whole : more.length + 1 = widthOf first
      · obtain ⟨c, spells⟩ := exists_spells_of_follows follows whole
        exact ⟨List.cons_ne_nil _ _, c, spells.eq_utf8EncodeChar ▸ List.prefix_refl _⟩
      · obtain ⟨byte, longer⟩ := follows.exists_next (by omega)
        have length : (more ++ [byte]).length = more.length + 1 := List.length_append
        obtain ⟨_, c, isPrefix⟩ := ih longer (by omega) (by omega)
        refine ⟨List.cons_ne_nil _ _, c, List.IsPrefix.trans ?_ isPrefix⟩
        exact List.cons_prefix_cons.2 ⟨rfl, List.prefix_append _ _⟩

/-- Where a byte that cannot follow comes next, no more bytes follow. -/
theorem Follows.length_le {next : UInt8} {before behind : List UInt8}
    (follows : Follows first more) (isPrefix : more <+: before ++ next :: behind)
    (stops : ¬ Follows first (before ++ [next])) : more.length ≤ before.length := by
  refine Nat.le_of_not_lt fun longer => ?_
  have one : before ++ [next] <+: before ++ next :: behind :=
    List.prefix_append_right_inj before |>.2 (List.cons_prefix_cons.2 ⟨rfl, List.nil_prefix⟩)
  refine stops (follows.of_prefix (List.prefix_of_prefix_length_le one isPrefix ?_))
  rw [List.length_append, List.length_singleton]
  omega

theorem follows_cons_iff {second : UInt8} : Follows first (second :: more)
    ↔ isSecond first second = true ∧ ∀ byte ∈ more, isContinuation byte = true :=
  ⟨fun follows => ⟨follows.second second rfl, follows.later⟩,
    fun ⟨second, later⟩ => ⟨by rintro _ ⟨⟩; exact second, later⟩⟩

/-- **Where reading stops without a character**: no character starts with the first byte, or the
bytes that have been taken follow it, but not enough of them, and the next one does not. -/
theorem stops_of_piece {found : Piece} {taken : Nat} (read : piece first rest = (found, taken))
    (wrong : ∀ c, found ≠ .char c) :
    widthOf first = 0 ∧ taken = 0
      ∨ Follows first (rest.take taken) ∧ (rest.take taken).length < widthOf first
        ∧ ∀ next behind, rest.drop taken = next :: behind →
          ¬ Follows first (rest.take taken ++ [next]) := by
  have width := widthOf_cases first
  have nothing : Follows first [] := ⟨nofun, nofun⟩
  have single : ∀ {second : UInt8}, ¬ (!isSecond first second) = true → Follows first [second] :=
    fun good => follows_cons_iff.2 ⟨by simpa using good, nofun⟩
  have double : ∀ {second third : UInt8}, ¬ (!isSecond first second) = true →
      ¬ (!isContinuation third) = true → Follows first [second, third] :=
    fun good also => follows_cons_iff.2 ⟨by simpa using good, by simpa using also⟩
  fun_cases piece first rest with
  | case2 _ zero =>
    obtain ⟨_, rfl⟩ : found = .invalid 1 ∧ taken = 0 := by simp_all [piece]
    exact .inl ⟨zero, rfl⟩
  | case3 notOne notZero =>
    obtain ⟨_, rfl⟩ : found = .incomplete ∧ taken = 0 := by simp_all [piece]
    exact .inr ⟨nothing, Nat.pos_of_ne_zero notZero, nofun⟩
  | case4 second rest not2 notOne notZero =>
    obtain ⟨_, rfl⟩ : found = .invalid 1 ∧ taken = 0 := by simp_all [piece]
    refine .inr ⟨nothing, Nat.pos_of_ne_zero notZero, ?_⟩
    rintro _ _ ⟨⟩ follows
    have then2 := (follows_cons_iff.1 follows).1
    simp [then2] at not2
  | case6 second then2 notOne notZero notTwo =>
    obtain ⟨_, rfl⟩ : found = .incomplete ∧ taken = 1 := by simp_all [piece]
    have wide : 1 < widthOf first := Nat.one_lt_iff_ne_zero_and_ne_one.2 ⟨notZero, notOne⟩
    exact .inr ⟨single then2, wide, nofun⟩
  | case7 second then2 third rest not3 notOne notZero notTwo =>
    obtain ⟨_, rfl⟩ : found = .invalid 2 ∧ taken = 1 := by simp_all [piece]
    have wide : 1 < widthOf first := Nat.one_lt_iff_ne_zero_and_ne_one.2 ⟨notZero, notOne⟩
    refine .inr ⟨single then2, wide, ?_⟩
    rintro _ _ ⟨⟩ follows
    have then3 := (follows_cons_iff.1 follows).2 third (by simp)
    simp [then3] at not3
  | case9 second then2 third then3 notOne notZero notTwo notThree =>
    obtain ⟨_, rfl⟩ : found = .incomplete ∧ taken = 2 := by simp_all [piece]
    have wide : 1 < widthOf first := Nat.one_lt_iff_ne_zero_and_ne_one.2 ⟨notZero, notOne⟩
    exact .inr ⟨double then2 then3, by simp; omega, nofun⟩
  | case10 second then2 third then3 fourth rest not4 notOne notZero notTwo notThree =>
    obtain ⟨_, rfl⟩ : found = .invalid 3 ∧ taken = 2 := by simp_all [piece]
    have wide : 1 < widthOf first := Nat.one_lt_iff_ne_zero_and_ne_one.2 ⟨notZero, notOne⟩
    refine .inr ⟨double then2 then3, by simp; omega, ?_⟩
    rintro _ _ ⟨⟩ follows
    have then4 := (follows_cons_iff.1 follows).2 fourth (by simp)
    simp [then4] at not4
  -- elsewhere there is a character
  | _ =>
    simp_all [piece]
    exact (wrong _ read.1.symm).elim

/-- What is read as no character is none. -/
theorem isWrong_of_piece {found : Piece} {taken : Nat} (read : piece first rest = (found, taken))
    (wrong : ∀ c, found ≠ .char c) : IsWrong (first :: rest.take taken) (rest.drop taken) := by
  have whole : first :: rest.take taken ++ rest.drop taken = first :: rest := by
    rw [List.cons_append, List.take_append_drop]
  have noChar : ∀ c, ¬ String.utf8EncodeChar c <+: first :: rest := by
    rintro c ⟨behind, same⟩
    obtain ⟨head, tail, spells⟩ := exists_spells c
    rw [spells.eq_utf8EncodeChar, List.cons_append] at same
    cases same
    cases read.symm.trans (spells.piece_eq behind)
    exact wrong c rfl
  have stops := stops_of_piece read wrong
  refine ⟨by rwa [whole], ?_, fun longer isBegun isPrefix => ?_⟩
  · rcases stops with ⟨_, rfl⟩ | ⟨follows, short, _⟩
    · exact .inr rfl
    · exact .inl (isBegun_cons_iff.2 ⟨follows, short⟩)
  · obtain ⟨head, more, rfl⟩ := List.exists_cons_of_ne_nil isBegun.1
    rw [List.cons_append] at isPrefix
    obtain ⟨rfl, behind⟩ := List.cons_prefix_cons.1 isPrefix
    obtain ⟨follows, short⟩ := isBegun_cons_iff.1 isBegun
    refine Nat.succ_le_succ ?_
    rcases stops with ⟨zero, _⟩ | ⟨_, _, next⟩
    · omega
    · cases left : rest.drop taken with
      | nil =>
        rw [left, List.append_nil] at behind
        exact behind.length_le
      | cons byte others =>
        rw [left] at behind
        exact follows.length_le behind (next byte others left)

/-- The bytes of characters are none of a longer one. -/
theorem utf8EncodeChar_prefix_inj {c other : Char} {bytes : List UInt8}
    (here : String.utf8EncodeChar c <+: bytes) (also : String.utf8EncodeChar other <+: bytes) :
    c = other := by
  obtain ⟨first, more, spells⟩ := exists_spells c
  obtain ⟨head, tail, others⟩ := exists_spells other
  obtain ⟨rest, rfl⟩ := here
  obtain ⟨behind, same⟩ := also
  rw [spells.eq_utf8EncodeChar, others.eq_utf8EncodeChar, List.cons_append, List.cons_append] at same
  obtain ⟨rfl, tails⟩ := List.cons.inj same
  have read := spells.piece_eq rest
  rw [← tails, others.piece_eq behind] at read
  exact (Piece.char.inj (Prod.mk.inj read).1).symm

theorem lossy_nil : lossy [] = "" := by
  simp [lossy, pieces, piecesOnto]

theorem toList_lossy_cons (first : UInt8) (rest : List UInt8) :
    (lossy (first :: rest)).toList
      = (piece first rest).1.shown :: (lossy (rest.drop (piece first rest).2)).toList := by
  simp [lossy, pieces_cons]

/-- **Any bytes are shown as the text that is read from them.** -/
theorem shows_lossy (bytes : List UInt8) : Shows bytes (lossy bytes).toList := by
  induction bytes using (measure List.length).wf.induction with
  | _ bytes ih =>
    cases bytes with
    | nil =>
      rw [lossy_nil]
      exact .nil
    | cons first rest =>
      have shorter : (rest.drop (piece first rest).2).length < (first :: rest).length := by
        rw [List.length_drop, List.length_cons]
        omega
      have later := ih _ shorter
      rw [toList_lossy_cons]
      cases read : piece first rest with
      | mk found taken =>
        rw [read] at later
        have whole : first :: rest = (first :: rest.take taken) ++ rest.drop taken := by
          rw [List.cons_append, List.take_append_drop]
        rw [whole]
        cases found with
        | char c =>
          rw [← (spells_of_piece read).eq_utf8EncodeChar]
          exact .char c later
        | invalid width => exact .replaced (isWrong_of_piece read nofun) later
        | incomplete => exact .replaced (isWrong_of_piece read nofun) later

theorem IsWrong.length_pos {wrong rest : List UInt8} (here : IsWrong wrong rest) :
    0 < wrong.length := by
  rcases here.begun with begun | one
  · exact List.length_pos_iff.2 begun.1
  · omega

theorem IsWrong.length_le {wrong other rest behind : List UInt8} (here : IsWrong wrong rest)
    (also : IsWrong other behind) (same : wrong ++ rest = other ++ behind) :
    wrong.length ≤ other.length := by
  rcases here.begun with begun | one
  · exact also.longest wrong begun (same ▸ List.prefix_append _ _)
  · exact one ▸ also.length_pos

/-- What is no character is told from the bytes behind it. -/
theorem IsWrong.eq {wrong other rest behind : List UInt8} (here : IsWrong wrong rest)
    (also : IsWrong other behind) (same : wrong ++ rest = other ++ behind) :
    wrong = other ∧ rest = behind :=
  List.append_inj same
    (Nat.le_antisymm (here.length_le also same) (also.length_le here same.symm))

theorem utf8EncodeChar_ne_nil (c : Char) : String.utf8EncodeChar c ≠ [] := by
  obtain ⟨first, more, spells⟩ := exists_spells c
  rw [spells.eq_utf8EncodeChar]
  exact List.cons_ne_nil _ _

/-- How bytes that begin with a character are shown. -/
theorem Shows.of_char {c : Char} {bytes : List UInt8} {chars : List Char}
    (shown : Shows (String.utf8EncodeChar c ++ bytes) chars) :
    ∃ later, chars = c :: later ∧ Shows bytes later := by
  generalize whole : String.utf8EncodeChar c ++ bytes = all at shown
  cases shown with
  | nil => exact absurd (List.append_eq_nil_iff.1 whole).1 (utf8EncodeChar_ne_nil c)
  | char other later =>
    obtain rfl := utf8EncodeChar_prefix_inj (whole ▸ List.prefix_append _ _)
      (List.prefix_append (String.utf8EncodeChar other) _)
    rw [List.append_cancel_left whole]
    exact ⟨_, rfl, later⟩
  | replaced wrong_here later => exact absurd (whole ▸ List.prefix_append _ _) (wrong_here.none c)

/-- How bytes that begin with what is no character are shown. -/
theorem Shows.of_wrong {wrong rest : List UInt8} {chars : List Char} (here : IsWrong wrong rest)
    (shown : Shows (wrong ++ rest) chars) :
    ∃ later, chars = '\uFFFD' :: later ∧ Shows rest later := by
  generalize whole : wrong ++ rest = all at shown
  cases shown with
  | nil =>
    rw [(List.append_eq_nil_iff.1 whole).1] at here
    exact absurd here.length_pos (Nat.lt_irrefl 0)
  | char other later => exact absurd (whole ▸ List.prefix_append _ _) (here.none other)
  | replaced also later =>
    obtain ⟨_, rfl⟩ := here.eq also whole
    exact ⟨_, rfl, later⟩

/-- **Any bytes are shown in one way only.** -/
theorem Shows.eq {bytes : List UInt8} {chars others : List Char} (shown : Shows bytes chars)
    (also : Shows bytes others) : chars = others := by
  induction shown generalizing others with
  | nil =>
    generalize none : ([] : List UInt8) = bytes at also
    cases also with
    | nil => rfl
    | char c later => exact absurd (List.append_eq_nil_iff.1 none.symm).1 (utf8EncodeChar_ne_nil c)
    | replaced here later =>
      rw [(List.append_eq_nil_iff.1 none.symm).1] at here
      exact absurd here.length_pos (Nat.lt_irrefl 0)
  | char c later ih =>
    obtain ⟨behind, rfl, more⟩ := also.of_char
    rw [ih more]
  | replaced here later ih =>
    obtain ⟨behind, rfl, more⟩ := also.of_wrong here
    rw [ih more]

/-- **The text that is read from any bytes** is how they are shown. -/
theorem lossy_eq_iff {bytes : List UInt8} {text : String} :
    lossy bytes = text ↔ Shows bytes text.toList := by
  constructor
  · rintro rfl
    exact shows_lossy bytes
  · intro shown
    exact String.toList_inj.1 ((shows_lossy bytes).eq shown)

end Cartridge.Utf8
