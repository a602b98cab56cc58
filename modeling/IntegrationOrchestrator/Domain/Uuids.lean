import IntegrationOrchestrator.Domain.ValueObjects
import IntegrationOrchestrator.Foundation.JsonValues

/-! `uuid.UUID(text)`: how the text of an identifier is read. -/

namespace IntegrationOrchestrator

/-- Reads hexadecimal digits behind a number that was already read. A single
underscore may stand between two digits; `digit` says whether one may follow. -/
def readHex (read : Nat) (digit : Bool) : List Char → Option Nat
  | [] => if digit then some read else none
  | c :: rest =>
    if c = '_' then if digit then readHex read false rest else none
    else (JsonText.hexDigit c.toNat).bind fun value => readHex (read * 16 + value) true rest

/-- The blanks `int` skips around a number. -/
def isIntBlank (c : Char) : Bool := (0x09 ≤ c.toNat && c.toNat ≤ 0x0d) || c = ' '

def trim (test : Char → Bool) (text : List Char) : List Char := (text.dropWhile test).rdropWhile test

/-- The digits behind `0x`, if that is how the text begins. -/
def withoutMark : List Char → List Char
  | '0' :: x :: '_' :: rest => if x = 'x' ∨ x = 'X' then rest else '0' :: x :: '_' :: rest
  | '0' :: x :: rest => if x = 'x' ∨ x = 'X' then rest else '0' :: x :: rest
  | text => text

/-- `int(text, 16)` of a text without a minus. -/
def intBase16 (text : List Char) : Option Nat :=
  let text := trim isIntBlank text
  readHex 0 false (withoutMark (if text.head? = some '+' then text.tail else text))

/-- `text.replace(pattern, "")`; `skip` more characters belong to an occurrence. -/
def removeAll (pattern : List Char) : Nat → List Char → List Char
  | _, [] => []
  | skip + 1, _ :: rest => removeAll pattern skip rest
  | 0, c :: rest =>
    if pattern.isPrefixOf (c :: rest) then removeAll pattern (pattern.length - 1) rest
    else c :: removeAll pattern 0 rest

def isBrace (c : Char) : Bool := c = '\x7b' || c = '\x7d'

/-- The digits of an identifier without its decorations. -/
def uuidDigits (text : List Char) : List Char :=
  (trim isBrace (removeAll "uuid:".toList 0 (removeAll "urn:".toList 0 text))).filter (· ≠ '-')

/-- An identifier has 128 bits. -/
abbrev BoundedUUID := { id : UUID // id < 2 ^ 128 }

def uuidOfText (text : List Char) : Option BoundedUUID :=
  if (uuidDigits text).length = 32 then
    (intBase16 (uuidDigits text)).bind fun id => if bounded : id < 2 ^ 128 then some ⟨id, bounded⟩ else none
  else none

/-! ### What `str(uuid)` writes is read back -/

/-- A digit as Python writes it. -/
def IsHexChar (c : Char) : Prop := ∃ n < 16, c = Nat.digitChar n

def hexValue (c : Char) : Nat := (JsonText.hexDigit c.toNat).getD 0

theorem hexValue_digitChar {n : Nat} (small : n < 16) : hexValue (Nat.digitChar n) = n := by
  have all : ∀ n < 16, hexValue (Nat.digitChar n) = n := by decide +kernel
  exact all n small

theorem IsHexChar.read {c : Char} (digit : IsHexChar c) :
    c ≠ '_' ∧ JsonText.hexDigit c.toNat = some (hexValue c) := by
  have all : ∀ n < 16, Nat.digitChar n ≠ '_' ∧
      JsonText.hexDigit (Nat.digitChar n).toNat = some (hexValue (Nat.digitChar n)) := by decide +kernel
  obtain ⟨n, small, rfl⟩ := digit
  exact all n small

theorem readHex_digits {text : List Char} (digits : ∀ c ∈ text, IsHexChar c) (read : Nat) :
    readHex read true text = some (text.foldl (fun read c => read * 16 + hexValue c) read) := by
  induction text generalizing read with
  | nil => rfl
  | cons c rest ih =>
    obtain ⟨plain, value⟩ := (digits c (List.mem_cons_self ..)).read
    rw [readHex, if_neg plain, value, Option.bind_some,
      ih fun other member => digits other (List.mem_cons_of_mem _ member)]
    rfl

theorem isHexChar_of_mem_toDigits (n : Nat) : ∀ c ∈ Nat.toDigits 16 n, IsHexChar c := by
  induction n using Nat.strongRecOn with
  | ind n ih =>
    intro c member
    rw [Nat.toDigits_eq_if (by decide)] at member
    split at member
    · rename_i small
      obtain rfl := List.mem_singleton.mp member
      exact ⟨n, small, rfl⟩
    · rcases List.mem_append.mp member with before | last
      · exact ih (n / 16) (by omega) c before
      · obtain rfl := List.mem_singleton.mp last
        exact ⟨n % 16, Nat.mod_lt n (by decide), rfl⟩

theorem foldl_toDigits (n : Nat) : (Nat.toDigits 16 n).foldl (fun read c => read * 16 + hexValue c) 0 = n := by
  induction n using Nat.strongRecOn with
  | ind n ih =>
    rw [Nat.toDigits_eq_if (by decide)]
    split
    · rename_i small
      simp [hexValue_digitChar small]
    · rw [List.foldl_append, ih (n / 16) (by omega)]
      simp only [List.foldl_cons, List.foldl_nil, hexValue_digitChar (Nat.mod_lt n (by decide : 0 < 16))]
      omega

/-- The digits of an identifier are those of the number, behind zeros. -/
theorem hex_eq {id : UUID} (bounded : id < 2 ^ 128) :
    hex id = List.replicate (32 - (Nat.toDigits 16 id).length) '0' ++ Nat.toDigits 16 id := by
  have short : (Nat.toDigits 16 id).length ≤ 32 :=
    (Nat.length_toDigits_le_iff (by decide) (by decide)).mpr (bounded.trans_eq (by decide))
  have split : List.replicate 32 '0' ++ Nat.toDigits 16 id = List.replicate (Nat.toDigits 16 id).length '0' ++
      (List.replicate (32 - (Nat.toDigits 16 id).length) '0' ++ Nat.toDigits 16 id) := by
    rw [← List.append_assoc, ← List.replicate_add, Nat.add_sub_cancel' short]
  rw [hex, split, List.reverse_append, List.take_append_of_le_length (by simp [short]),
    List.take_of_length_le (by simp [short]), List.reverse_reverse]

theorem isHexChar_of_mem_hex {id : UUID} (bounded : id < 2 ^ 128) {c : Char} (member : c ∈ hex id) :
    IsHexChar c := by
  rw [hex_eq bounded] at member
  rcases List.mem_append.mp member with zero | digit
  · exact ⟨0, by decide, List.eq_of_mem_replicate zero⟩
  · exact isHexChar_of_mem_toDigits id c digit

theorem foldl_hex {id : UUID} (bounded : id < 2 ^ 128) :
    (hex id).foldl (fun read c => read * 16 + hexValue c) 0 = id := by
  have zeros : ∀ n, (List.replicate n '0').foldl (fun read c => read * 16 + hexValue c) 0 = 0 := by
    intro n
    induction n with
    | zero => rfl
    | succ n ih => exact ih
  rw [hex_eq bounded, List.foldl_append, zeros, foldl_toDigits]

/-- No digit is a character that is dropped or read in another way. -/
theorem IsHexChar.plain {c : Char} (digit : IsHexChar c) :
    c ≠ '-' ∧ c ≠ 'u' ∧ isBrace c = false ∧ isIntBlank c = false ∧ c ≠ '+' ∧ c ≠ 'x' ∧ c ≠ 'X' := by
  have all : ∀ n < 16, Nat.digitChar n ≠ '-' ∧ Nat.digitChar n ≠ 'u' ∧ isBrace (Nat.digitChar n) = false ∧
      isIntBlank (Nat.digitChar n) = false ∧ Nat.digitChar n ≠ '+' ∧ Nat.digitChar n ≠ 'x' ∧
      Nat.digitChar n ≠ 'X' := by decide +kernel
  obtain ⟨n, small, rfl⟩ := digit
  exact all n small

theorem trim_eq_self {test : Char → Bool} {text : List Char} (none : ∀ c ∈ text, test c = false) :
    trim test text = text := by
  have dropped : ∀ text : List Char, (∀ c ∈ text, test c = false) → text.dropWhile test = text := by
    intro text none
    cases text with
    | nil => rfl
    | cons c rest => exact List.dropWhile_cons_of_neg (by simp [none c (List.mem_cons_self ..)])
  have reversed := dropped text.reverse fun c member => none c (List.mem_reverse.mp member)
  rw [trim, dropped text none, List.rdropWhile, reversed, List.reverse_reverse]

theorem removeAll_eq_self {first : Char} {pattern text : List Char} (absent : first ∉ text) :
    removeAll (first :: pattern) 0 text = text := by
  induction text with
  | nil => rfl
  | cons c rest ih =>
    obtain ⟨other, later⟩ := not_or.mp (mt List.mem_cons.mpr absent)
    have differs : (first :: pattern).isPrefixOf (c :: rest) = false := by
      simp [List.isPrefixOf, other]
    rw [removeAll, differs, ih later]
    rfl

theorem withoutMark_eq_self {text : List Char} (plain : ∀ c ∈ text, c ≠ 'x' ∧ c ≠ 'X') : withoutMark text = text := by
  unfold withoutMark
  split
  · rename_i x rest
    rw [if_neg (not_or.mpr (plain x (by simp)))]
  · rename_i x rest _
    rw [if_neg (not_or.mpr (plain x (by simp)))]
  · rfl

theorem intBase16_hex {id : UUID} (bounded : id < 2 ^ 128) : intBase16 (hex id) = some id := by
  have plain : ∀ c ∈ hex id, _ := fun c member => (isHexChar_of_mem_hex bounded member).plain
  obtain ⟨first, rest, digits⟩ := List.exists_cons_of_length_pos (length_hex id ▸ (by decide : 0 < 32))
  have unsigned : (hex id).head? ≠ some '+' := by
    rw [digits]
    exact fun same => (plain first (digits ▸ List.mem_cons_self ..)).2.2.2.2.1 (Option.some.inj same)
  rw [intBase16, trim_eq_self fun c member => (plain c member).2.2.2.1]
  simp only [unsigned, if_false]
  rw [withoutMark_eq_self fun c member => (plain c member).2.2.2.2.2]
  -- the first digit is read alone, because an underscore must not come before it
  obtain ⟨digit, value⟩ := (isHexChar_of_mem_hex bounded (digits ▸ List.mem_cons_self .. : first ∈ hex id)).read
  have total := foldl_hex bounded
  rw [digits] at total ⊢
  rw [readHex, if_neg digit, value, Option.bind_some,
    readHex_digits fun c member => isHexChar_of_mem_hex bounded (digits ▸ List.mem_cons_of_mem _ member)]
  rw [List.foldl_cons] at total
  rw [total]

theorem mem_uuidText {id : UUID} {c : Char} (member : c ∈ (uuidText id).toList) : c = '-' ∨ c ∈ hex id := by
  simp only [uuidText, String.toList_ofList, List.mem_append, List.mem_cons] at member
  rcases member with (((part | rfl | part) | rfl | part) | rfl | part) | rfl | part
  · exact .inr (List.mem_of_mem_take part)
  · exact .inl rfl
  · exact .inr (List.mem_of_mem_drop (List.mem_of_mem_take part))
  · exact .inl rfl
  · exact .inr (List.mem_of_mem_drop (List.mem_of_mem_take part))
  · exact .inl rfl
  · exact .inr (List.mem_of_mem_drop (List.mem_of_mem_take part))
  · exact .inl rfl
  · exact .inr (List.mem_of_mem_drop part)

/-- Without the hyphens the digits are left. -/
theorem filter_uuidText {id : UUID} (bounded : id < 2 ^ 128) : (uuidText id).toList.filter (· ≠ '-') = hex id := by
  have all : (hex id).filter (· ≠ '-') = hex id :=
    List.filter_eq_self.mpr fun c member => by simpa using (isHexChar_of_mem_hex bounded member).plain.1
  have parts : hex id = (hex id).take 8 ++ (((hex id).drop 8).take 4 ++ (((hex id).drop 12).take 4 ++
      (((hex id).drop 16).take 4 ++ (hex id).drop 20))) := by
    have last := List.take_append_drop 4 ((hex id).drop 16)
    have third := List.take_append_drop 4 ((hex id).drop 12)
    have second := List.take_append_drop 4 ((hex id).drop 8)
    rw [List.drop_drop] at last third second
    rw [last, third, second, List.take_append_drop]
  have hyphen : decide ('-' ≠ '-') = false := by decide
  conv_rhs => rw [← all, parts]
  simp only [uuidText, String.toList_ofList, List.filter_append, List.filter_cons, hyphen, Bool.false_eq_true,
    if_false, List.append_assoc]

theorem uuidOfText_uuidText {id : UUID} (bounded : id < 2 ^ 128) :
    uuidOfText (uuidText id).toList = some ⟨id, bounded⟩ := by
  have plain : ∀ c ∈ (uuidText id).toList, c ≠ 'u' ∧ isBrace c = false := by
    intro c member
    rcases mem_uuidText member with rfl | digit
    · decide
    · have digit := (isHexChar_of_mem_hex bounded digit).plain
      exact ⟨digit.2.1, digit.2.2.1⟩
  have absent : 'u' ∉ (uuidText id).toList := fun member => (plain 'u' member).1 rfl
  have digits : uuidDigits (uuidText id).toList = hex id := by
    rw [uuidDigits, show "urn:".toList = 'u' :: "rn:".toList from rfl, removeAll_eq_self absent,
      show "uuid:".toList = 'u' :: "uid:".toList from rfl, removeAll_eq_self absent,
      trim_eq_self fun c member => (plain c member).2, filter_uuidText bounded]
  rw [uuidOfText, digits, if_pos (length_hex id), intBase16_hex bounded, Option.bind_some, dif_pos bounded]

end IntegrationOrchestrator
