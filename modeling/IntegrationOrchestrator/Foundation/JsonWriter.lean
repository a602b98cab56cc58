import IntegrationOrchestrator.Foundation.JsonValues

/-! Writing JSON texts of ASCII characters without blanks, and why a text is
that of one value only. -/

namespace JsonWriter

open JsonText

/-! ### Strings -/

/-- A UTF-16 code unit as an escape. -/
def unit (code : Nat) : List Char :=
  ['\\', 'u', (code / 4096 % 16).digitChar, (code / 256 % 16).digitChar, (code / 16 % 16).digitChar,
    (code % 16).digitChar]

def escaped (c : Char) : List Char :=
  if c = '"' then ['\\', '"']
  else if c = '\\' then ['\\', '\\']
  else if c = '\n' then ['\\', 'n']
  else if c = '\r' then ['\\', 'r']
  else if c = '\t' then ['\\', 't']
  else if c = '\x0c' then ['\\', 'f']
  else if c = '\x08' then ['\\', 'b']
  else if 0x20 ≤ c.toNat ∧ c.toNat ≤ 0x7e then [c]
  else if c.toNat < 0x10000 then unit c.toNat
  else unit (0xd800 + (c.toNat - 0x10000) / 0x400) ++ unit (0xdc00 + (c.toNat - 0x10000) % 0x400)

def quoted (text : List Char) : List Char := '"' :: (text.flatMap escaped ++ ['"'])

/-- What the reader makes of a character's escape. -/
def readBack (c : Char) : List (Bool × Nat) :=
  if c = '"' ∨ c = '\\' ∨ c = '\n' ∨ c = '\r' ∨ c = '\t' ∨ c = '\x0c' ∨ c = '\x08' ∨
      0x20 ≤ c.toNat ∧ c.toNat ≤ 0x7e then [(false, c.toNat)]
  else if c.toNat < 0x10000 then [(true, c.toNat)]
  else [(true, 0xd800 + (c.toNat - 0x10000) / 0x400), (true, 0xdc00 + (c.toNat - 0x10000) % 0x400)]

variable {text : List Nat}

theorem hexDigit_digitChar : ∀ n < 16, hexDigit n.digitChar.toNat = some n := by decide

theorem readUnits_unit {code : Nat} (small : code < 0x10000) :
    readUnits .outside (codes (unit code) ++ text) =
      (readUnits .outside text).map fun read => ((true, code) :: read.1, read.2) := by
  have digit : ∀ n, hexDigit (n % 16).digitChar.toNat = some (n % 16) := fun n => hexDigit_digitChar _ (by omega)
  have joined : (((0 * 16 + code / 4096 % 16) * 16 + code / 256 % 16) * 16 + code / 16 % 16) * 16 + code % 16 = code := by
    omega
  simp only [unit, codes, List.map_cons, List.map_nil, List.cons_append, List.nil_append, readUnits]
  rw [if_neg (by decide), if_pos trivial, if_pos trivial, digit, Option.bind_some, digit, Option.bind_some, digit,
    Option.bind_some, digit, Option.bind_some, joined]

/-- A character with an escape of one letter. -/
theorem readUnits_short {letter code : Nat} (known : escapeOf letter = some code) (plain : letter ≠ 'u'.toNat) :
    readUnits .outside ('\\'.toNat :: letter :: text) =
      (readUnits .outside text).map fun read => ((false, code) :: read.1, read.2) := by
  simp only [readUnits]
  rw [if_neg (by decide), if_pos trivial, if_neg plain, known]
  rfl

theorem toNat_valid (c : Char) : c.toNat < 0xd800 ∨ 0xdfff < c.toNat ∧ c.toNat < 0x110000 :=
  c.valid

theorem readUnits_escaped (c : Char) :
    readUnits .outside (codes (escaped c) ++ text) =
      (readUnits .outside text).map fun read => (readBack c ++ read.1, read.2) := by
  have valid := toNat_valid c
  unfold escaped readBack
  by_cases special : c = '"' ∨ c = '\\' ∨ c = '\n' ∨ c = '\r' ∨ c = '\t' ∨ c = '\x0c' ∨ c = '\x08'
  · rcases special with rfl | rfl | rfl | rfl | rfl | rfl | rfl <;> exact readUnits_short rfl (by decide)
  · simp only [not_or] at special
    obtain ⟨quote, slash, newline, feed, tab, form, back⟩ := special
    simp only [quote, slash, newline, feed, tab, form, back, if_false, false_or]
    by_cases plain : 0x20 ≤ c.toNat ∧ c.toNat ≤ 0x7e
    · have unquoted : c.toNat ≠ '"'.toNat := fun same => quote (Char.toNat_inj.mp same)
      have unslashed : c.toNat ≠ '\\'.toNat := fun same => slash (Char.toNat_inj.mp same)
      rw [if_pos plain, if_pos plain]
      simp only [codes, List.map_cons, List.map_nil, List.cons_append, List.nil_append, readUnits]
      rw [if_neg unquoted, if_neg unslashed, if_neg (by omega)]
    · rw [if_neg plain, if_neg plain]
      by_cases basic : c.toNat < 0x10000
      · rw [if_pos basic, if_pos basic]
        exact readUnits_unit basic
      · rw [if_neg basic, if_neg basic, codes, List.map_append, List.append_assoc, ← codes, ← codes,
          readUnits_unit (by omega), readUnits_unit (by omega), Option.map_map]
        rfl

theorem readUnits_text (text : List Char) (rest : List Nat) :
    readUnits .outside (codes (text.flatMap escaped) ++ '"'.toNat :: rest) = some (text.flatMap readBack, rest) := by
  induction text with
  | nil => rfl
  | cons c text ih =>
    rw [List.flatMap_cons, codes, List.map_append, List.append_assoc, ← codes, ← codes, readUnits_escaped, ih]
    rfl

/-- A unit that is no first half of a pair stands for itself. -/
theorem joinUnits_cons {marked : Bool} {code : Nat} (alone : marked = true → code < 0xd800 ∨ 0xdc00 ≤ code)
    (rest : List (Bool × Nat)) : joinUnits ((marked, code) :: rest) = code :: joinUnits rest := by
  cases marked with
  | false => simp [joinUnits]
  | true =>
    have single : ¬ (0xd800 ≤ code ∧ code < 0xdc00) := by
      have := alone rfl
      omega
    cases rest with
    | nil => rfl
    | cons next rest =>
      obtain ⟨marked, low⟩ := next
      cases marked with
      | false => simp [joinUnits]
      | true =>
        rw [joinUnits, if_neg (fun pair => single ⟨pair.1, pair.2.1⟩)]

/-- No half of a pair comes from a character of its own. -/
theorem joinUnits_readBack (text : List Char) : joinUnits (text.flatMap readBack) = codes text := by
  induction text with
  | nil => rfl
  | cons c text ih =>
    have valid := toNat_valid c
    rw [List.flatMap_cons, codes, List.map_cons, ← codes, ← ih]
    unfold readBack
    split
    · exact joinUnits_cons (fun marked => by cases marked) _
    · split
      · exact joinUnits_cons (fun _ => by omega) _
      · have joined : 0x10000 + (0xd800 + (c.toNat - 0x10000) / 0x400 - 0xd800) * 0x400 +
            (0xdc00 + (c.toNat - 0x10000) % 0x400 - 0xdc00) = c.toNat := by
          omega
        rw [List.cons_append, List.cons_append, List.nil_append, joinUnits, if_pos (by omega), joined]

theorem readString_escaped (text : List Char) (rest : List Nat) :
    readString (codes (text.flatMap escaped) ++ '"'.toNat :: rest) = some (codes text, rest) := by
  rw [readString, readUnits_text, Option.map_some, joinUnits_readBack]

theorem codes_injective : Function.Injective codes :=
  List.map_injective_iff.mpr fun _ _ same => Char.toNat_inj.mp same

/-- A quoted string can be cut off a text in one way. -/
theorem quoted_append_inj {a b r s : List Char} (same : quoted a ++ r = quoted b ++ s) : a = b ∧ r = s := by
  have cut : ∀ text rest : List Char, readString (codes (quoted text ++ rest)).tail = some (codes text, codes rest) := by
    intro text rest
    have read := readString_escaped text (codes rest)
    simpa [quoted, codes] using read
  have both := (cut a r).symm.trans ((congrArg (fun t => readString (codes t).tail) same).trans (cut b s))
  simp only [Option.some.injEq, Prod.mk.injEq] at both
  exact ⟨codes_injective both.1, codes_injective both.2⟩

/-! ### Values -/

/-- A character of a constant or a number. -/
def isLiteral (c : Char) : Bool := c.isAlphanum || c == '+' || c == '-' || c == '.'

/-- The text of a constant or a number. -/
structure Literal where
  text : List Char
  nonempty : text ≠ []
  literal : ∀ c ∈ text, isLiteral c = true

theorem Literal.ext {a b : Literal} (same : a.text = b.text) : a = b := by
  cases a
  cases b
  cases same
  rfl

/-- A value to be written. -/
inductive Doc where
  | atom (literal : Literal)
  | str (text : List Char)
  | arr (items : List Doc)
  | obj (fields : List (List Char × Doc))

/-- Induction with the hypothesis for every item and every field. -/
theorem Doc.induct {P : Doc → Prop} (atom : ∀ literal, P (.atom literal)) (str : ∀ text, P (.str text))
    (arr : ∀ items, (∀ item ∈ items, P item) → P (.arr items))
    (obj : ∀ fields, (∀ field ∈ fields, P field.2) → P (.obj fields)) (doc : Doc) : P doc :=
  @Doc.rec P (fun items => ∀ item ∈ items, P item) (fun fields => ∀ field ∈ fields, P field.2)
    (fun field => P field.2) atom str arr obj
    (fun _ none => absurd none List.not_mem_nil)
    (fun _ _ first rest => List.forall_mem_cons.mpr ⟨first, rest⟩)
    (fun _ none => absurd none List.not_mem_nil)
    (fun _ _ first rest => List.forall_mem_cons.mpr ⟨first, rest⟩)
    (fun _ _ value => value) doc

/-- Nothing stands before the first item. -/
def separator (first : Bool) : List Char := if first then [] else [',']

mutual

def Doc.write : Doc → List Char
  | .atom literal => literal.text
  | .str text => quoted text
  | .arr items => '[' :: writeItems true items
  | .obj fields => '\x7b' :: writeFields true fields

/-- The items that are left, and the closing bracket. -/
def writeItems (first : Bool) : List Doc → List Char
  | [] => [']']
  | item :: rest => separator first ++ (item.write ++ writeItems false rest)

/-- The fields that are left, and the closing brace. -/
def writeFields (first : Bool) : List (List Char × Doc) → List Char
  | [] => ['\x7d']
  | (key, value) :: rest => separator first ++ (quoted key ++ ':' :: (value.write ++ writeFields false rest))

end

/-- The character a text starts with, unless it starts with a literal. -/
def mark (text : List Char) : Option Char := text.head?.filter fun c => !isLiteral c

/-- What a value starts with. -/
def Doc.mark : Doc → Option Char
  | .atom _ => none
  | .str _ => some '"'
  | .arr _ => some '['
  | .obj _ => some '\x7b'

variable {r s : List Char}

theorem mark_write (a : Doc) (r : List Char) : JsonWriter.mark (a.write ++ r) = a.mark := by
  cases a with
  | atom literal =>
    obtain ⟨text, nonempty, chars⟩ := literal
    cases text with
    | nil => exact absurd rfl nonempty
    | cons c text => simp [JsonWriter.mark, Doc.write, Doc.mark, chars c (List.mem_cons_self ..)]
  | str text => rfl
  | arr items => rfl
  | obj fields => rfl

/-- Texts that do not go on with a literal. -/
def Stops (text : List Char) : Prop := ∀ c ∈ text.head?, isLiteral c = false

theorem literal_append_inj {x y : Literal} (stop : Stops r) (stop' : Stops s) (same : x.text ++ r = y.text ++ s) :
    x = y ∧ r = s := by
  have cut : ∀ (z : Literal) {rest : List Char}, Stops rest → (z.text ++ rest).takeWhile isLiteral = z.text := by
    intro z rest stops
    rw [List.takeWhile_append_of_pos z.literal]
    cases rest with
    | nil => simp
    | cons c rest => simp [stops c rfl]
  have texts : x.text = y.text := by
    rw [← cut x stop, same, cut y stop']
  refine ⟨Literal.ext texts, ?_⟩
  rw [texts] at same
  exact List.append_cancel_left same

theorem stops_writeItems (items : List Doc) : Stops (writeItems false items ++ r) := by
  cases items <;> simp [writeItems, separator, Stops, isLiteral]

theorem stops_writeFields (fields : List (List Char × Doc)) : Stops (writeFields false fields ++ r) := by
  cases fields <;> simp [writeFields, separator, Stops, isLiteral]

theorem writeItems_ne_close {first : Bool} {item : Doc} {items : List Doc} :
    writeItems first (item :: items) ++ s ≠ ']' :: r := by
  intro same
  cases first with
  | false => cases same
  | true =>
    have marks : item.mark = some ']' := by
      rw [← mark_write item (writeItems false items ++ s), ← List.append_assoc]
      exact congrArg JsonWriter.mark same
    cases item <;> cases marks

theorem writeFields_ne_close {first : Bool} {field : List Char × Doc} {fields : List (List Char × Doc)} :
    writeFields first (field :: fields) ++ s ≠ '\x7d' :: r := by
  intro same
  cases first <;> cases same

/-- The value can be cut off a text that does not go on with a literal in one
way. -/
def Doc.Cuts (a : Doc) : Prop :=
  ∀ b r s, Stops r → Stops s → a.write ++ r = b.write ++ s → a = b ∧ r = s

theorem writeItems_append_inj {items items' : List Doc} {first : Bool} (cuts : ∀ item ∈ items, item.Cuts)
    (same : writeItems first items ++ r = writeItems first items' ++ s) : items = items' ∧ r = s := by
  induction items generalizing items' first with
  | nil =>
    cases items' with
    | nil => exact ⟨rfl, (List.cons.inj same).2⟩
    | cons item' items' => exact absurd same.symm writeItems_ne_close
  | cons item items ih =>
    cases items' with
    | nil => exact absurd same writeItems_ne_close
    | cons item' items' =>
      simp only [writeItems, List.append_assoc, List.append_cancel_left_eq] at same
      obtain ⟨rfl, rest⟩ := cuts item (List.mem_cons_self ..) item' _ _ (stops_writeItems items)
        (stops_writeItems items') same
      obtain ⟨rfl, rfl⟩ := ih (fun other member => cuts other (List.mem_cons_of_mem _ member)) rest
      exact ⟨rfl, rfl⟩

theorem writeFields_append_inj {fields fields' : List (List Char × Doc)} {first : Bool}
    (cuts : ∀ field ∈ fields, field.2.Cuts) (same : writeFields first fields ++ r = writeFields first fields' ++ s) :
    fields = fields' ∧ r = s := by
  induction fields generalizing fields' first with
  | nil =>
    cases fields' with
    | nil => exact ⟨rfl, (List.cons.inj same).2⟩
    | cons field' fields' => exact absurd same.symm writeFields_ne_close
  | cons field fields ih =>
    cases fields' with
    | nil => exact absurd same writeFields_ne_close
    | cons field' fields' =>
      obtain ⟨key, value⟩ := field
      obtain ⟨key', value'⟩ := field'
      simp only [writeFields, List.append_assoc, List.cons_append, List.append_cancel_left_eq] at same
      obtain ⟨rfl, behind⟩ := quoted_append_inj same
      obtain ⟨rfl, rest⟩ := cuts (key, value) (List.mem_cons_self ..) value' _ _ (stops_writeFields fields)
        (stops_writeFields fields') (List.cons.inj behind).2
      obtain ⟨rfl, rfl⟩ := ih (fun other member => cuts other (List.mem_cons_of_mem _ member)) rest
      exact ⟨rfl, rfl⟩

theorem Doc.cuts (a : Doc) : a.Cuts := by
  induction a using Doc.induct with
  | atom literal =>
    intro b r s stop stop' same
    have marks : b.mark = none := by rw [← mark_write b s, ← same, mark_write]; rfl
    cases b with
    | atom literal' =>
      obtain ⟨rfl, rest⟩ := literal_append_inj stop stop' same
      exact ⟨rfl, rest⟩
    | str | arr | obj => cases marks
  | str text =>
    intro b r s _ _ same
    have marks : b.mark = some '"' := by rw [← mark_write b s, ← same, mark_write]; rfl
    cases b with
    | str text' =>
      obtain ⟨rfl, rest⟩ := quoted_append_inj same
      exact ⟨rfl, rest⟩
    | atom | arr | obj => cases marks
  | arr items ih =>
    intro b r s _ _ same
    have marks : b.mark = some '[' := by rw [← mark_write b s, ← same, mark_write]; rfl
    cases b with
    | arr items' =>
      obtain ⟨rfl, rest⟩ := writeItems_append_inj ih (List.cons.inj same).2
      exact ⟨rfl, rest⟩
    | atom | str | obj => cases marks
  | obj fields ih =>
    intro b r s _ _ same
    have marks : b.mark = some '\x7b' := by rw [← mark_write b s, ← same, mark_write]; rfl
    cases b with
    | obj fields' =>
      obtain ⟨rfl, rest⟩ := writeFields_append_inj ih (List.cons.inj same).2
      exact ⟨rfl, rest⟩
    | atom | str | arr => cases marks

/-- A text is that of one value. -/
theorem Doc.write_injective : Function.Injective Doc.write := by
  intro a b same
  have stops : Stops [] := fun _ none => absurd none (Option.not_mem_none _)
  exact (a.cuts b [] [] stops stops (by rw [same])).1

/-! ### Sorted keys -/

section Sorted

variable {κ α β : Type} [LinearOrder κ] {xs ys : List (κ × α)}

def sortKeys (fields : List (κ × α)) : List (κ × α) := fields.insertionSort fun a b => a.1 ≤ b.1

theorem sortKeys_perm (fields : List (κ × α)) : (sortKeys fields).Perm fields :=
  List.perm_insertionSort _ _

theorem pairwise_sortKeys (fields : List (κ × α)) : (sortKeys fields).Pairwise fun a b => a.1 ≤ b.1 := by
  have total : Std.Total fun a b : κ × α => a.1 ≤ b.1 := ⟨fun a b => le_total a.1 b.1⟩
  have trans : IsTrans (κ × α) fun a b => a.1 ≤ b.1 := ⟨fun _ _ _ => le_trans⟩
  exact List.pairwise_insertionSort _ _

theorem sortKeys_map (f : α → β) (fields : List (κ × α)) :
    sortKeys (fields.map fun field => (field.1, f field.2)) = (sortKeys fields).map fun field => (field.1, f field.2) :=
  (List.map_insertionSort (fun a b : κ × α => a.1 ≤ b.1) (fun a b : κ × β => a.1 ≤ b.1)
    (fun field => (field.1, f field.2)) fields fun _ _ _ _ => Iff.rfl).symm

theorem sortKeys_sortKeys (fields : List (κ × α)) : sortKeys (sortKeys fields) = sortKeys fields :=
  (pairwise_sortKeys fields).insertionSort_eq

/-- Lists of one set of fields with distinct keys are sorted to one list. -/
theorem sortKeys_eq_iff (distinct : (xs.map Prod.fst).Nodup) :
    sortKeys xs = sortKeys ys ↔ xs.length = ys.length ∧ ∀ field ∈ xs, field ∈ ys := by
  constructor
  · intro same
    have perm : xs.Perm ys := (sortKeys_perm xs).symm.trans (same ▸ sortKeys_perm ys)
    exact ⟨perm.length_eq, fun field => perm.mem_iff.mp⟩
  · rintro ⟨lengths, within⟩
    have perm : xs.Perm ys :=
      (List.subperm_of_subset (List.Nodup.of_map _ distinct) within).perm_of_length_le lengths.ge
    refine List.Perm.eq_of_pairwise ?_ (pairwise_sortKeys xs) (pairwise_sortKeys ys)
      ((sortKeys_perm xs).trans (perm.trans (sortKeys_perm ys).symm))
    intro a b left right le ge
    have leftMem := (sortKeys_perm xs).mem_iff.mp left
    have rightMem := perm.mem_iff.mpr ((sortKeys_perm ys).mem_iff.mp right)
    exact List.inj_on_of_nodup_map distinct leftMem rightMem (le_antisymm le ge)

/-- Sorting rows with distinct keys and leaving some out commute. -/
theorem filter_sortKeys (distinct : (xs.map Prod.fst).Nodup) (p : κ × α → Bool) :
    (sortKeys xs).filter p = sortKeys (xs.filter p) := by
  have perm : ((sortKeys xs).filter p).Perm (xs.filter p) := (sortKeys_perm xs).filter p
  have keys : (((sortKeys xs).filter p).map Prod.fst).Nodup :=
    (List.filter_sublist.map _).nodup (((sortKeys_perm xs).map _).nodup_iff.mpr distinct)
  calc (sortKeys xs).filter p
    _ = sortKeys ((sortKeys xs).filter p) := ((pairwise_sortKeys xs).filter p).insertionSort_eq.symm
    _ = sortKeys (xs.filter p) := (sortKeys_eq_iff keys).mpr ⟨perm.length_eq, fun _ => perm.mem_iff.mp⟩

theorem sortKeys_eq_self_iff : sortKeys xs = xs ↔ xs.Pairwise fun a b => a.1 ≤ b.1 :=
  ⟨fun same => same ▸ pairwise_sortKeys xs, fun sorted => sorted.insertionSort_eq⟩

end Sorted

end JsonWriter
