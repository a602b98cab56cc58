import IntegrationOrchestrator.Foundation.JsonText

/-! Reading the values of a JSON text, by recursive descent as Python's decoder
does it. Texts are code points. -/

namespace JsonText

/-- A value. Numbers are kept as they are written. A key may come twice in an
object. -/
inductive Value where
  | null
  | bool (value : Bool)
  | number (literal : List Nat)
  | str (text : List Nat)
  | arr (items : List Value)
  | obj (fields : List (List Nat × Value))

/-- The field of an object; the last one counts. -/
def Value.get (key : List Nat) : Value → Option Value
  | .obj fields => (fields.reverse.find? (·.1 = key)).map (·.2)
  | _ => none

/-- The code points of a text. -/
def codes (text : List Char) : List Nat := text.map Char.toNat

def skipBlanks (text : List Nat) : List Nat := text.dropWhile isBlank

/-! ### Strings -/

/-- How far an escape was read; `left` more hexadecimal digits follow the next
one. -/
inductive Escape where
  | outside
  | began
  | unit (left : Nat) (code : Nat)

def escapeOf (c : Nat) : Option Nat :=
  if c = 'b'.toNat then some 0x08
  else if c = 'f'.toNat then some 0x0c
  else if c = 'n'.toNat then some 0x0a
  else if c = 'r'.toNat then some 0x0d
  else if c = 't'.toNat then some 0x09
  else if isEscape c then some c
  else none

def hexDigit (c : Nat) : Option Nat :=
  if isDigit c then some (c - '0'.toNat)
  else if 'a'.toNat ≤ c && c ≤ 'f'.toNat then some (c - 'a'.toNat + 10)
  else if 'A'.toNat ≤ c && c ≤ 'F'.toNat then some (c - 'A'.toNat + 10)
  else none

/-- The code points up to the closing quote, those of a `\u` escape marked,
and what follows the quote. -/
def readUnits : Escape → List Nat → Option (List (Bool × Nat) × List Nat)
  | _, [] => none
  | .outside, c :: rest =>
    if c = '"'.toNat then some ([], rest)
    else if c = '\\'.toNat then readUnits .began rest
    else if c < 0x20 then none
    else (readUnits .outside rest).map fun read => ((false, c) :: read.1, read.2)
  | .began, c :: rest =>
    if c = 'u'.toNat then readUnits (.unit 3 0) rest
    else (escapeOf c).bind fun code =>
      (readUnits .outside rest).map fun read => ((false, code) :: read.1, read.2)
  | .unit left code, c :: rest => (hexDigit c).bind fun digit =>
    match left with
    | 0 => (readUnits .outside rest).map fun read => ((true, code * 16 + digit) :: read.1, read.2)
    | left + 1 => readUnits (.unit left (code * 16 + digit)) rest

/-- Two escaped halves of a surrogate pair are one code point. -/
def joinUnits : List (Bool × Nat) → List Nat
  | (true, high) :: (true, low) :: rest =>
    if 0xd800 ≤ high ∧ high < 0xdc00 ∧ 0xdc00 ≤ low ∧ low < 0xe000 then
      (0x10000 + (high - 0xd800) * 0x400 + (low - 0xdc00)) :: joinUnits rest
    else high :: joinUnits ((true, low) :: rest)
  | unit :: rest => unit.2 :: joinUnits rest
  | [] => []

/-- A string behind its opening quote. -/
def readString (text : List Nat) : Option (List Nat × List Nat) :=
  (readUnits .outside text).map fun read => (joinUnits read.1, read.2)

/-! ### Numbers and constants -/

/-- The digits a text starts with. -/
def spanDigits (text : List Nat) : List Nat × List Nat := text.span isDigit

/-- Digits behind a point, if there are any. -/
def readFraction : List Nat → List Nat × List Nat
  | point :: rest =>
    if point = '.'.toNat ∧ (spanDigits rest).1 ≠ [] then (point :: (spanDigits rest).1, (spanDigits rest).2)
    else ([], point :: rest)
  | [] => ([], [])

/-- An exponent, if there is one. -/
def readExponent : List Nat → List Nat × List Nat
  | e :: rest =>
    let sign := rest.take 1 |>.filter fun c => c = '+'.toNat ∨ c = '-'.toNat
    let digits := spanDigits (rest.drop sign.length)
    if (e = 'e'.toNat ∨ e = 'E'.toNat) ∧ digits.1 ≠ [] then (e :: sign ++ digits.1, digits.2) else ([], e :: rest)
  | [] => ([], [])

/-- A number without its sign: no digit follows a leading zero. -/
def readNumber (text : List Nat) : Option (Value × List Nat) :=
  let whole := match text with
    | first :: rest => if first = '0'.toNat then ([first], rest) else spanDigits text
    | [] => ([], [])
  if whole.1 = [] then none
  else
    let fraction := readFraction whole.2
    let exponent := readExponent fraction.2
    some (.number (whole.1 ++ fraction.1 ++ exponent.1), exponent.2)

/-- A constant, by its whole spelling. -/
def readName (spelling : List Char) (value : Value) (text : List Nat) : Option (Value × List Nat) :=
  if (codes spelling).isPrefixOf text then some (value, text.drop spelling.length) else none

/-! ### Values -/

/-- What stands first decides which value it is. -/
def readScalar (text : List Nat) : Option (Value × List Nat) :=
  match text with
  | [] => none
  | c :: rest =>
    if c = '"'.toNat then (readString rest).map fun read => (.str read.1, read.2)
    else if c = '-'.toNat then
      (readName "Infinity".toList (.number (codes "-Infinity".toList)) rest).or
        ((readNumber rest).bind fun read =>
          match read.1 with
          | .number literal => some (.number (c :: literal), read.2)
          | _ => none)
    else if isDigit c then readNumber text
    else ((readName "null".toList .null text).or (readName "true".toList (.bool true) text)).or
      ((readName "false".toList (.bool false) text).or
        ((readName "NaN".toList (.number (codes "NaN".toList)) text).or
          (readName "Infinity".toList (.number (codes "Infinity".toList)) text)))

mutual

/-- `fuel` bounds the depth of the descent; every level reads a character. -/
def readValue : Nat → List Nat → Option (Value × List Nat)
  | 0, _ => none
  | fuel + 1, text =>
    match text with
    | [] => none
    | c :: rest =>
      if c = '\x7b'.toNat then
        if (skipBlanks rest).head? = some '\x7d'.toNat then some (.obj [], (skipBlanks rest).tail)
        else (readFields fuel (skipBlanks rest)).map fun read => (.obj read.1, read.2)
      else if c = '['.toNat then
        if (skipBlanks rest).head? = some ']'.toNat then some (.arr [], (skipBlanks rest).tail)
        else (readItems fuel (skipBlanks rest)).map fun read => (.arr read.1, read.2)
      else readScalar text

/-- The fields up to the closing brace. -/
def readFields : Nat → List Nat → Option (List (List Nat × Value) × List Nat)
  | 0, _ => none
  | fuel + 1, text =>
    if text.head? = some '"'.toNat then
      (readString text.tail).bind fun key =>
        if (skipBlanks key.2).head? = some ':'.toNat then
          (readValue fuel (skipBlanks (skipBlanks key.2).tail)).bind fun value =>
            let rest := skipBlanks value.2
            if rest.head? = some '\x7d'.toNat then some ([(key.1, value.1)], rest.tail)
            else if rest.head? = some ','.toNat then
              (readFields fuel (skipBlanks rest.tail)).map fun read => ((key.1, value.1) :: read.1, read.2)
            else none
        else none
    else none

/-- The items up to the closing bracket. -/
def readItems : Nat → List Nat → Option (List Value × List Nat)
  | 0, _ => none
  | fuel + 1, text =>
    (readValue fuel text).bind fun value =>
      let rest := skipBlanks value.2
      if rest.head? = some ']'.toNat then some ([value.1], rest.tail)
      else if rest.head? = some ','.toNat then
        (readItems fuel (skipBlanks rest.tail)).map fun read => (value.1 :: read.1, read.2)
      else none

end

/-- `json.loads`: one value, with blanks around it. -/
def loads (text : List Nat) : Option Value :=
  (readValue (text.length + 1) (skipBlanks text)).bind fun read =>
    if skipBlanks read.2 = [] then some read.1 else none

/-! ### Texts that need no escape -/

/-- A character that stands for itself in a string. -/
def isBare (c : Nat) : Bool := 0x20 ≤ c && c != '"'.toNat && c != '\\'.toNat

variable {text rest : List Nat}

theorem readUnits_bare (bare : ∀ c ∈ text, isBare c) :
    readUnits .outside (text ++ '"'.toNat :: rest) = some (text.map (false, ·), rest) := by
  induction text with
  | nil => rfl
  | cons c text ih =>
    have plain := bare c (List.mem_cons_self ..)
    simp only [isBare, Bool.and_eq_true, bne_iff_ne, decide_eq_true_eq] at plain
    obtain ⟨⟨printable, quote⟩, slash⟩ := plain
    rw [List.cons_append, readUnits, if_neg quote, if_neg slash, if_neg (by omega),
      ih fun d member => bare d (List.mem_cons_of_mem _ member)]
    rfl

theorem joinUnits_bare (text : List Nat) : joinUnits (text.map (false, ·)) = text := by
  induction text with
  | nil => rfl
  | cons c text ih => simp [joinUnits, ih]

theorem readString_bare (bare : ∀ c ∈ text, isBare c) :
    readString (text ++ '"'.toNat :: rest) = some (text, rest) := by
  rw [readString, readUnits_bare bare]
  simp only [Option.map_some, joinUnits_bare]

/-- A string of such characters, in quotes. -/
def quoted (text : List Nat) : List Nat := '"'.toNat :: text ++ ['"'.toNat]

theorem readValue_quoted (fuel : Nat) (bare : ∀ c ∈ text, isBare c) :
    readValue (fuel + 1) (quoted text ++ rest) = some (.str text, rest) := by
  have read := @readString_bare text rest bare
  simp only [quoted, List.cons_append, List.append_assoc, List.nil_append, readValue, readScalar]
  rw [if_neg (by decide), if_neg (by decide), if_pos trivial, read]
  rfl

theorem skipBlanks_cons {c : Nat} (dark : isBlank c = false) : skipBlanks (c :: rest) = c :: rest :=
  List.dropWhile_cons_of_neg (by simp [dark])

/-! ### Objects of such texts -/

def fieldText (field : List Nat × List Nat) : List Nat := quoted field.1 ++ ':'.toNat :: quoted field.2

/-- Fields separated by commas, without blanks. -/
def fieldsText (first : List Nat × List Nat) : List (List Nat × List Nat) → List Nat
  | [] => fieldText first
  | second :: rest => fieldText first ++ ','.toNat :: fieldsText second rest

/-- `json.dumps` of a dictionary of texts with the separators `,` and `:`. -/
def objectText (first : List Nat × List Nat) (rest : List (List Nat × List Nat)) : List Nat :=
  '\x7b'.toNat :: fieldsText first rest ++ ['\x7d'.toNat]

/-- Both texts of a field stand for themselves. -/
def BareField (field : List Nat × List Nat) : Prop := (∀ c ∈ field.1, isBare c) ∧ ∀ c ∈ field.2, isBare c

variable {first : List Nat × List Nat} {fields : List (List Nat × List Nat)}

/-- One field, and what is read behind it. -/
theorem readFields_field (fuel : Nat) (bare : BareField first) :
    readFields (fuel + 2) (fieldText first ++ rest) =
      if (skipBlanks rest).head? = some '\x7d'.toNat then some ([(first.1, .str first.2)], (skipBlanks rest).tail)
      else if (skipBlanks rest).head? = some ','.toNat then
        (readFields (fuel + 1) (skipBlanks (skipBlanks rest).tail)).map fun read =>
          ((first.1, .str first.2) :: read.1, read.2)
      else none := by
  have key := @readString_bare first.1 (':'.toNat :: (quoted first.2 ++ rest)) bare.1
  have value := @readValue_quoted first.2 rest fuel bare.2
  have colon : skipBlanks (':'.toNat :: (quoted first.2 ++ rest)) = ':'.toNat :: (quoted first.2 ++ rest) :=
    skipBlanks_cons (by decide)
  have quote : skipBlanks (quoted first.2 ++ rest) = quoted first.2 ++ rest := skipBlanks_cons (by decide)
  have spelled : fieldText first ++ rest =
      '"'.toNat :: (first.1 ++ '"'.toNat :: (':'.toNat :: (quoted first.2 ++ rest))) := by
    simp [fieldText, quoted]
  rw [spelled, readFields, List.head?_cons, if_pos rfl, List.tail_cons, key]
  simp only [Option.bind_some, colon, List.head?_cons, if_true, List.tail_cons, quote, value]

theorem readFields_fieldsText {fuel : Nat} (bare : ∀ field ∈ first :: fields, BareField field)
    (enough : fields.length + 2 ≤ fuel) :
    readFields fuel (fieldsText first fields ++ '\x7d'.toNat :: rest) =
      some ((first :: fields).map fun field => (field.1, .str field.2), rest) := by
  induction fields generalizing first fuel with
  | nil =>
    obtain ⟨fuel, rfl⟩ : ∃ less, fuel = less + 2 := ⟨fuel - 2, by simp at enough; omega⟩
    rw [fieldsText, readFields_field fuel (bare first (List.mem_cons_self ..)), skipBlanks_cons (by decide)]
    rfl
  | cons second fields ih =>
    obtain ⟨fuel, rfl⟩ : ∃ less, fuel = less + 2 := ⟨fuel - 2, by simp at enough; omega⟩
    have later := @ih second (fuel + 1) (fun field member => bare field (List.mem_cons_of_mem _ member))
      (by simp at enough; omega)
    have dark : skipBlanks (fieldsText second fields ++ '\x7d'.toNat :: rest) =
        fieldsText second fields ++ '\x7d'.toNat :: rest := by
      cases fields <;> exact skipBlanks_cons (by decide)
    rw [fieldsText, List.append_assoc, readFields_field fuel (bare first (List.mem_cons_self ..)), List.cons_append,
      skipBlanks_cons (by decide), List.head?_cons, List.tail_cons, dark, later]
    rw [if_neg (by decide), if_pos rfl]
    rfl

theorem length_fieldsText (first : List Nat × List Nat) (fields : List (List Nat × List Nat)) :
    fields.length + 1 ≤ (fieldsText first fields).length := by
  induction fields generalizing first with
  | nil => simp [fieldsText, fieldText, quoted]
  | cons second fields ih =>
    have later := ih second
    simp only [fieldsText, List.length_append, List.length_cons]
    omega

/-- A dictionary of such texts is read back. -/
theorem loads_objectText (bare : ∀ field ∈ first :: fields, BareField field) :
    loads (objectText first fields) = some (.obj ((first :: fields).map fun field => (field.1, .str field.2))) := by
  have long := length_fieldsText first fields
  have dark : skipBlanks (fieldsText first fields ++ ['\x7d'.toNat]) = fieldsText first fields ++ ['\x7d'.toNat] := by
    cases fields <;> exact skipBlanks_cons (by decide)
  have quote : (fieldsText first fields ++ ['\x7d'.toNat]).head? = some '"'.toNat := by
    cases fields <;> rfl
  have read := @readFields_fieldsText [] first fields (objectText first fields).length bare
    (by simp only [objectText, List.length_cons, List.length_append]; omega)
  rw [loads, objectText, List.cons_append, skipBlanks_cons (by decide), readValue, if_pos rfl, dark, quote,
    if_neg (by decide)]
  rw [objectText, List.cons_append] at read
  rw [read]
  rfl

/-- The characters of such a text are those of the fields and the signs between
them. -/
theorem forall_mem_objectText {P : Nat → Prop} (signs : ∀ c ∈ codes "\x7b\x7d\":,".toList, P c)
    (texts : ∀ field ∈ first :: fields, (∀ c ∈ field.1, P c) ∧ ∀ c ∈ field.2, P c) :
    ∀ c ∈ objectText first fields, P c := by
  have quotes : ∀ text, (∀ c ∈ text, P c) → ∀ c ∈ quoted text, P c := by
    intro text inner c member
    simp only [quoted, List.cons_append, List.mem_cons, List.mem_append, List.not_mem_nil, or_false] at member
    rcases member with rfl | inside | rfl
    · exact signs _ (by decide)
    · exact inner c inside
    · exact signs _ (by decide)
  have one : ∀ field ∈ first :: fields, ∀ c ∈ fieldText field, P c := by
    intro field known c member
    rcases List.mem_append.mp member with key | value
    · exact quotes field.1 (texts field known).1 c key
    · rcases List.mem_cons.mp value with rfl | value
      · exact signs _ (by decide)
      · exact quotes field.2 (texts field known).2 c value
  have all : ∀ c ∈ fieldsText first fields, P c := by
    clear texts
    induction fields generalizing first with
    | nil => exact one first (List.mem_cons_self ..)
    | cons second rest ih =>
      intro c member
      rcases List.mem_append.mp member with here | later
      · exact one first (List.mem_cons_self ..) c here
      · rcases List.mem_cons.mp later with rfl | later
        · exact signs _ (by decide)
        · exact ih (fun field known => one field (List.mem_cons_of_mem _ known)) c later
  intro c member
  simp only [objectText, List.cons_append, List.mem_cons, List.mem_append, List.not_mem_nil, or_false] at member
  rcases member with rfl | inside | rfl
  · exact signs _ (by decide)
  · exact all c inside
  · exact signs _ (by decide)

end JsonText
