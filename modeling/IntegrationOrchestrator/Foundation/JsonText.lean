import Mathlib

namespace JsonText

/-- The constants Python's decoder knows. -/
inductive Name where
  | null
  | true
  | false
  | nan
  | infinity
deriving DecidableEq

/-- What follows the first letter. -/
def Name.spelling : Name → List Nat
  | .null => ['u'.toNat, 'l'.toNat, 'l'.toNat]
  | .true => ['r'.toNat, 'u'.toNat, 'e'.toNat]
  | .false => ['a'.toNat, 'l'.toNat, 's'.toNat, 'e'.toNat]
  | .nan => ['a'.toNat, 'N'.toNat]
  | .infinity => ['n'.toNat, 'f'.toNat, 'i'.toNat, 'n'.toNat, 'i'.toNat, 't'.toNat, 'y'.toNat]

/-- An open object or array. -/
inductive Container where
  | object
  | array
deriving DecidableEq

/-- What the scanner expects next. A string remembers whether it is a key. -/
inductive Mode where
  | value
  | firstItem
  | firstKey
  | key
  | colon
  | after
  | str (key : Bool)
  | escape (key : Bool)
  | hex (key : Bool) (left : Nat)
  | literal (name : Name) (read : Nat)
  | minus
  | zero
  | digits
  | point
  | fraction
  | exponent
  | exponentSign
  | exponentDigits
deriving DecidableEq

abbrev Scan := Mode × List Container

def isBlank (c : Nat) : Bool := c ∈ " \t\n\r".toList.map Char.toNat

def isDigit (c : Nat) : Bool := '0'.toNat ≤ c && c ≤ '9'.toNat

def isHex (c : Nat) : Bool :=
  isDigit c || ('a'.toNat ≤ c && c ≤ 'f'.toNat) || ('A'.toNat ≤ c && c ≤ 'F'.toNat)

def isEscape (c : Nat) : Bool := c ∈ "\"\\/bfnrt".toList.map Char.toNat

/-- The first character of a value. -/
def beginValue (stack : List Container) (c : Nat) : Option Scan :=
  if c = '"'.toNat then some (.str false, stack)
  else if c = '\x7b'.toNat then some (.firstKey, .object :: stack)
  else if c = '['.toNat then some (.firstItem, .array :: stack)
  else if c = 'n'.toNat then some (.literal .null 0, stack)
  else if c = 't'.toNat then some (.literal .true 0, stack)
  else if c = 'f'.toNat then some (.literal .false 0, stack)
  else if c = 'N'.toNat then some (.literal .nan 0, stack)
  else if c = 'I'.toNat then some (.literal .infinity 0, stack)
  else if c = '-'.toNat then some (.minus, stack)
  else if c = '0'.toNat then some (.zero, stack)
  else if isDigit c then some (.digits, stack)
  else none

/-- A character after a complete value. -/
def afterValue (stack : List Container) (c : Nat) : Option Scan :=
  if isBlank c then some (.after, stack)
  else match stack with
    | [] => none
    | .object :: outer =>
      if c = ','.toNat then some (.key, stack)
      else if c = '\x7d'.toNat then some (.after, outer)
      else none
    | .array :: outer =>
      if c = ','.toNat then some (.value, stack)
      else if c = ']'.toNat then some (.after, outer)
      else none

/-- A character that may end a number. -/
def inNumber (stack : List Container) (c : Nat) (fraction : Bool) : Option Scan :=
  if c = '.'.toNat ∧ fraction then some (.point, stack)
  else if c = 'e'.toNat ∨ c = 'E'.toNat then some (.exponent, stack)
  else afterValue stack c

def step : Scan → Nat → Option Scan
  | (.value, stack), c => if isBlank c then some (.value, stack) else beginValue stack c
  | (.firstItem, stack), c =>
    if isBlank c then some (.firstItem, stack)
    else if c = ']'.toNat then some (.after, stack.tail)
    else beginValue stack c
  | (.firstKey, stack), c =>
    if isBlank c then some (.firstKey, stack)
    else if c = '\x7d'.toNat then some (.after, stack.tail)
    else if c = '"'.toNat then some (.str true, stack)
    else none
  | (.key, stack), c =>
    if isBlank c then some (.key, stack)
    else if c = '"'.toNat then some (.str true, stack)
    else none
  | (.colon, stack), c =>
    if isBlank c then some (.colon, stack)
    else if c = ':'.toNat then some (.value, stack)
    else none
  | (.after, stack), c => afterValue stack c
  | (.str key, stack), c =>
    if c = '"'.toNat then some (if key then .colon else .after, stack)
    else if c = '\\'.toNat then some (.escape key, stack)
    -- control characters are refused inside a string
    else if c < 0x20 then none
    else some (.str key, stack)
  | (.escape key, stack), c =>
    if isEscape c then some (.str key, stack)
    else if c = 'u'.toNat then some (.hex key 3, stack)
    else none
  | (.hex key left, stack), c =>
    if isHex c then
      match left with
      | 0 => some (.str key, stack)
      | left + 1 => some (.hex key left, stack)
    else none
  | (.literal name read, stack), c =>
    match name.spelling[read]? with
    | none => afterValue stack c
    | some letter => if c = letter then some (.literal name (read + 1), stack) else none
  | (.minus, stack), c =>
    if c = 'I'.toNat then some (.literal .infinity 0, stack)
    else if c = '0'.toNat then some (.zero, stack)
    else if isDigit c then some (.digits, stack)
    else none
  | (.zero, stack), c => inNumber stack c true
  | (.digits, stack), c => if isDigit c then some (.digits, stack) else inNumber stack c true
  | (.point, stack), c => if isDigit c then some (.fraction, stack) else none
  | (.fraction, stack), c => if isDigit c then some (.fraction, stack) else inNumber stack c false
  | (.exponent, stack), c =>
    if c = '+'.toNat ∨ c = '-'.toNat then some (.exponentSign, stack)
    else if isDigit c then some (.exponentDigits, stack)
    else none
  | (.exponentSign, stack), c => if isDigit c then some (.exponentDigits, stack) else none
  | (.exponentDigits, stack), c =>
    if isDigit c then some (.exponentDigits, stack) else afterValue stack c

/-- The value is complete at the end of the text. -/
def Mode.complete : Mode → Bool
  | .after | .zero | .digits | .fraction | .exponentDigits => true
  | .literal name read => name.spelling.length ≤ read
  | _ => false

/-- The text is one JSON value, as Python's decoder takes it. -/
def accepts (text : List Nat) : Bool :=
  match text.foldlM step (.value, []) with
  | some (mode, []) => mode.complete
  | _ => false

/-- The value is an object. -/
def isObject (text : List Nat) : Bool :=
  accepts text && (text.find? fun c => !isBlank c) == some '\x7b'.toNat

/-- Where a character stands, as strings and numbers alone decide it. -/
inductive Place where
  | outside
  | point
  | inside
  | escaped
deriving DecidableEq

def Place.step : Place → Nat → Option Place
  | .outside, c =>
    if c = '"'.toNat then some .inside
    else if c = '.'.toNat then some .point
    else if c = '\\'.toNat then none
    else some .outside
  | .point, c => if isDigit c then some .outside else none
  | .inside, c =>
    if c = '"'.toNat then some .outside
    else if c = '\\'.toNat then some .escaped
    else some .inside
  | .escaped, _ => some .inside

def Mode.place : Mode → Place
  | .str _ | .hex _ _ => .inside
  | .escape _ => .escaped
  | .point => .point
  | _ => .outside

/-- Neither opens a string, nor a fraction, nor an escape. -/
def isPlain (c : Nat) : Bool := c != '"'.toNat && c != '.'.toNat && c != '\\'.toNat

variable {scan scan' : Scan} {stack : List Container} {c : Nat} {text : List Nat}

theorem Place.step_plain (plain : isPlain c) : Place.step .outside c = some .outside := by
  simp only [isPlain, Bool.and_eq_true, bne_iff_ne] at plain
  simp only [Place.step, if_neg plain.1.1, if_neg plain.1.2, if_neg plain.2]

theorem Place.step_inside (plain : isPlain c) : Place.step .inside c = some .inside := by
  simp only [isPlain, Bool.and_eq_true, bne_iff_ne] at plain
  simp only [Place.step, if_neg plain.1.1, if_neg plain.2]

theorem isBlank_plain (blank : isBlank c) : isPlain c := by
  simp [isBlank] at blank
  rcases blank with rfl | rfl | rfl | rfl <;> decide

theorem isDigit_plain (digit : isDigit c) : isPlain c := by
  simp [isDigit] at digit
  simp [isPlain]
  omega

theorem isHex_plain (hex : isHex c) : isPlain c := by
  simp [isHex, isDigit] at hex
  simp [isPlain]
  omega

theorem spelling_plain : ∀ name : Name, ∀ letter ∈ name.spelling, isPlain letter
  | .null => by decide
  | .true => by decide
  | .false => by decide
  | .nan => by decide
  | .infinity => by decide

theorem branch_place {place : Place} {test : Prop} [Decidable test] {next : Scan} {other : Option Scan}
    (run : (if test then some next else other) = some scan')
    (here : test → place.step c = some next.1.place)
    (rest : other = some scan' → place.step c = some scan'.1.place) :
    place.step c = some scan'.1.place := by
  split at run
  · rename_i holds
    cases run
    exact here holds
  · exact rest run

theorem step_known {place next : Place} {known : Nat} (stepped : place.step known = some next) :
    c = known → place.step c = some next := by
  intro same
  rw [same, stepped]

theorem beginValue_place (run : beginValue stack c = some scan) :
    Place.step .outside c = some scan.1.place := by
  unfold beginValue at run
  iterate 10 refine branch_place run (step_known rfl) fun run => ?_
  exact branch_place run (fun digit => Place.step_plain (isDigit_plain digit)) nofun

theorem afterValue_place (run : afterValue stack c = some scan) :
    Place.step .outside c = some scan.1.place := by
  refine branch_place run (fun blank => Place.step_plain (isBlank_plain blank)) fun run => ?_
  split at run
  · cases run
  · exact branch_place run (step_known rfl) fun run => branch_place run (step_known rfl) nofun
  · exact branch_place run (step_known rfl) fun run => branch_place run (step_known rfl) nofun

theorem inNumber_place {fraction : Bool} (run : inNumber stack c fraction = some scan) :
    Place.step .outside c = some scan.1.place := by
  refine branch_place run (fun point => step_known rfl point.1) fun run => ?_
  refine branch_place run (fun exponent => ?_) afterValue_place
  rcases exponent with exponent | exponent <;> exact step_known rfl exponent

/-- The places follow the scanner. -/
theorem step_place (run : step scan c = some scan') : scan.1.place.step c = some scan'.1.place := by
  have blank {next : Place} (outside : next = .outside) (h : isBlank c) :
      Place.step .outside c = some next := outside ▸ Place.step_plain (isBlank_plain h)
  have digit {next : Place} (outside : next = .outside) (h : isDigit c) :
      Place.step .outside c = some next := outside ▸ Place.step_plain (isDigit_plain h)
  obtain ⟨mode, stack⟩ := scan
  cases mode with
  | value => exact branch_place run (blank rfl) beginValue_place
  | firstItem =>
    refine branch_place run (blank rfl) fun run => ?_
    exact branch_place run (step_known rfl) beginValue_place
  | firstKey =>
    refine branch_place run (blank rfl) fun run => ?_
    exact branch_place run (step_known rfl) fun run => branch_place run (step_known rfl) nofun
  | key =>
    refine branch_place run (blank rfl) fun run => ?_
    exact branch_place run (step_known rfl) nofun
  | colon =>
    refine branch_place run (blank rfl) fun run => ?_
    exact branch_place run (step_known rfl) nofun
  | after => exact afterValue_place run
  | str key =>
    by_cases quote : c = '"'.toNat
    · rw [step, if_pos quote] at run
      cases run
      cases key <;> exact step_known rfl quote
    · rw [step, if_neg quote] at run
      by_cases slash : c = '\\'.toNat
      · rw [if_pos slash] at run
        cases run
        exact step_known rfl slash
      · rw [if_neg slash] at run
        split at run
        · cases run
        · cases run
          simp only [Mode.place, Place.step, if_neg quote, if_neg slash]
  | escape key => exact branch_place run (fun _ => rfl) fun run => branch_place run (fun _ => rfl) nofun
  | hex key left =>
    simp only [step] at run
    split at run
    · rename_i hex
      cases left <;> cases run <;> exact Place.step_inside (isHex_plain hex)
    · cases run
  | literal name read =>
    simp only [step] at run
    split at run
    · exact afterValue_place run
    · rename_i letter spelled
      refine branch_place run (fun same => ?_) nofun
      exact Place.step_plain (same ▸ spelling_plain name letter (List.mem_of_getElem? spelled))
  | minus =>
    refine branch_place run (step_known rfl) fun run => ?_
    exact branch_place run (step_known rfl) fun run => branch_place run (digit rfl) nofun
  | zero => exact inNumber_place run
  | digits => exact branch_place run (digit rfl) inNumber_place
  | point => exact branch_place run (fun h => if_pos h) nofun
  | fraction => exact branch_place run (digit rfl) inNumber_place
  | exponent =>
    refine branch_place run (fun sign => ?_) fun run => branch_place run (digit rfl) nofun
    rcases sign with sign | sign <;> exact step_known rfl sign
  | exponentSign => exact branch_place run (digit rfl) nofun
  | exponentDigits => exact branch_place run (digit rfl) afterValue_place

theorem foldlM_place (run : text.foldlM step scan = some scan') :
    text.foldlM Place.step scan.1.place = some scan'.1.place := by
  induction text generalizing scan with
  | nil =>
    cases run
    rfl
  | cons c rest ih =>
    rw [List.foldlM_cons] at run ⊢
    obtain ⟨next, stepped, run⟩ := Option.bind_eq_some_iff.mp run
    rw [step_place stepped]
    exact ih run

/-- A complete text ends outside its strings. -/
theorem accepts_place (accepted : accepts text) : text.foldlM Place.step .outside = some .outside := by
  unfold accepts at accepted
  split at accepted
  · rename_i mode run
    rw [show Place.outside = (Mode.value, ([] : List Container)).1.place from rfl, foldlM_place run]
    cases mode <;> simp_all [Mode.complete, Mode.place]
  · cases accepted

/-- Exactly one of the two stands within a string. -/
def Place.Opposite (p q : Place) : Prop :=
  (p = .inside ∧ q ∈ [Place.outside, .point]) ∨ (q = .inside ∧ p ∈ [Place.outside, .point])

/-- Within a string and outside one, a character is read to opposite places. -/
theorem Place.opposite_step {p q : Place} (within : Place.step .inside c = some p) :
    (Place.step .outside c = some q → Place.Opposite p q) ∧
      (Place.step .point c = some q → Place.Opposite p q) := by
  refine ⟨fun stepped => ?_, fun stepped => ?_⟩
  · simp only [Place.step] at within stepped
    split_ifs at within stepped <;> simp_all [Place.Opposite]
  · simp only [Place.step] at stepped
    split at stepped
    · rename_i digit
      cases stepped
      rw [Place.step_inside (isDigit_plain digit)] at within
      cases within
      simp [Place.Opposite]
    · cases stepped

/-- A text read from within a string and from outside one stays at opposite
places. -/
theorem Place.opposite_foldlM {p q p' q' : Place} (opposite : Place.Opposite p q)
    (first : text.foldlM Place.step p = some p') (second : text.foldlM Place.step q = some q') :
    Place.Opposite p' q' := by
  induction text generalizing p q with
  | nil =>
    cases first
    cases second
    exact opposite
  | cons c rest ih =>
    rw [List.foldlM_cons] at first second
    obtain ⟨p₁, steppedP, first⟩ := Option.bind_eq_some_iff.mp first
    obtain ⟨q₁, steppedQ, second⟩ := Option.bind_eq_some_iff.mp second
    refine ih ?_ first second
    simp only [Place.Opposite, List.mem_cons, List.not_mem_nil, or_false] at opposite
    rcases opposite with ⟨rfl, rfl | rfl⟩ | ⟨rfl, rfl | rfl⟩
    · exact (Place.opposite_step steppedP).1 steppedQ
    · exact (Place.opposite_step steppedP).2 steppedQ
    · exact ((Place.opposite_step steppedQ).1 steppedP).symm
    · exact ((Place.opposite_step steppedQ).2 steppedP).symm

theorem Place.foldlM_inside (plain : ∀ c ∈ text, isPlain c) :
    text.foldlM Place.step .inside = some .inside := by
  induction text with
  | nil => rfl
  | cons c rest ih =>
    rw [List.foldlM_cons, Place.step_inside (plain c (by simp))]
    exact ih fun d member => plain d (by simp [member])

/-- No text ends in a full stop and a text of its own, possibly marked: the
stop would stand in a string, and the inner text would leave it open. -/
theorem not_accepts_stop {before mark : List Nat} (unmarked : ∀ c ∈ mark, isPlain c)
    (notDigit : ∀ c ∈ (mark ++ text).head?, ¬ isDigit c) (inner : accepts text) :
    ¬ accepts (before ++ '.'.toNat :: (mark ++ text)) := by
  intro outer
  have readOuter := accepts_place outer
  have readInner := accepts_place inner
  rw [List.foldlM_append] at readOuter
  obtain ⟨place, -, readOuter⟩ := Option.bind_eq_some_iff.mp readOuter
  rw [List.foldlM_cons] at readOuter
  obtain ⟨next, stop, readOuter⟩ := Option.bind_eq_some_iff.mp readOuter
  have inString : next = .inside := by
    cases place with
    | inside | escaped => exact (Option.some.inj stop).symm
    | point => cases stop
    | outside =>
      cases stop
      -- after the stop of a number comes a digit
      cases found : mark ++ text with
      | nil =>
        rw [found] at readOuter
        cases readOuter
      | cons c rest =>
        have other : ¬ isDigit c := notDigit c (by rw [found]; rfl)
        rw [found, List.foldlM_cons, Place.step, if_neg other] at readOuter
        cases readOuter
  rw [inString, List.foldlM_append] at readOuter
  rw [Place.foldlM_inside unmarked] at readOuter
  have opposite := Place.opposite_foldlM (by simp [Place.Opposite]) readOuter readInner
  simp [Place.Opposite] at opposite

end JsonText
