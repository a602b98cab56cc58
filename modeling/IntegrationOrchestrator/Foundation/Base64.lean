import Mathlib

/-! Base64 with the alphabet that is safe in URLs, written without padding,
and read as Python's `binascii.a2b_base64` reads it: characters outside the
alphabet are skipped, and padding ends the text. -/

namespace Base64

def alphabet : List Char :=
  "ABCDEFGHIJKLMNOPQRSTUVWXYZabcdefghijklmnopqrstuvwxyz0123456789-_".toList

def digit (n : Nat) : Char := alphabet.getD n 'A'

/-- The value of a character, in either of the two alphabets. -/
def value (c : Char) : Option Nat :=
  if c = '+' then some 62 else if c = '/' then some 63 else alphabet.idxOf? c

/-- Three bytes are four characters; a last group may be shorter. -/
def encode : List UInt8 → List Char
  | [] => []
  | [a] => [digit (a.toNat / 4), digit (a.toNat % 4 * 16)]
  | [a, b] => [digit (a.toNat / 4), digit (a.toNat % 4 * 16 + b.toNat / 16), digit (b.toNat % 16 * 4)]
  | a :: b :: c :: rest =>
    digit (a.toNat / 4) :: digit (a.toNat % 4 * 16 + b.toNat / 16) :: digit (b.toNat % 16 * 4 + c.toNat / 64) ::
      digit (c.toNat % 64) :: encode rest

/-- Where the reader stands in a group of four characters. What was read of
the next byte is `left`. -/
def decodeFrom : Nat → Nat → Nat → List Char → Option (List UInt8)
  | 0, _, _, [] => some []
  | _ + 1, _, _, [] => none
  | position, left, pads, c :: rest =>
    if c = '=' then
      if 2 ≤ position then
        if 4 ≤ position + (pads + 1) then some [] else decodeFrom position left (pads + 1) rest
      else decodeFrom position left pads rest
    else match value c with
      | none => decodeFrom position left pads rest
      | some n =>
        match position with
        | 0 => decodeFrom 1 n 0 rest
        | 1 => (decodeFrom 2 (n % 16) 0 rest).map (UInt8.ofNat (left * 4 + n / 16) :: ·)
        | 2 => (decodeFrom 3 (n % 4) 0 rest).map (UInt8.ofNat (left * 16 + n / 4) :: ·)
        | _ => (decodeFrom 0 0 0 rest).map (UInt8.ofNat (left * 64 + n) :: ·)

def decode (text : List Char) : Option (List UInt8) := decodeFrom 0 0 0 text

/-- As much padding as makes the length a multiple of four. -/
def pad (text : List Char) : List Char := text ++ List.replicate ((4 - text.length % 4) % 4) '='

theorem value_digit {n : Nat} (small : n < 64) : digit n ≠ '=' ∧ value (digit n) = some n := by
  have all : ∀ n < 64, digit n ≠ '=' ∧ value (digit n) = some n := by decide +kernel
  exact all n small

section digits

variable {n : Nat} (small : n < 64) (left pads : Nat) (rest : List Char)
include small

theorem decodeFrom_first : decodeFrom 0 left pads (digit n :: rest) = decodeFrom 1 n 0 rest := by
  obtain ⟨data, read⟩ := value_digit small
  rw [decodeFrom, if_neg data, read]
  rfl

theorem decodeFrom_second : decodeFrom 1 left pads (digit n :: rest) =
    (decodeFrom 2 (n % 16) 0 rest).map (UInt8.ofNat (left * 4 + n / 16) :: ·) := by
  obtain ⟨data, read⟩ := value_digit small
  rw [decodeFrom, if_neg data, read]
  rfl

theorem decodeFrom_third : decodeFrom 2 left pads (digit n :: rest) =
    (decodeFrom 3 (n % 4) 0 rest).map (UInt8.ofNat (left * 16 + n / 4) :: ·) := by
  obtain ⟨data, read⟩ := value_digit small
  rw [decodeFrom, if_neg data, read]
  rfl

theorem decodeFrom_fourth : decodeFrom 3 left pads (digit n :: rest) =
    (decodeFrom 0 0 0 rest).map (UInt8.ofNat (left * 64 + n) :: ·) := by
  obtain ⟨data, read⟩ := value_digit small
  rw [decodeFrom, if_neg data, read]
  rfl

end digits

theorem byte_of_parts {a : UInt8} {high low : Nat} (parts : high + low = a.toNat) : UInt8.ofNat (high + low) = a := by
  rw [parts, UInt8.ofNat_toNat]

theorem pad_group (a b c d : Char) (text : List Char) :
    pad (a :: b :: c :: d :: text) = a :: b :: c :: d :: pad text := by
  have same : (text.length + 1 + 1 + 1 + 1) % 4 = text.length % 4 := by omega
  simp [pad, same]

/-- What was written without padding is read back once it is padded. -/
theorem decode_pad_encode (bytes : List UInt8) : decode (pad (encode bytes)) = some bytes := by
  fun_induction encode bytes with
  | case1 => rfl
  | case2 a =>
    have byte := a.toNat_lt
    have first : UInt8.ofNat (a.toNat / 4 * 4 + a.toNat % 4 * 16 / 16) = a := byte_of_parts (by omega)
    simp only [decode, pad, List.length_cons, List.length_nil, List.cons_append, List.nil_append]
    rw [decodeFrom_first (by omega), decodeFrom_second (by omega), first]
    rfl
  | case3 a b =>
    have byte := a.toNat_lt
    have byte' := b.toNat_lt
    have first : UInt8.ofNat (a.toNat / 4 * 4 + (a.toNat % 4 * 16 + b.toNat / 16) / 16) = a :=
      byte_of_parts (by omega)
    have second : UInt8.ofNat ((a.toNat % 4 * 16 + b.toNat / 16) % 16 * 16 + b.toNat % 16 * 4 / 4) = b :=
      byte_of_parts (by omega)
    simp only [decode, pad, List.length_cons, List.length_nil, List.cons_append, List.nil_append]
    rw [decodeFrom_first (by omega), decodeFrom_second (by omega), decodeFrom_third (by omega), first, second]
    rfl
  | case4 a b c rest ih =>
    have byte := a.toNat_lt
    have byte' := b.toNat_lt
    have byte'' := c.toNat_lt
    have first : UInt8.ofNat (a.toNat / 4 * 4 + (a.toNat % 4 * 16 + b.toNat / 16) / 16) = a :=
      byte_of_parts (by omega)
    have second : UInt8.ofNat ((a.toNat % 4 * 16 + b.toNat / 16) % 16 * 16 +
        (b.toNat % 16 * 4 + c.toNat / 64) / 4) = b := byte_of_parts (by omega)
    have third : UInt8.ofNat ((b.toNat % 16 * 4 + c.toNat / 64) % 4 * 64 + c.toNat % 64) = c :=
      byte_of_parts (by omega)
    rw [pad_group, decode, decodeFrom_first (by omega), decodeFrom_second (by omega), decodeFrom_third (by omega),
      decodeFrom_fourth (by omega), first, second, third]
    rw [decode] at ih
    rw [ih]
    rfl

theorem digit_ascii (n : Nat) : (digit n).toNat < 0x80 := by
  have all : ∀ n < 64, (digit n).toNat < 0x80 := by decide +kernel
  by_cases small : n < 64
  · exact all n small
  · have beyond : digit n = 'A' := List.getD_eq_default alphabet 'A' (Nat.le_of_not_lt small)
    rw [beyond]
    decide

theorem encode_ascii (bytes : List UInt8) : ∀ c ∈ encode bytes, c.toNat < 0x80 := by
  fun_induction encode bytes with
  | case1 => exact fun _ member => absurd member List.not_mem_nil
  | case2 | case3 => simp [digit_ascii]
  | case4 a b c rest ih => simpa [digit_ascii] using ih

end Base64
