import Mathlib

namespace Utf8

/-- Where the decoder stands: between characters, or within one, of which the
next byte must lie between two bounds, `left` more follow it, and `code` was
read so far. -/
inductive State where
  | start
  | within (left : Nat) (low high : UInt8) (code : Nat) (tail : 0x80 ≤ low)

/-- One byte: the state after it and the character it completes. Surrogates
pass, as in Python's `surrogatepass`. -/
def step : State → UInt8 → Option (State × List Nat)
  | .start, byte =>
    if byte < 0x80 then some (.start, [byte.toNat])
    else if 0xC2 ≤ byte ∧ byte ≤ 0xDF then some (.within 0 0x80 0xBF (byte.toNat % 32) (by decide), [])
    else if byte = 0xE0 then some (.within 1 0xA0 0xBF (byte.toNat % 16) (by decide), [])
    else if 0xE1 ≤ byte ∧ byte ≤ 0xEF then some (.within 1 0x80 0xBF (byte.toNat % 16) (by decide), [])
    else if byte = 0xF0 then some (.within 2 0x90 0xBF (byte.toNat % 8) (by decide), [])
    else if 0xF1 ≤ byte ∧ byte ≤ 0xF3 then some (.within 2 0x80 0xBF (byte.toNat % 8) (by decide), [])
    else if byte = 0xF4 then some (.within 2 0x80 0x8F (byte.toNat % 8) (by decide), [])
    else none
  | .within left low high code _, byte =>
    if low ≤ byte ∧ byte ≤ high then
      let code := code * 64 + byte.toNat % 64
      match left with
      | 0 => some (.start, [code])
      | left + 1 => some (.within left 0x80 0xBF code (by decide), [])
    else none

def decodeFrom : State → List UInt8 → Option (List Nat)
  | .start, [] => some []
  | .within _ _ _ _ _, [] => none
  | state, byte :: rest => do
    let (state, out) ← step state byte
    let text ← decodeFrom state rest
    return out ++ text

def decode (bytes : List UInt8) : Option (List Nat) := decodeFrom .start bytes

variable {state : State} {byte : UInt8} {bytes rest : List UInt8} {text : List Nat}

/-- An ASCII byte is a character of its own. -/
theorem step_ascii (ascii : byte < 0x80) {next : State × List Nat} (run : step state byte = some next) :
    state = .start ∧ next = (.start, [byte.toNat]) := by
  cases state with
  | start =>
    simp only [step, if_pos ascii, Option.some.injEq] at run
    exact ⟨rfl, run.symm⟩
  | within left low high code tail =>
    have outside : ¬ (low ≤ byte ∧ byte ≤ high) := fun inside =>
      absurd (UInt8.lt_of_lt_of_le ascii (UInt8.le_trans tail inside.1)) (UInt8.lt_irrefl _)
    simp [step, if_neg outside] at run

theorem decodeFrom_cons (run : decodeFrom state (byte :: rest) = some text) :
    ∃ next later, step state byte = some next ∧ decodeFrom next.1 rest = some later ∧
      text = next.2 ++ later := by
  rw [decodeFrom] at run
  obtain ⟨next, stepped, run⟩ := Option.bind_eq_some_iff.mp run
  obtain ⟨later, decoded, done⟩ := Option.bind_eq_some_iff.mp run
  cases done
  exact ⟨next, later, stepped, decoded, rfl⟩

/-- A text can be cut at every ASCII byte. -/
theorem decodeFrom_cut (ascii : byte < 0x80) (run : decodeFrom state (bytes ++ byte :: rest) = some text) :
    ∃ first second, decodeFrom state bytes = some first ∧ decode rest = some second ∧
      text = first ++ byte.toNat :: second := by
  induction bytes generalizing state text with
  | nil =>
    obtain ⟨next, second, stepped, decoded, rfl⟩ := decodeFrom_cons run
    obtain ⟨rfl, rfl⟩ := step_ascii ascii stepped
    exact ⟨[], second, rfl, decoded, rfl⟩
  | cons head tail ih =>
    obtain ⟨next, later, stepped, decoded, rfl⟩ := decodeFrom_cons run
    obtain ⟨first, second, before, after, rfl⟩ := ih decoded
    refine ⟨next.2 ++ first, second, ?_, after, (List.append_assoc ..).symm⟩
    simp [decodeFrom, stepped, before]

/-- ASCII bytes are their own code points. -/
theorem decode_ascii (ascii : ∀ byte ∈ bytes, byte < 0x80) : decode bytes = some (bytes.map UInt8.toNat) := by
  unfold decode
  induction bytes with
  | nil => rfl
  | cons byte rest ih =>
    have here := ascii byte (List.mem_cons_self ..)
    have later := ih fun other member => ascii other (List.mem_cons_of_mem _ member)
    simp [decodeFrom, step, here, later]

end Utf8
