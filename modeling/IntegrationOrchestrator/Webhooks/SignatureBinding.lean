import IntegrationOrchestrator.Webhooks.Adapters

namespace IntegrationOrchestrator

/-- The byte order mark, as a character. -/
def byteOrderMark : Nat := 0xFEFF

theorem decode_byteOrderMark (rest : Bytes) :
    Utf8.decode (0xEF :: 0xBB :: 0xBF :: rest) = (Utf8.decode rest).map (byteOrderMark :: ·) := by
  simp only [Utf8.decode]
  cases decoded : Utf8.decodeFrom .start rest <;>
    simp [Utf8.decodeFrom, Utf8.step, decoded, byteOrderMark]

theorem detectEncoding_utf8Sig {raw : Bytes} (detected : detectEncoding raw = .utf8Sig) :
    raw = 0xEF :: 0xBB :: 0xBF :: raw.drop 3 := by
  unfold detectEncoding at detected
  split_ifs at detected with other marked
  conv_lhs => rw [← List.take_append_drop 3 raw, marked]
  rfl

/-- A body is its text, or the mark and its text. -/
theorem decodeText_mark {raw : Bytes} {text : List Nat} (decoded : decodeText raw = some text) :
    ∃ mark, (mark = [] ∨ mark = [byteOrderMark]) ∧ Utf8.decode raw = some (mark ++ text) := by
  unfold decodeText at decoded
  split at decoded
  · exact ⟨[], .inl rfl, decoded⟩
  · rename_i detected
    refine ⟨[byteOrderMark], .inr rfl, ?_⟩
    rw [detectEncoding_utf8Sig detected, decode_byteOrderMark, decoded]
    rfl
  · cases decoded

theorem isObject_head {text : List Nat} (object : JsonText.isObject text) :
    ∀ c ∈ text.head?, ¬ JsonText.isDigit c := by
  intro c first digit
  simp only [JsonText.isObject, Bool.and_eq_true, beq_iff_eq] at object
  cases text with
  | nil => cases first
  | cons d rest =>
    cases first
    by_cases blank : JsonText.isBlank c
    · simp [JsonText.isBlank, JsonText.isDigit] at blank digit
      omega
    · have brace : c = '\x7b'.toNat := by simpa [blank] using object.2
      subst brace
      revert digit
      decide

/-- No body ends in a full stop and a body of its own. -/
theorem decodeBody_not_tail {before body : Bytes} {text text' : List Nat}
    (inner : decodeBody body = some text) : decodeBody (before ++ 0x2E :: body) ≠ some text' := by
  intro outer
  obtain ⟨readInner, object⟩ := Option.filter_eq_some_iff.mp inner
  obtain ⟨readOuter, object'⟩ := Option.filter_eq_some_iff.mp outer
  obtain ⟨mark, marked, readInner⟩ := decodeText_mark readInner
  obtain ⟨mark', marked', readOuter⟩ := decodeText_mark readOuter
  obtain ⟨first, second, -, readTail, whole⟩ := Utf8.decodeFrom_cut (by decide) readOuter
  cases readInner.symm.trans readTail
  have plain : ∀ c ∈ mark, JsonText.isPlain c := by
    rcases marked with rfl | rfl <;> decide
  have notDigit : ∀ c ∈ (mark ++ text).head?, ¬ JsonText.isDigit c := by
    rcases marked with rfl | rfl
    · exact isObject_head object
    · intro c head
      cases head
      decide
  have nested : ∃ before', text' = before' ++ '.'.toNat :: (mark ++ text) := by
    rcases marked' with rfl | rfl
    · exact ⟨first, whole⟩
    · cases first with
      | nil => cases whole
      | cons c rest => exact ⟨rest, (List.cons.inj whole).2⟩
  obtain ⟨before', rfl⟩ := nested
  simp only [JsonText.isObject, Bool.and_eq_true] at object object'
  exact JsonText.not_accepts_stop plain notDigit object.1 object'.1

/-- Two ways to cut one text at a full stop. -/
theorem cut_cases {before before' body body' : Bytes}
    (same : before ++ 0x2E :: body = before' ++ 0x2E :: body') :
    body = body' ∨ (∃ middle, body = middle ++ 0x2E :: body') ∨ ∃ middle, body' = middle ++ 0x2E :: body := by
  rcases List.append_eq_append_iff.mp same with ⟨middle, -, tail⟩ | ⟨middle, -, tail⟩
  · cases middle with
    | nil => exact .inl (List.cons.inj tail).2
    | cons c rest => exact .inr (.inl ⟨rest, (List.cons.inj tail).2⟩)
  · cases middle with
    | nil => exact .inl (List.cons.inj tail).2.symm
    | cons c rest => exact .inr (.inr ⟨rest, (List.cons.inj tail).2⟩)

theorem body_of_cut {before before' body body' : Bytes} {text text' : List Nat}
    (decoded : decodeBody body = some text) (decoded' : decodeBody body' = some text')
    (same : before ++ 0x2E :: body = before' ++ 0x2E :: body') : body = body' := by
  rcases cut_cases same with equal | ⟨middle, rfl⟩ | ⟨middle, rfl⟩
  · exact equal
  · exact absurd decoded (decodeBody_not_tail decoded')
  · exact absurd decoded' (decodeBody_not_tail decoded)

theorem signedPayload_stop {adapter : Adapter} (stamped : adapter ≠ .meridian) (keyId timestampRaw : String) :
    ∃ before, ∀ body, adapter.signedPayload keyId timestampRaw body = before ++ 0x2E :: body := by
  have stop : encode "." = [0x2E] := by decide
  cases adapter with
  | northstar => exact ⟨encode timestampRaw, fun body => by simp [Adapter.signedPayload, stop]⟩
  | meridian => exact absurd rfl stamped
  | cobalt =>
    exact ⟨encode keyId ++ 0x2E :: encode timestampRaw, fun body => by simp [Adapter.signedPayload, stop]⟩

/-- A signature binds one body: of the schemes that sign a timestamp, two
deliveries of one signed text have one body, wherever the header strings put
their full stops. -/
theorem signature_binds_body (adapter : Adapter) (stamped : adapter ≠ .meridian)
    (keyId keyId' timestampRaw timestampRaw' : String) (body body' : Bytes)
    (decodes : (decodeBody body).isSome) (decodes' : (decodeBody body').isSome)
    (same : adapter.signedPayload keyId timestampRaw body = adapter.signedPayload keyId' timestampRaw' body') :
    body = body' := by
  obtain ⟨text, decoded⟩ := Option.isSome_iff_exists.mp decodes
  obtain ⟨text', decoded'⟩ := Option.isSome_iff_exists.mp decodes'
  obtain ⟨before, payload⟩ := signedPayload_stop stamped keyId timestampRaw
  obtain ⟨before', payload'⟩ := signedPayload_stop stamped keyId' timestampRaw'
  rw [payload, payload'] at same
  exact body_of_cut decoded decoded' same

/-- The stop between key and timestamp may move, the body may not. -/
theorem signature_binds_body_moved_stop :
    Adapter.cobalt.signedPayload "a.1" "2" (encode "\x7b\"n\":1.5\x7d") =
        Adapter.cobalt.signedPayload "a" "1.2" [0x7B, 0x22, 0x6E, 0x22, 0x3A, 0x31, 0x2E, 0x35, 0x7D] ∧
      encode "\x7b\"n\":1.5\x7d" = [0x7B, 0x22, 0x6E, 0x22, 0x3A, 0x31, 0x2E, 0x35, 0x7D] :=
  ⟨by decide, signature_binds_body .cobalt (by decide) "a.1" "a" "2" "1.2" _ _ (by decide) (by decide) (by decide)⟩

end IntegrationOrchestrator
