import OffloadBench.Proofs.Wire.Codec

/-! # First differences

A mismatch tells where two byte strings first differ, and there is none if and only if they agree as far
as both go. Between two frames of a layout it also names the place. In the metadata it is the one field
that owns the byte, and what was decoded from this field differs, unless it is the reserved one. In the
payload it is the first element in which the packets differ, with its words and the least significant of
its bytes in which these differ.

The words that a mismatch shows are those of the decoded payloads: a word is read off a frame at its
offset, a payload is cut into words from its start, and both come to the same.
-/
namespace OffloadBench.Wire

structure DifferFirst {α : Type _} (expected actual : List α) (i : Nat) (e a : α) : Prop where
  expected_eq : expected[i]? = some e
  actual_eq : actual[i]? = some a
  ne : e ≠ a
  before : ∀ j < i, expected[j]? = actual[j]?

theorem DifferFirst.cons {α : Type _} {expected actual : List α} {i : Nat} {e a : α}
    (h : DifferFirst expected actual i e a) (shared : α) :
    DifferFirst (shared :: expected) (shared :: actual) (i + 1) e a where
  expected_eq := h.expected_eq
  actual_eq := h.actual_eq
  ne := h.ne
  before
    | 0, _ => rfl
    | j + 1, hj => h.before j (Nat.lt_of_succ_lt_succ hj)

theorem firstDifference_eq_none_iff (expected actual : Bytes) (offset : Nat) :
    firstDifference offset expected actual = none ↔
      ∀ (i : Nat) e a, expected[i]? = some e → actual[i]? = some a → e = a := by
  induction expected generalizing offset actual with
  | nil => simp [firstDifference]
  | cons b expected ih =>
    cases actual with
    | nil => simp [firstDifference]
    | cons b' actual =>
      rw [firstDifference]
      split
      · rename_i hsame
        rw [ih]
        constructor
        · intro h i e a he ha
          cases i with
          | zero =>
            cases he
            cases ha
            exact hsame
          | succ i => exact h i e a he ha
        · intro h i e a he ha
          exact h (i + 1) e a he ha
      · rename_i hdifferent
        constructor
        · intro h
          cases h
        · intro h
          exact absurd (h 0 b b' rfl rfl) hdifferent

theorem firstDifference_sound {expected actual : Bytes} {offset i : Nat} {e a : UInt8}
    (h : firstDifference offset expected actual = some (i, e, a)) :
    ∃ k, i = offset + k ∧ DifferFirst expected actual k e a := by
  induction expected generalizing offset actual with
  | nil => simp [firstDifference] at h
  | cons b expected ih =>
    cases actual with
    | nil => simp [firstDifference] at h
    | cons b' actual =>
      rw [firstDifference] at h
      split at h
      · rename_i hsame
        obtain ⟨k, rfl, hk⟩ := ih h
        exact ⟨k + 1, by omega, hsame ▸ hk.cons b⟩
      · rename_i hdifferent
        cases h
        exact ⟨0, rfl, rfl, rfl, hdifferent, fun j hj => absurd hj (Nat.not_lt_zero j)⟩

theorem firstMismatch_sound {expected actual : Bytes} {m : Mismatch}
    (h : firstMismatch expected actual = some m) :
    DifferFirst expected actual m.offset m.expected m.actual ∧
      m.region = .ofOffset expected actual m.offset := by
  obtain ⟨⟨i, e, a⟩, hfirst, rfl⟩ := Option.map_eq_some_iff.1 h
  obtain ⟨k, hk, hdiffer⟩ := firstDifference_sound hfirst
  rw [Nat.zero_add] at hk
  exact ⟨hk ▸ hdiffer, rfl⟩

section Words

theorem wordAt_eq (frame : Bytes) (start : Nat) :
    wordAt frame start = wordOf (frame.getD start 0) (frame.getD (start + 1) 0)
      (frame.getD (start + 2) 0) (frame.getD (start + 3) 0) := by
  simp [wordAt, List.getD_eq_getElem?_getD, List.getElem?_drop]

theorem wordAt_drop (frame : Bytes) (skipped start : Nat) :
    wordAt (frame.drop skipped) start = wordAt frame (skipped + start) := by
  rw [wordAt, List.drop_drop]
  rfl

theorem getElem?_payloadOf (body : Bytes) (k : Nat) :
    (payloadOf body)[k]? =
      if 4 * k + 4 ≤ body.length then some (wordAt body (4 * k)) else none := by
  induction k generalizing body with
  | zero =>
    match body with
    | [] | [_] | [_, _] | [_, _, _] => rfl
    | _ :: _ :: _ :: _ :: rest => simp [payloadOf, wordAt]
  | succ k ih =>
    match body with
    | [] | [_] | [_, _] | [_, _, _] => simp [payloadOf]
    | a :: b :: c :: d :: rest =>
      have hword : wordAt (a :: b :: c :: d :: rest) (4 * (k + 1)) = wordAt rest (4 * k) := rfl
      rw [payloadOf, List.getElem?_cons_succ, ih rest, hword]
      simp only [List.length_cons]
      congr 1
      exact propext (by omega)

theorem byte_wordAt (frame : Bytes) (start : Nat) {byte : Nat} (h : byte < 4) :
    (wordAt frame start).toNat / 256 ^ byte % 256 = (frame.getD (start + byte) 0).toNat := by
  have h0 := (frame.getD start 0).toNat_lt
  have h1 := (frame.getD (start + 1) 0).toNat_lt
  have h2 := (frame.getD (start + 2) 0).toNat_lt
  have h3 := (frame.getD (start + 3) 0).toNat_lt
  rw [wordAt_eq, toNat_wordOf]
  match byte, h with
  | 0, _ =>
    rw [Nat.pow_zero, Nat.div_one, Nat.add_zero start]
    omega
  | 1, _ => omega
  | 2, _ => omega
  | 3, _ => omega

theorem wordAt_mod_congr {expected actual : Bytes} {start byte : Nat} (hbyte : byte ≤ 4)
    (h : ∀ r < byte, expected.getD (start + r) 0 = actual.getD (start + r) 0) :
    (wordAt expected start).toNat % 256 ^ byte = (wordAt actual start).toNat % 256 ^ byte := by
  induction byte with
  | zero => rw [Nat.pow_zero, Nat.mod_one, Nat.mod_one]
  | succ byte ih =>
    have hlow := ih (Nat.le_of_succ_le hbyte) fun r hr => h r (Nat.lt_succ_of_lt hr)
    rw [Nat.mod_pow_succ, Nat.mod_pow_succ, hlow, byte_wordAt _ _ hbyte, byte_wordAt _ _ hbyte,
      h byte (Nat.lt_succ_self byte)]

theorem wordAt_congr {expected actual : Bytes} {start : Nat}
    (h : ∀ r < 4, expected.getD (start + r) 0 = actual.getD (start + r) 0) :
    wordAt expected start = wordAt actual start := by
  have hmod := wordAt_mod_congr (Nat.le_refl 4) h
  have he := (wordAt expected start).toNat_lt
  have ha := (wordAt actual start).toNat_lt
  apply UInt32.toNat_inj.1
  omega

end Words

section Payloads
variable {expected actual : Bytes} {offset : Nat} {e a : UInt8}

theorem DifferFirst.getD_before (h : DifferFirst expected actual offset e a) {j : Nat}
    (hj : j < offset) : expected.getD j 0 = actual.getD j 0 := by
  rw [List.getD_eq_getElem?_getD, List.getD_eq_getElem?_getD, h.before j hj]

theorem DifferFirst.getD_ne (h : DifferFirst expected actual offset e a) :
    expected.getD offset 0 ≠ actual.getD offset 0 := by
  rw [List.getD_eq_getElem?_getD, List.getD_eq_getElem?_getD, h.expected_eq, h.actual_eq]
  exact h.ne

theorem DifferFirst.lt_length (h : DifferFirst expected actual offset e a) :
    offset < expected.length := (List.getElem?_eq_some_iff.1 h.expected_eq).1

/-- Two words have the same bytes below a byte, counted from the least significant one, and not the
same byte there. -/
def DifferFromByte (expected actual : UInt32) (byte : Nat) : Prop :=
  expected.toNat % 256 ^ byte = actual.toNat % 256 ^ byte ∧
    expected.toNat / 256 ^ byte % 256 ≠ actual.toNat / 256 ^ byte % 256

theorem DifferFromByte.ne {expected actual : UInt32} {byte : Nat}
    (h : DifferFromByte expected actual byte) : expected ≠ actual := by
  rintro rfl
  exact h.2 rfl

/-- The word that holds the first byte that differs. -/
theorem DifferFirst.word {start byte : Nat}
    (h : DifferFirst expected actual (start + byte) e a) (hbyte : byte < 4) :
    DifferFromByte (wordAt expected start) (wordAt actual start) byte := by
  constructor
  · exact wordAt_mod_congr (Nat.le_of_lt hbyte) fun r hr => h.getD_before (by omega)
  · rw [byte_wordAt _ _ hbyte, byte_wordAt _ _ hbyte]
    exact fun heq => h.getD_ne (UInt8.toNat_inj.1 heq)

/-- Frames of whole words that differ first behind the metadata have payloads that differ first in
the element of that byte. -/
theorem DifferFirst.payload {element byte : Nat}
    (h : DifferFirst expected actual (8 + (4 * element + byte)) e a) (hbyte : byte < 4)
    (hlength : expected.length = actual.length) (hwords : expected.length % 4 = 0) :
    DifferFirst (payloadOf (expected.drop 8)) (payloadOf (actual.drop 8)) element
      (wordAt expected (8 + 4 * element)) (wordAt actual (8 + 4 * element)) := by
  have hlt := h.lt_length
  have hget : ∀ frame : Bytes, frame.length = expected.length → ∀ k ≤ element,
      (payloadOf (frame.drop 8))[k]? = some (wordAt frame (8 + 4 * k)) := by
    intro frame hframe k hk
    rw [getElem?_payloadOf, List.length_drop, hframe, if_pos (by omega), wordAt_drop]
  refine ⟨hget _ rfl _ (Nat.le_refl _), hget _ hlength.symm _ (Nat.le_refl _), ?_, ?_⟩
  · rw [← Nat.add_assoc] at h
    exact (h.word hbyte).ne
  · intro k hk
    rw [hget _ rfl k (Nat.le_of_lt hk), hget _ hlength.symm k (Nat.le_of_lt hk)]
    exact congrArg some (wordAt_congr fun r hr => h.getD_before (by omega))

end Payloads

section Metadata

def MetadataField.places : MetadataField → List Nat
  | .collectiveId => [0, 1]
  | .collectiveType => [2]
  | .opCode => [3]
  | .reserved => [4, 5]
  | .maxLevel => [6]
  | .level => [7]

def Metadata.number? (m : Metadata) : MetadataField → Option Nat
  | .collectiveId => some m.collectiveId.toNat
  | .collectiveType => some m.collectiveType.toNat
  | .opCode => some m.opCode.toNat
  | .reserved => none
  | .maxLevel => some m.maxLevel.toNat
  | .level => some m.level.toNat

theorem MetadataField.ofOffset_eq_iff {offset : Nat} (h : offset < 8) (field : MetadataField) :
    ofOffset offset = field ↔ offset ∈ field.places := by
  revert offset
  cases field <;> decide

/-- A field is decoded from the bytes in its places, and determines them. -/
theorem Metadata.number?_ofBytes_eq_iff (expected actual : Bytes) {field : MetadataField}
    (h : field ≠ .reserved) :
    (ofBytes expected).number? field = (ofBytes actual).number? field ↔
      ∀ i ∈ field.places, expected.getD i 0 = actual.getD i 0 := by
  cases field with
  | reserved => exact absurd rfl h
  | collectiveId =>
    have h0 := (expected.getD 0 0).toNat_lt
    have h0' := (actual.getD 0 0).toNat_lt
    simp only [number?, ofBytes, toNat_halfOf, MetadataField.places, List.forall_mem_cons,
      Option.some.injEq, ← UInt8.toNat_inj]
    constructor
    · intro h
      refine ⟨?_, ?_, by simp⟩ <;> omega
    · rintro ⟨hfirst, hsecond, -⟩
      rw [hfirst, hsecond]
  | collectiveType | opCode | maxLevel | level =>
    simp [number?, ofBytes, MetadataField.places, UInt8.toNat_inj]

end Metadata

theorem Layout.frameLength_mod_four (layout : Layout) : layout.frameLength.toNat % 4 = 0 := by
  simp only [Layout.frameLength, Layout.payloadLength, UInt64.toNat_add, UInt64.toNat_mul]
  change (8 + layout.elementCount.toNat * 4 % 2 ^ 64) % 2 ^ 64 % 4 = 0
  omega

theorem DifferFirst.take_eq_iff {expected actual : Bytes} {offset : Nat} {e a : UInt8}
    (h : DifferFirst expected actual offset e a) (n : Nat) :
    expected.take n = actual.take n ↔ n ≤ offset := by
  constructor
  · intro heq
    refine Nat.le_of_not_lt fun hlt => h.ne ?_
    have hat := congrArg (·[offset]?) heq
    simp only [List.getElem?_take, if_pos hlt, h.expected_eq, h.actual_eq] at hat
    exact Option.some.inj hat
  · intro hle
    apply List.ext_getElem?
    intro j
    rw [List.getElem?_take, List.getElem?_take]
    split
    · exact h.before j (by omega)
    · rfl

/-- What a region says of two frames that differ first at an offset, with the packets they decode to. -/
theorem Region.ofOffset_spec {expected actual : Bytes} {offset : Nat} {e a : UInt8}
    (h : DifferFirst expected actual offset e a) (hlength : expected.length = actual.length)
    (hwords : expected.length % 4 = 0) :
    (offset < 8 ∧ ∃ field, Region.ofOffset expected actual offset = .metadata field ∧
        offset ∈ field.places ∧
        (field = .reserved ∨
          (Metadata.ofBytes expected).number? field ≠ (Metadata.ofBytes actual).number? field)) ∨
    (8 ≤ offset ∧ ∃ element byte word word',
        Region.ofOffset expected actual offset = .payload element byte word word' ∧
        DifferFirst (payloadOf (expected.drop 8)) (payloadOf (actual.drop 8)) element word word' ∧
        byte < 4 ∧ DifferFromByte word word' byte) := by
  by_cases hoffset : offset < 8
  · refine .inl ⟨hoffset, .ofOffset offset, if_pos hoffset, ?_, ?_⟩
    · exact (MetadataField.ofOffset_eq_iff hoffset _).1 rfl
    · by_cases hreserved : MetadataField.ofOffset offset = .reserved
      · exact .inl hreserved
      · refine .inr fun heq => h.getD_ne ?_
        exact (Metadata.number?_ofBytes_eq_iff _ _ hreserved).1 heq offset
          ((MetadataField.ofOffset_eq_iff hoffset _).1 rfl)
  · obtain ⟨element, byte, hbyte, rfl⟩ :
        ∃ element byte, byte < 4 ∧ offset = 8 + (4 * element + byte) :=
      ⟨(offset - 8) / 4, (offset - 8) % 4, Nat.mod_lt _ (by omega), by omega⟩
    have helement : (8 + (4 * element + byte) - 8) / 4 = element := by omega
    have hplace : (8 + (4 * element + byte) - 8) % 4 = byte := by omega
    refine .inr ⟨by omega, element, byte, wordAt expected (8 + 4 * element),
      wordAt actual (8 + 4 * element), ?_, h.payload hbyte hlength hwords, hbyte, ?_⟩
    · rw [Region.ofOffset, if_neg hoffset, helement, hplace]
      dsimp only
      rw [Nat.mul_comm element]
    · rw [← Nat.add_assoc] at h
      exact h.word hbyte

/-- A comparison finds nothing if and only if both byte strings agree as far as both go, and otherwise the
least place where they differ, told in terms of the frames they are. -/
theorem firstMismatch_exact (expected actual : Bytes) :
    (firstMismatch expected actual = none ↔
      ∀ (i : Nat) e a, expected[i]? = some e → actual[i]? = some a → e = a) ∧
    ∀ m, firstMismatch expected actual = some m →
      DifferFirst expected actual m.offset m.expected m.actual ∧
      ∀ layout : Layout, expected.length = layout.frameLength.toNat →
        actual.length = layout.frameLength.toNat →
        ∃ p q, layout.decode expected = .ok p ∧ layout.decode actual = .ok q ∧
          ((∃ field, m.region = .metadata field) ↔ expected.take 8 ≠ actual.take 8) ∧
          (∀ field, m.region = .metadata field → m.offset ∈ field.places ∧
            (field = .reserved ∨ p.metadata.number? field ≠ q.metadata.number? field)) ∧
          (expected.take 8 = actual.take 8 →
            ∃ element byte e a, m.region = .payload element byte e a ∧
              DifferFirst p.payload q.payload element e a ∧ byte < 4 ∧
              e.toNat % 256 ^ byte = a.toNat % 256 ^ byte ∧
              e.toNat / 256 ^ byte % 256 ≠ a.toNat / 256 ^ byte % 256) := by
  constructor
  · rw [firstMismatch, Option.map_eq_none_iff, firstDifference_eq_none_iff]
  intro m hm
  obtain ⟨hdiffer, hregion⟩ := firstMismatch_sound hm
  refine ⟨hdiffer, fun layout hexpected hactual => ?_⟩
  have hwords : expected.length % 4 = 0 := hexpected ▸ layout.frameLength_mod_four
  refine ⟨_, _, Layout.decode_of_length hexpected, Layout.decode_of_length hactual, ?_⟩
  rw [hregion, Ne, hdiffer.take_eq_iff]
  rcases Region.ofOffset_spec hdiffer (hexpected.trans hactual.symm) hwords with
    ⟨hoffset, field, hfield, hspec⟩ | ⟨hoffset, element, byte, word, word', hpayload, hspec⟩
  · rw [hfield]
    refine ⟨⟨fun _ => Nat.not_le.2 hoffset, fun _ => ⟨field, rfl⟩⟩, ?_, ?_⟩
    · intro field' hfield'
      cases hfield'
      exact hspec
    · intro hle
      exact absurd hoffset (Nat.not_lt.2 hle)
  · rw [hpayload]
    refine ⟨⟨?_, fun hlt => absurd hoffset hlt⟩, ?_, fun _ => ?_⟩
    · rintro ⟨field, hfield⟩
      cases hfield
    · intro field hfield
      cases hfield
    · exact ⟨element, byte, word, word', rfl, hspec⟩

/-- Frames that differ in the second element from its third byte on, and before that nowhere. -/
theorem firstMismatch_exact_secondElement :
    let layout : Layout := ⟨2⟩
    let expected : Bytes := [0xCD, 0xAB, 1, 5, 0, 0, 3, 2, 1, 0, 0, 0, 7, 7, 7, 7]
    let actual : Bytes := [0xCD, 0xAB, 1, 5, 0, 0, 3, 2, 1, 0, 0, 0, 7, 7, 8, 9]
    let m : Mismatch := ⟨14, 7, 8, .payload 1 2 0x07070707 0x09080707⟩
    firstMismatch expected actual = some m ∧
      expected.length = layout.frameLength.toNat ∧ actual.length = layout.frameLength.toNat ∧
      DifferFirst expected actual 14 7 8 ∧
      ∃ p q, layout.decode expected = .ok p ∧ layout.decode actual = .ok q ∧
        expected.take 8 = actual.take 8 ∧
        ∃ element byte e a, m.region = .payload element byte e a ∧
          DifferFirst p.payload q.payload element e a := by
  intro layout expected actual m
  have hm : firstMismatch expected actual = some m := by decide
  have hexpected : expected.length = layout.frameLength.toNat := by decide
  have hactual : actual.length = layout.frameLength.toNat := by decide
  have htake : expected.take 8 = actual.take 8 := by decide
  obtain ⟨hdiffer, hframes⟩ := (firstMismatch_exact expected actual).2 m hm
  obtain ⟨p, q, hp, hq, -, -, hpayload⟩ := hframes layout hexpected hactual
  obtain ⟨element, byte, e, a, hregion, hfirst, -⟩ := hpayload htake
  exact ⟨hm, hexpected, hactual, hdiffer, p, q, hp, hq, htake, element, byte, e, a, hregion, hfirst⟩

end OffloadBench.Wire
