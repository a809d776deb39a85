/-! # Bytes and words

Words stand on the wire with their least significant byte first. A payload is a list of 32-bit
words.
-/
namespace OffloadBench.Wire

abbrev Bytes := List UInt8

abbrev Payload := List UInt32

def halfBytes (half : UInt16) : Bytes :=
  [UInt8.ofNat half.toNat, UInt8.ofNat (half.toNat / 256)]

def halfOf (a b : UInt8) : UInt16 := UInt16.ofNat (a.toNat + 256 * b.toNat)

def wordBytes (word : UInt32) : Bytes :=
  [UInt8.ofNat word.toNat, UInt8.ofNat (word.toNat / 256), UInt8.ofNat (word.toNat / 65536),
    UInt8.ofNat (word.toNat / 16777216)]

def wordOf (a b c d : UInt8) : UInt32 :=
  UInt32.ofNat (a.toNat + 256 * b.toNat + 65536 * c.toNat + 16777216 * d.toNat)

theorem toNat_halfOf (a b : UInt8) : (halfOf a b).toNat = a.toNat + 256 * b.toNat := by
  have ha := a.toNat_lt
  have hb := b.toNat_lt
  rw [halfOf, UInt16.toNat_ofNat']
  omega

theorem toNat_wordOf (a b c d : UInt8) :
    (wordOf a b c d).toNat =
      a.toNat + 256 * b.toNat + 65536 * c.toNat + 16777216 * d.toNat := by
  have ha := a.toNat_lt
  have hb := b.toNat_lt
  have hc := c.toNat_lt
  have hd := d.toNat_lt
  rw [wordOf, UInt32.toNat_ofNat']
  omega

theorem halfOf_halfBytes (half : UInt16) :
    halfOf (UInt8.ofNat half.toNat) (UInt8.ofNat (half.toNat / 256)) = half := by
  have := half.toNat_lt
  apply UInt16.toNat_inj.1
  simp only [toNat_halfOf, UInt8.toNat_ofNat']
  omega

theorem wordOf_wordBytes (word : UInt32) :
    wordOf (UInt8.ofNat word.toNat) (UInt8.ofNat (word.toNat / 256))
      (UInt8.ofNat (word.toNat / 65536)) (UInt8.ofNat (word.toNat / 16777216)) = word := by
  have := word.toNat_lt
  apply UInt32.toNat_inj.1
  simp only [toNat_wordOf, UInt8.toNat_ofNat']
  omega

def payloadBytes (payload : Payload) : Bytes := payload.flatMap wordBytes

/-- The words of a byte string; up to three bytes past the last whole word are left out. -/
def payloadOf : Bytes → Payload
  | a :: b :: c :: d :: rest => wordOf a b c d :: payloadOf rest
  | _ => []

/-- Writes words over a body, four bytes to a word, as far as there are words and whole places for
them. What is left of the body stays as it was. -/
def writeWords : Payload → Bytes → Bytes
  | word :: payload, _ :: _ :: _ :: _ :: body => wordBytes word ++ writeWords payload body
  | _, body => body

theorem length_payloadBytes (payload : Payload) :
    (payloadBytes payload).length = 4 * payload.length := by
  induction payload with
  | nil => rfl
  | cons word rest ih =>
    have : payloadBytes (word :: rest) = wordBytes word ++ payloadBytes rest := rfl
    rw [this, List.length_append, ih, List.length_cons]
    simp only [wordBytes, List.length_cons, List.length_nil]
    omega

theorem payloadOf_payloadBytes (payload : Payload) :
    payloadOf (payloadBytes payload) = payload := by
  induction payload with
  | nil => rfl
  | cons word rest ih =>
    have : payloadBytes (word :: rest) = wordBytes word ++ payloadBytes rest := rfl
    rw [this]
    simp only [wordBytes, List.cons_append, List.nil_append, payloadOf, wordOf_wordBytes, ih]

/-- Words for which there are just enough places leave nothing of what stood there. -/
theorem writeWords_eq {payload : Payload} {body : Bytes} (h : body.length = 4 * payload.length) :
    writeWords payload body = payloadBytes payload := by
  induction payload generalizing body with
  | nil =>
    rw [List.length_nil, Nat.mul_zero] at h
    rw [List.length_eq_zero_iff.1 h]
    rfl
  | cons word rest ih =>
    match body, h with
    | _ :: _ :: _ :: _ :: body, h =>
      have hrest : body.length = 4 * rest.length := by
        simp only [List.length_cons] at h
        omega
      rw [writeWords, ih hrest]
      rfl

end OffloadBench.Wire
