import Mathlib.Data.List.Forall2
import Mathlib.Data.List.TakeWhile
import Mathlib.Data.Nat.Digits.Defs
import OffloadBench.Text.Numeral

/-! # Numerals written and read

A text is read as a word exactly if, white space aside, it spells the number of the word: the mark of a
base, a plus sign or none, and digits of that base. The digits that a number is written in are such a
spelling, so every word in decimal or in marked hexadecimal digits reads back as itself. Letter case and
zeros in front aside, a number is written in one way.
-/
namespace OffloadBench.Text

def IsDigit (base : Nat) (c : Char) (value : Nat) : Prop :=
  value < base ∧ (c = Nat.digitChar value ∨ c = (Nat.digitChar value).toUpper)

/-- The digits of a number, the greatest first. Zeros may stand in front of them. -/
def Writes (base : Nat) (text : List Char) (n : Nat) : Prop :=
  text ≠ [] ∧ ∃ values, List.Forall₂ (IsDigit base) text values ∧
    Nat.ofDigits base values.reverse = n

inductive Mark : Nat → List Char → Prop
  | decimal : Mark 10 []
  | hex : Mark 16 ['0', 'x']
  | hexUpper : Mark 16 ['0', 'X']

inductive Sign : List Char → Prop
  | omitted : Sign []
  | plus : Sign ['+']

/-- The grammar of numerals: the mark of a base, a plus sign or none, and digits of the base. -/
inductive Spells : List Char → Nat → Prop
  | intro {base n : Nat} {mark sign digits : List Char} (hmark : Mark base mark) (hsign : Sign sign)
    (hdigits : Writes base digits n) : Spells (mark ++ (sign ++ digits)) n

variable {base : Nat}

theorem digitValue?_eq_filter (hmost : base ≤ 16) (c : Char) :
    digitValue? base c = (digitValue? 16 c).filter (· < base) := by
  unfold digitValue?
  simp only [Option.filter]
  split_ifs <;> simp_all <;> omega

theorem lt_of_digitValue? {c : Char} {value : Nat} (h : digitValue? 16 c = some value) :
    c.toNat < 128 := by
  have hle : ∀ a b : Char, a ≤ b ↔ a.toNat ≤ b.toNat := fun a b => UInt32.le_iff_toNat_le
  unfold digitValue? at h
  simp only [hle, Char.reduceToNat] at h
  split_ifs at h <;> omega

theorem digitValue?_eq_some_iff (hmost : base ≤ 16) {c : Char} {value : Nat} :
    digitValue? base c = some value ↔ IsDigit base c value := by
  have hletters : ∀ digit < 16, digitValue? 16 (Nat.digitChar digit) = some digit ∧
      digitValue? 16 (Nat.digitChar digit).toUpper = some digit := by decide
  have hvalues : ∀ n < 128, ∀ digit ∈ digitValue? 16 (Char.ofNat n),
      Char.ofNat n = Nat.digitChar digit ∨ Char.ofNat n = (Nat.digitChar digit).toUpper := by
    decide +kernel
  rw [digitValue?_eq_filter hmost, Option.filter_eq_some_iff, decide_eq_true_iff, IsDigit, and_comm]
  refine and_congr_right fun hlt => ⟨fun h => ?_, ?_⟩
  · have hchar := hvalues c.toNat (lt_of_digitValue? h) value
    rw [Char.ofNat_toNat] at hchar
    exact hchar h
  · rintro (rfl | rfl)
    · exact (hletters value (by omega)).1
    · exact (hletters value (by omega)).2

theorem digitsFrom?_eq_some_iff (hmost : base ≤ 16) {value n : Nat} {text : List Char} :
    digitsFrom? base value text = some n ↔ ∃ values, List.Forall₂ (IsDigit base) text values ∧
      Nat.ofDigits base values.reverse + base ^ values.length * value = n := by
  induction text generalizing value with
  | nil => simp [digitsFrom?, List.forall₂_nil_left_iff]
  | cons c text ih =>
    have hstep : digitsFrom? base value (c :: text) = some n ↔
        ∃ digit, IsDigit base c digit ∧ digitsFrom? base (value * base + digit) text = some n := by
      simp only [← digitValue?_eq_some_iff hmost]
      rw [digitsFrom?]
      cases digitValue? base c with
      | none => simp
      | some digit => simp
    have hvalue : ∀ (digit : Nat) (values : List Nat),
        Nat.ofDigits base (digit :: values).reverse + base ^ (digit :: values).length * value =
          Nat.ofDigits base values.reverse + base ^ values.length * (value * base + digit) := by
      intro digit values
      rw [List.reverse_cons, Nat.ofDigits_append, Nat.ofDigits_singleton, List.length_reverse,
        List.length_cons, Nat.pow_succ]
      ring
    rw [hstep]
    constructor
    · rintro ⟨digit, hdigit, h⟩
      obtain ⟨values, hvalues, hn⟩ := ih.1 h
      exact ⟨digit :: values, .cons hdigit hvalues, (hvalue digit values).trans hn⟩
    · rintro ⟨_, hvalues, hn⟩
      cases hvalues with
      | cons hdigit hvalues =>
        exact ⟨_, hdigit, ih.2 ⟨_, hvalues, (hvalue _ _).symm.trans hn⟩⟩

theorem digits?_eq_some_iff (hmost : base ≤ 16) {text : List Char} {n : Nat} :
    digits? base text = some n ↔ Writes base text n := by
  cases text with
  | nil => exact iff_of_false (by simp [digits?]) fun h => h.1 rfl
  | cons c text =>
    rw [digits?, digitsFrom?_eq_some_iff hmost, Writes]
    · simp
    · simp

theorem unsigned?_eq_some_iff (hmost : base ≤ 16) {bound n : Nat} {text : List Char} :
    unsigned? base bound text = some n ↔
      n < bound ∧ ∃ sign digits, Sign sign ∧ Writes base digits n ∧ text = sign ++ digits := by
  have hplus : ∀ {digits : List Char}, Writes base digits n → ∀ rest, digits ≠ '+' :: rest := by
    intro digits hdigits rest h
    rw [h, ← digits?_eq_some_iff hmost] at hdigits
    have hsign : digitValue? base '+' = none := by simp [digitValue?]
    simp [digits?, digitsFrom?, hsign] at hdigits
  unfold unsigned?
  rw [Option.filter_eq_some_iff, digits?_eq_some_iff hmost, decide_eq_true_iff, and_comm]
  refine and_congr_right fun _ => ⟨fun h => ?_, ?_⟩
  · split at h
    · exact ⟨_, _, .plus, h, rfl⟩
    · exact ⟨_, _, .omitted, h, rfl⟩
  · rintro ⟨_, digits, hsign, hdigits, rfl⟩
    cases hsign with
    | plus => exact hdigits
    | omitted =>
      split
      · rename_i hfirst
        exact absurd hfirst (hplus hdigits _)
      · exact hdigits

/-- A decimal numeral does not begin like a marked one. -/
theorem not_marked_of_writes {n : Nat} {sign digits rest : List Char} {c : Char} (hsign : Sign sign)
    (hdigits : Writes 10 digits n) (hc : digitValue? 10 c = none) :
    sign ++ digits ≠ '0' :: c :: rest := by
  intro h
  have hread : unsigned? 10 (n + 1) ('0' :: c :: rest) = some n :=
    (unsigned?_eq_some_iff (by decide)).2 ⟨n.lt_succ_self, sign, digits, hsign, hdigits, h.symm⟩
  have hzero : digitValue? 10 '0' = some 0 := by decide
  simp [unsigned?, digits?, digitsFrom?, hzero, hc] at hread

theorem spells_iff {text : List Char} {n : Nat} :
    Spells text n ↔ ∃ base mark, Mark base mark ∧
      ∃ sign digits, Sign sign ∧ Writes base digits n ∧ text = mark ++ (sign ++ digits) := by
  constructor
  · rintro ⟨hmark, hsign, hdigits⟩
    exact ⟨_, _, hmark, _, _, hsign, hdigits, rfl⟩
  · rintro ⟨_, _, hmark, _, _, hsign, hdigits, rfl⟩
    exact ⟨hmark, hsign, hdigits⟩

theorem spells_marked_iff {c : Char} {text : List Char} {n : Nat} (hmark : Mark 16 ['0', c]) :
    Spells ('0' :: c :: text) n ↔
      ∃ sign digits, Sign sign ∧ Writes 16 digits n ∧ text = sign ++ digits := by
  have hdigit : digitValue? 10 c = none := by
    cases hmark <;> decide
  rw [spells_iff]
  constructor
  · rintro ⟨_, _, hmark', sign, digits, hsign, hdigits, h⟩
    cases hmark' with
    | decimal => exact (not_marked_of_writes hsign hdigits hdigit h.symm).elim
    | hex | hexUpper =>
      simp only [List.cons_append, List.nil_append, List.cons.injEq] at h
      exact ⟨sign, digits, hsign, hdigits, h.2.2⟩
  · rintro ⟨sign, digits, hsign, hdigits, rfl⟩
    exact ⟨16, _, hmark, sign, digits, hsign, hdigits, rfl⟩

/-- The texts without blanks on either side that are read as a word are its spellings. -/
theorem numeral?_eq_some_iff_spells {text : List Char} {word : UInt64} :
    numeral? text = some word ↔ Spells (trim text) word.toNat := by
  have hword : ∀ {base : Nat} {digits : List Char}, base ≤ 16 →
      ((unsigned? base UInt64.size digits).map UInt64.ofNat = some word ↔
        ∃ sign rest, Sign sign ∧ Writes base rest word.toNat ∧ digits = sign ++ rest) := by
    intro base digits hmost
    rw [Option.map_eq_some_iff]
    constructor
    · rintro ⟨n, hn, rfl⟩
      obtain ⟨hlt, h⟩ := (unsigned?_eq_some_iff hmost).1 hn
      rwa [UInt64.toNat_ofNat_of_lt' hlt]
    · intro h
      exact ⟨_, (unsigned?_eq_some_iff hmost).2 ⟨word.toNat_lt, h⟩, UInt64.ofNat_toNat⟩
  rw [numeral?]
  split
  · rename_i digits htext
    rw [htext, spells_marked_iff .hex, hword (by decide)]
  · rename_i digits htext
    rw [htext, spells_marked_iff .hexUpper, hword (by decide)]
  · rename_i hhex hhexUpper
    rw [hword (by decide), spells_iff]
    constructor
    · rintro ⟨sign, digits, hsign, hdigits, h⟩
      exact ⟨10, _, .decimal, sign, digits, hsign, hdigits, h⟩
    · rintro ⟨_, _, hmark, sign, digits, hsign, hdigits, h⟩
      cases hmark with
      | decimal => exact ⟨sign, digits, hsign, hdigits, h⟩
      | hex => exact absurd h (hhex _)
      | hexUpper => exact absurd h (hhexUpper _)

theorem Mark.base_le {mark : List Char} (h : Mark base mark) : base ≤ 16 := by
  cases h <;> decide

theorem Mark.not_blank {mark : List Char} (h : Mark base mark) : ∀ c ∈ mark, isBlank c = false := by
  cases h <;> simp [isBlank]

theorem Sign.not_blank {sign : List Char} (h : Sign sign) : ∀ c ∈ sign, isBlank c = false := by
  cases h <;> simp [isBlank]

theorem IsDigit.not_blank (hmost : base ≤ 16) {c : Char} {value : Nat} (h : IsDigit base c value) :
    isBlank c = false := by
  have hletters : ∀ digit < 16, isBlank (Nat.digitChar digit) = false ∧
      isBlank (Nat.digitChar digit).toUpper = false := by decide
  obtain ⟨hlt, rfl | rfl⟩ := h
  · exact (hletters value (by omega)).1
  · exact (hletters value (by omega)).2

theorem Writes.isDigit {text : List Char} {n : Nat} (h : Writes base text n) :
    ∀ c ∈ text, ∃ value, IsDigit base c value := by
  obtain ⟨-, values, hvalues, -⟩ := h
  induction hvalues with
  | nil => simp
  | cons hdigit _ ih => exact List.forall_mem_cons.2 ⟨⟨_, hdigit⟩, ih⟩

theorem lt_of_forall₂ {text : List Char} {values : List Nat}
    (h : List.Forall₂ (IsDigit base) text values) : ∀ value ∈ values, value < base := by
  induction h with
  | nil => simp
  | cons hdigit _ ih => exact List.forall_mem_cons.2 ⟨hdigit.1, ih⟩

/-- Lower case letters are those of `Nat.digitChar`. -/
theorem lowerAscii_of_forall₂ (hmost : base ≤ 16) {text : List Char} {values : List Nat}
    (h : List.Forall₂ (IsDigit base) text values) : lowerAscii text = values.map Nat.digitChar := by
  have hletters : ∀ digit < 16, (Nat.digitChar digit).toLower = Nat.digitChar digit ∧
      (Nat.digitChar digit).toUpper.toLower = Nat.digitChar digit := by decide
  unfold lowerAscii
  induction h with
  | nil => rfl
  | cons hdigit _ ih =>
    obtain ⟨hlt, rfl | rfl⟩ := hdigit
    · rw [List.map_cons, List.map_cons, ih, (hletters _ (by omega)).1]
    · rw [List.map_cons, List.map_cons, ih, (hletters _ (by omega)).2]

theorem isDigit_digitChar {digit : Nat} (h : digit < base) :
    IsDigit base (Nat.digitChar digit) digit :=
  ⟨h, Or.inl rfl⟩

theorem Writes.append_digit {text : List Char} {c : Char} {n digit : Nat} (h : Writes base text n)
    (hdigit : IsDigit base c digit) : Writes base (text ++ [c]) (n * base + digit) := by
  obtain ⟨-, values, hvalues, rfl⟩ := h
  refine ⟨by simp, values ++ [digit], List.rel_append hvalues (.cons hdigit .nil), ?_⟩
  rw [List.reverse_append, List.reverse_singleton, List.singleton_append, Nat.ofDigits_cons,
    Nat.mul_comm, Nat.add_comm]

theorem writes_toDigits (hleast : 1 < base) (n : Nat) : Writes base (Nat.toDigits base n) n := by
  induction n using Nat.strongRecOn with
  | ind n ih =>
    rcases Nat.lt_or_ge n base with hlt | hge
    · rw [Nat.toDigits_of_lt_base hlt]
      exact ⟨by simp, [n], .cons (isDigit_digitChar hlt) .nil, by simp⟩
    · have hlast := (ih _ (Nat.div_lt_self (by omega) hleast)).append_digit
        (isDigit_digitChar (Nat.mod_lt n (by omega)))
      rwa [Nat.div_add_mod', ← Nat.toDigits_of_base_le hleast hge] at hlast

theorem Writes.lt_pow {text : List Char} {n : Nat} (hleast : 1 < base) (h : Writes base text n) :
    n < base ^ text.length := by
  obtain ⟨-, values, hvalues, rfl⟩ := h
  rw [hvalues.length_eq, ← List.length_reverse]
  exact Nat.ofDigits_lt_base_pow_length hleast fun value hvalue =>
    lt_of_forall₂ hvalues value (List.mem_reverse.1 hvalue)

theorem Writes.leftpad {text : List Char} {n : Nat} (hleast : 0 < base) (h : Writes base text n)
    (width : Nat) : Writes base (text.leftpad width '0') n := by
  obtain ⟨hne, values, hvalues, rfl⟩ := h
  have hzeros : ∀ k, List.Forall₂ (IsDigit base) (List.replicate k '0') (List.replicate k 0) := by
    intro k
    induction k with
    | zero => exact .nil
    | succ k ih => exact .cons (isDigit_digitChar hleast) ih
  refine ⟨by simp [List.leftpad, hne], _, List.rel_append (hzeros _) hvalues, ?_⟩
  rw [List.reverse_append, List.reverse_replicate, Nat.ofDigits_append_replicate_zero]

/-- In as many digits a number is written in one way, letter case aside. -/
theorem Writes.lower_unique {text text' : List Char} {n : Nat} (hleast : 1 < base) (hmost : base ≤ 16)
    (h : Writes base text n) (h' : Writes base text' n) (hlength : text.length = text'.length) :
    lowerAscii text = lowerAscii text' := by
  obtain ⟨-, values, hvalues, hn⟩ := h
  obtain ⟨-, values', hvalues', hn'⟩ := h'
  have hsame : values.reverse = values'.reverse := by
    apply Nat.ofDigits_inj_of_len_eq hleast
    · rw [List.length_reverse, List.length_reverse, ← hvalues.length_eq, ← hvalues'.length_eq, hlength]
    · exact fun value hvalue => lt_of_forall₂ hvalues value (List.mem_reverse.1 hvalue)
    · exact fun value hvalue => lt_of_forall₂ hvalues' value (List.mem_reverse.1 hvalue)
    · rw [hn, hn']
  rw [lowerAscii_of_forall₂ hmost hvalues, lowerAscii_of_forall₂ hmost hvalues',
    List.reverse_inj.1 hsame]

theorem lowerAscii_toDigits (hleast : 1 < base) (hmost : base ≤ 16) (n : Nat) :
    lowerAscii (Nat.toDigits base n) = Nat.toDigits base n := by
  have hlower : ∀ digit < 16, (Nat.digitChar digit).toLower = Nat.digitChar digit := by decide
  induction n using Nat.strongRecOn with
  | ind n ih =>
    rcases Nat.lt_or_ge n base with hlt | hge
    · simp [lowerAscii, Nat.toDigits_of_lt_base hlt, hlower n (by omega)]
    · have hdigit : n % base < 16 := Nat.lt_of_lt_of_le (Nat.mod_lt n (by omega)) hmost
      have hrest := ih _ (Nat.div_lt_self (by omega) hleast)
      rw [lowerAscii] at hrest
      rw [Nat.toDigits_of_base_le hleast hge, lowerAscii, List.map_append, hrest, List.map_singleton,
        hlower _ hdigit]

section Trim

variable {before text after : List Char}

theorem dropWhile_of_not_blank (h : ∀ c ∈ text, isBlank c = false) :
    text.dropWhile isBlank = text := by
  cases text with
  | nil => rfl
  | cons c text => exact List.dropWhile_cons_of_neg (by simp [h c List.mem_cons_self])

/-- White space on either side is lost, and nothing but white space. -/
theorem trim_surrounded (hbefore : ∀ c ∈ before, isBlank c = true)
    (htext : ∀ c ∈ text, isBlank c = false) (hafter : ∀ c ∈ after, isBlank c = true) :
    trim (before ++ (text ++ after)) = text := by
  have hend : trimEnd (text ++ after) = text := by
    rw [trimEnd, List.reverse_append,
      List.dropWhile_append_of_pos fun c hc => hafter c (List.mem_reverse.1 hc),
      dropWhile_of_not_blank fun c hc => htext c (List.mem_reverse.1 hc), List.reverse_reverse]
  rw [trim, trimStart, List.dropWhile_append_of_pos hbefore]
  cases text with
  | nil =>
    rw [List.nil_append, ← List.append_nil after, List.dropWhile_append_of_pos hafter]
    rfl
  | cons c text =>
    rw [List.cons_append, List.dropWhile_cons_of_neg (by simp [htext c List.mem_cons_self])]
    exact hend

theorem exists_surrounded (text : List Char) :
    ∃ before after, (∀ c ∈ before, isBlank c = true) ∧ (∀ c ∈ after, isBlank c = true) ∧
      text = before ++ (trim text ++ after) := by
  refine ⟨text.takeWhile isBlank, ((trimStart text).reverse.takeWhile isBlank).reverse,
    fun c => List.mem_takeWhile_imp, fun c hc => List.mem_takeWhile_imp (List.mem_reverse.1 hc), ?_⟩
  rw [trim, trimEnd, ← List.reverse_append, List.takeWhile_append_dropWhile, List.reverse_reverse,
    trimStart, List.takeWhile_append_dropWhile]

theorem trim_of_not_blank (h : ∀ c ∈ text, isBlank c = false) : trim text = text := by
  simpa using @trim_surrounded [] text [] (by simp) h (by simp)

end Trim

namespace Spells

variable {text : List Char} {n : Nat}

theorem not_blank (h : Spells text n) : ∀ c ∈ text, isBlank c = false := by
  obtain ⟨hmark, hsign, hdigits⟩ := h
  intro c hc
  rcases List.mem_append.1 hc with hc | hc
  · exact hmark.not_blank c hc
  · rcases List.mem_append.1 hc with hc | hc
    · exact hsign.not_blank c hc
    · obtain ⟨value, hvalue⟩ := hdigits.isDigit c hc
      exact hvalue.not_blank hmark.base_le

theorem trimmed (h : Spells text n) : Spells (trim text) n := by
  rwa [trim_of_not_blank h.not_blank]

/-- A numeral begins with a plus sign or a decimal digit, in whatever base it is. -/
theorem head_le (h : Spells text n) : ∃ c rest, text = c :: rest ∧ c ≤ '9' := by
  have hdecimal : ∀ digit < 10, Nat.digitChar digit ≤ '9' ∧ (Nat.digitChar digit).toUpper ≤ '9' := by
    decide
  obtain ⟨hmark, hsign, hdigits⟩ := h
  cases hmark with
  | hex | hexUpper => exact ⟨'0', _, rfl, by decide⟩
  | decimal =>
    cases hsign with
    | plus => exact ⟨'+', _, rfl, by decide⟩
    | omitted =>
      obtain ⟨hne, values, hvalues, -⟩ := hdigits
      cases hvalues with
      | nil => exact absurd rfl hne
      | cons hdigit _ =>
        obtain ⟨hlt, rfl | rfl⟩ := hdigit
        · exact ⟨_, _, rfl, (hdecimal _ hlt).1⟩
        · exact ⟨_, _, rfl, (hdecimal _ hlt).2⟩

theorem numeral? {word : UInt64} (h : Spells text word.toNat) : Text.numeral? text = some word :=
  numeral?_eq_some_iff_spells.2 h.trimmed

theorem decimal (n : Nat) : Spells (Text.decimal n).toList n := by
  rw [Text.decimal, String.toList_ofList]
  exact .intro .decimal .omitted (writes_toDigits (by decide) n)

theorem hexMarked (n : Nat) : Spells (Text.hexMarked n).toList n := by
  rw [Text.hexMarked, Text.hex, String.toList_append, String.toList_ofList (l := Nat.toDigits _ _)]
  exact .intro .hex .omitted (writes_toDigits (by decide) n)

end Spells

theorem numeral?_hexMarked (word : UInt64) : numeral? (hexMarked word.toNat).toList = some word :=
  (Spells.hexMarked _).numeral?

end OffloadBench.Text
