import OffloadBench.Device.Identifier
import OffloadBench.Proofs.Text.Numerals

/-! # Spellings of device identifiers

A text is read as a device identifier exactly if it spells one: one to twelve hexadecimal digits in
either letter case, colons and dashes strewn among them, behind the mark `0x` or none and between white
space. A body of digits and separators has nothing in it that could be taken for white space or for a
mark, so what is left without these is the body.

The identifier is the number that the digits write, no bit of which is lost, and it is shown as these
digits in lower case behind zeros. So whatever is shown reads back as itself.
-/
namespace OffloadBench.Device
open Text

inductive HexMark : List Char → Prop
  | omitted : HexMark []
  | lower : HexMark ['0', 'x']
  | upper : HexMark ['0', 'X']

/-- Characters with colons and dashes strewn among them. -/
inductive Strewn : List Char → List Char → Prop
  | nil : Strewn [] []
  | keep {c : Char} {kept text : List Char} (h : Strewn kept text) : Strewn (c :: kept) (c :: text)
  | colon {kept text : List Char} (h : Strewn kept text) : Strewn kept (':' :: text)
  | dash {kept text : List Char} (h : Strewn kept text) : Strewn kept ('-' :: text)

/-- The grammar of identifiers: the digits of a text, once white space, mark and separators are gone. -/
inductive Spelling : List Char → List Char → Prop
  | intro {before mark body after digits : List Char} (hbefore : ∀ c ∈ before, isBlank c = true)
    (hmark : HexMark mark) (hbody : Strewn digits body) (hafter : ∀ c ∈ after, isBlank c = true) :
    Spelling (before ++ ((mark ++ body) ++ after)) digits

variable {text digits body : List Char} {n : Nat}

theorem HexMark.not_blank {mark : List Char} (h : HexMark mark) : ∀ c ∈ mark, isBlank c = false := by
  cases h <;> simp [isBlank]

/-- No digit is a separator or the second character of a mark. -/
theorem plain_of_isDigit {c : Char} {value : Nat} (h : IsDigit 16 c value) :
    Identifier.isSeparator c = false ∧ c ≠ 'x' ∧ c ≠ 'X' := by
  have hlower : ∀ digit < 16, Identifier.isSeparator (Nat.digitChar digit) = false ∧
      Nat.digitChar digit ≠ 'x' ∧ Nat.digitChar digit ≠ 'X' := by decide
  have hupper : ∀ digit < 16, Identifier.isSeparator (Nat.digitChar digit).toUpper = false ∧
      (Nat.digitChar digit).toUpper ≠ 'x' ∧ (Nat.digitChar digit).toUpper ≠ 'X' := by decide
  obtain ⟨hlt, rfl | rfl⟩ := h
  · exact hlower value hlt
  · exact hupper value hlt

namespace Strewn

theorem self (text : List Char) : Strewn text text := by
  induction text with
  | nil => exact .nil
  | cons c text ih => exact .keep ih

theorem filter (text : List Char) :
    Strewn (text.filter fun c => !Identifier.isSeparator c) text := by
  induction text with
  | nil => exact .nil
  | cons c text ih =>
    by_cases h : Identifier.isSeparator c = true
    · rw [List.filter_cons_of_neg (by simp [h])]
      rcases (by simpa [Identifier.isSeparator] using h : c = ':' ∨ c = '-') with rfl | rfl
      · exact .colon ih
      · exact .dash ih
    · rw [List.filter_cons_of_pos (by simp [h])]
      exact .keep ih

theorem filter_eq (h : Strewn digits body)
    (hdigits : ∀ c ∈ digits, Identifier.isSeparator c = false) :
    (body.filter fun c => !Identifier.isSeparator c) = digits := by
  induction h with
  | nil => rfl
  | @keep c _ _ _ ih =>
    have hc := hdigits c List.mem_cons_self
    rw [List.filter_cons_of_pos (by simp [hc]), ih fun c hc => hdigits c (List.mem_cons_of_mem _ hc)]
  | colon _ ih | dash _ ih =>
    rw [List.filter_cons_of_neg (by simp [Identifier.isSeparator]), ih hdigits]

theorem mem (h : Strewn digits body) : ∀ c ∈ body, c ∈ digits ∨ c = ':' ∨ c = '-' := by
  induction h with
  | nil => simp
  | keep _ ih =>
    intro c hc
    rcases List.mem_cons.1 hc with rfl | hc
    · exact .inl List.mem_cons_self
    · exact (ih c hc).imp_left (List.mem_cons_of_mem _)
  | colon _ ih | dash _ ih =>
    intro c hc
    rcases List.mem_cons.1 hc with rfl | hc
    · simp
    · exact ih c hc

end Strewn

namespace Identifier

theorem toNat_mask : mask.toNat = 2 ^ 48 - 1 := rfl

theorem lt_of_writes (hdigits : Writes 16 digits n) (hlength : digits.length ≤ 12) : n < 2 ^ 48 :=
  Nat.lt_of_lt_of_le (hdigits.lt_pow (by decide)) (Nat.pow_le_pow_right (by decide) hlength)

theorem ofRaw_of_lt {raw : UInt64} (h : raw.toNat < 2 ^ 48) : ofRaw raw = ⟨raw⟩ := by
  rw [ofRaw, Identifier.mk.injEq, ← UInt64.toNat_inj, UInt64.toNat_and, toNat_mask,
    Nat.and_two_pow_sub_one_eq_mod, Nat.mod_eq_of_lt h]

theorem exists_mark (text : List Char) : ∃ mark, HexMark mark ∧ text = mark ++ unmarked text := by
  unfold unmarked
  split
  · exact ⟨_, .lower, rfl⟩
  · exact ⟨_, .upper, rfl⟩
  · exact ⟨_, .omitted, rfl⟩

theorem unmarked_append {mark : List Char} (hmark : HexMark mark) (hbody : 'x' ∉ body ∧ 'X' ∉ body) :
    unmarked (mark ++ body) = body := by
  cases hmark with
  | lower | upper => rfl
  | omitted =>
    rw [List.nil_append]
    unfold unmarked
    split
    · simp at hbody
    · simp at hbody
    · rfl

theorem spelling_written (text : String) : Spelling text.toList (written text) := by
  obtain ⟨before, after, hbefore, hafter, htext⟩ := exists_surrounded text.toList
  obtain ⟨mark, hmark, hbody⟩ := exists_mark (trim text.toList)
  rw [hbody] at htext
  rw [htext]
  exact .intro hbefore hmark (.filter _) hafter

theorem written_of_spelling {text : String} (h : Spelling text.toList digits)
    (hdigits : Writes 16 digits n) : written text = digits := by
  generalize htext : text.toList = chars at h
  obtain @⟨before, mark, body, after, _, hbefore, hmark, hbody, hafter⟩ := h
  have hplain : ∀ c ∈ digits, isBlank c = false ∧ isSeparator c = false ∧ c ≠ 'x' ∧ c ≠ 'X' := by
    intro c hc
    obtain ⟨value, hvalue⟩ := hdigits.isDigit c hc
    exact ⟨hvalue.not_blank (by decide), plain_of_isDigit hvalue⟩
  have hchars : ∀ c ∈ body, isBlank c = false ∧ c ≠ 'x' ∧ c ≠ 'X' := by
    intro c hc
    rcases hbody.mem c hc with hc | rfl | rfl
    · exact ⟨(hplain c hc).1, (hplain c hc).2.2⟩
    · decide
    · decide
  have htrim := trim_surrounded hbefore (fun c hc => (List.mem_append.1 hc).elim (hmark.not_blank c)
    fun hc => (hchars c hc).1) hafter
  rw [written, htext, htrim, unmarked_append hmark
    ⟨fun hx => (hchars _ hx).2.1 rfl, fun hX => (hchars _ hX).2.2 rfl⟩]
  exact hbody.filter_eq fun c hc => (hplain c hc).2.1

theorem ofText?_eq_some_iff {text : String} {d : Identifier} :
    ofText? text = some d ↔ (written text).length ≤ 12 ∧ Writes 16 (written text) d.raw.toNat := by
  have hnumber : ∀ {n : Nat}, Writes 16 (written text) n → (written text).length ≤ 12 →
      ofRaw (UInt64.ofNat n) = ⟨UInt64.ofNat n⟩ ∧ (UInt64.ofNat n).toNat = n := by
    intro n hn hlength
    have hlt := lt_of_writes hn hlength
    have hword : (UInt64.ofNat n).toNat = n :=
      UInt64.toNat_ofNat_of_lt' (Nat.lt_trans hlt (by decide))
    exact ⟨ofRaw_of_lt (by rwa [hword]), hword⟩
  rw [ofText?]
  split
  · rename_i hlength
    rw [Option.map_eq_some_iff, and_iff_right hlength]
    constructor
    · rintro ⟨n, hn, rfl⟩
      have hwrites := (digits?_eq_some_iff (by decide)).1 hn
      obtain ⟨hraw, hword⟩ := hnumber hwrites hlength
      rwa [hraw, hword]
    · intro hwrites
      refine ⟨_, (digits?_eq_some_iff (by decide)).2 hwrites, ?_⟩
      rw [(hnumber hwrites hlength).1, UInt64.ofNat_toNat]
  · rename_i hlength
    simp [hlength]

theorem writes_toText {d : Identifier} (h : d.raw.toNat < 2 ^ 48) :
    Writes 16 d.toText.toList d.raw.toNat ∧ d.toText.toList.length = 12 := by
  have hlength : (Nat.toDigits 16 d.raw.toNat).length ≤ 12 :=
    (Nat.length_toDigits_le_iff (by decide) (by decide)).2 h
  rw [toText, hexPadded, String.toList_ofList, List.length_leftpad, Nat.max_eq_left hlength]
  exact ⟨(writes_toDigits (by decide) _).leftpad (by decide) 12, rfl⟩

/-- The digits that were read are shown, in lower case and behind zeros. -/
theorem toText_of_writes {d : Identifier} (hdigits : Writes 16 digits d.raw.toNat)
    (hlength : digits.length ≤ 12) :
    d.toText.toList = (lowerAscii digits).leftpad 12 '0' := by
  have hpadded : ∀ text, lowerAscii (text.leftpad 12 '0') = (lowerAscii text).leftpad 12 '0' := by
    simp [lowerAscii, List.leftpad]
  obtain ⟨hshown, htwelve⟩ := writes_toText (lt_of_writes hdigits hlength)
  have hlower : lowerAscii d.toText.toList = d.toText.toList := by
    rw [toText, hexPadded, String.toList_ofList, hpadded, lowerAscii_toDigits (by decide) (by decide)]
  rw [← hlower, ← hpadded]
  apply hshown.lower_unique (by decide) (by decide) (hdigits.leftpad (by decide) 12)
  rw [htwelve, List.length_leftpad, Nat.max_eq_left hlength]

theorem ofText?_of_spelling {text : String} {raw : UInt64} (h : Spelling text.toList digits)
    (hlength : digits.length ≤ 12) (hdigits : Writes 16 digits raw.toNat) :
    ofText? text = some ⟨raw⟩ := by
  rw [ofText?_eq_some_iff, written_of_spelling h hdigits]
  exact ⟨hlength, hdigits⟩

theorem ofText?_toText {raw : UInt64} (h : raw.toNat < 2 ^ 48) :
    ofText? (toText ⟨raw⟩) = some ⟨raw⟩ := by
  obtain ⟨hshown, hlength⟩ := writes_toText (d := ⟨raw⟩) h
  have hspelling : Spelling (toText ⟨raw⟩).toList (toText ⟨raw⟩).toList := by
    simpa using @Spelling.intro [] [] _ [] _ (by simp) .omitted (.self (toText ⟨raw⟩).toList) (by simp)
  exact ofText?_of_spelling hspelling (Nat.le_of_eq hlength) hshown

/-- A text is an identifier exactly if it spells one, and an identifier is shown as its spelling. -/
theorem spellings_exact :
    (∀ raw : UInt64, raw.toNat < 2 ^ 48 →
      (ofRaw raw).raw = raw ∧ ofText? (ofRaw raw).toText = some (ofRaw raw)) ∧
    (∀ (text : String) (digits : List Char) (raw : UInt64), Spelling text.toList digits →
      digits.length ≤ 12 → Writes 16 digits raw.toNat → ofText? text = some (ofRaw raw)) ∧
    ∀ (text : String) (d : Identifier), ofText? text = some d →
      Spelling text.toList (written text) ∧
        1 ≤ (written text).length ∧ (written text).length ≤ 12 ∧
        Writes 16 (written text) d.raw.toNat ∧ d.raw.toNat < 2 ^ 48 ∧
        d.toText.toList = (lowerAscii (written text)).leftpad 12 '0' := by
  refine ⟨fun raw hraw => ?_, fun text digits raw htext hlength hdigits => ?_, fun text d h => ?_⟩
  · rw [ofRaw_of_lt hraw]
    exact ⟨rfl, ofText?_toText hraw⟩
  · rw [ofRaw_of_lt (lt_of_writes hdigits hlength)]
    exact ofText?_of_spelling htext hlength hdigits
  · obtain ⟨hlength, hdigits⟩ := ofText?_eq_some_iff.1 h
    exact ⟨spelling_written text, List.length_pos_iff.2 hdigits.1, hlength, hdigits,
      lt_of_writes hdigits hlength, toText_of_writes hdigits hlength⟩

/-- Both cases, both separators and a mark, between white space. -/
theorem spellings_exact_mixed :
    Spelling "\t0Xa:-B0c- ".toList ['a', 'B', '0', 'c'] ∧ Writes 16 ['a', 'B', '0', 'c'] 0xAB0C ∧
      ofText? "\t0Xa:-B0c- " = some (ofRaw 0xAB0C) ∧ (ofRaw 0xAB0C).toText = "00000000ab0c" ∧
      ofText? "00000000ab0c" = some (ofRaw 0xAB0C) := by
  obtain ⟨hshown, hspelled, hread⟩ := spellings_exact
  have hspelling : Spelling "\t0Xa:-B0c- ".toList ['a', 'B', '0', 'c'] :=
    @Spelling.intro ['\t'] ['0', 'X'] ['a', ':', '-', 'B', '0', 'c', '-'] [' '] _
      (by simp [isBlank]) .upper (.keep (.colon (.dash (.keep (.keep (.keep (.dash .nil)))))))
      (by simp [isBlank])
  have hdigits : Writes 16 ['a', 'B', '0', 'c'] 0xAB0C :=
    (digits?_eq_some_iff (by decide)).1 (by decide)
  have htext := hspelled _ _ 0xAB0C hspelling (by decide) hdigits
  have hwritten : written "\t0Xa:-B0c- " = ['a', 'B', '0', 'c'] := written_of_spelling hspelling hdigits
  have hlower : (ofRaw 0xAB0C).toText = "00000000ab0c" := by
    rw [← String.toList_inj, (hread _ _ htext).2.2.2.2.2, hwritten]
    decide
  refine ⟨hspelling, hdigits, htext, hlower, ?_⟩
  rw [← hlower]
  exact (hshown 0xAB0C (by decide)).2

end Identifier

end OffloadBench.Device
