import Mathlib.Tactic.Common
import OffloadBench.Config.Key
import OffloadBench.Proofs.Text.Numerals

/-! # Fields

Each setting is a field with a key, and a text denotes at most one value of it. Binding a key to a text
gives the field of that key the value which the text denotes, leaves all other fields as they were, and
fails only if the text denotes nothing.
-/
namespace OffloadBench.Config
open Text

/-- The settings one by one, each with the type of its values. -/
inductive Field : Type → Type
  | elementCount : Field UInt64
  | maxLevel : Field UInt8
  | collectiveId : Field UInt16
  | collectiveType : Field UInt8
  | opCode : Field UInt8
  | testSets : Field UInt32
  | seed : Field (Option UInt64)
  | responseLevelOffset : Field UInt8
  | receiveTimeout : Field (Option UInt64)
  | dumpPackets : Field Bool

def Numeral (text : String) (n : Nat) : Prop :=
  ∃ word, numeral? text.toList = some word ∧ word.toNat = n

def folded (text : String) : String := String.ofList (lowerAscii (trim text.toList))

def Optional (text : String) : Option UInt64 → Prop
  | none => folded text ∈ ["", "none", "off"]
  | some n => folded text ∉ ["", "none", "off"] ∧ Numeral text n.toNat

def Truth (text : String) : Bool → Prop
  | true => folded text ∈ ["1", "true", "yes", "on"]
  | false => folded text ∈ ["0", "false", "no", "off"]

namespace Field

variable {α : Type}

def key : Field α → Key
  | elementCount => .elementCount
  | maxLevel => .maxLevel
  | collectiveId => .collectiveId
  | collectiveType => .collectiveType
  | opCode => .opCode
  | testSets => .testSets
  | seed => .seed
  | responseLevelOffset => .responseLevelOffset
  | receiveTimeout => .receiveTimeout
  | dumpPackets => .dumpPackets

def get : Field α → Settings → α
  | elementCount, s => s.packet.elementCount
  | maxLevel, s => s.packet.maxLevel
  | collectiveId, s => s.packet.collectiveId
  | collectiveType, s => s.packet.collectiveType
  | opCode, s => s.packet.opCode
  | testSets, s => s.run.testSets
  | seed, s => s.run.seed
  | responseLevelOffset, s => s.run.responseLevelOffset
  | receiveTimeout, s => s.run.receiveTimeout
  | dumpPackets, s => s.run.dumpPackets

def set : Field α → α → Settings → Settings
  | elementCount, n, s => s.withElementCount n
  | maxLevel, n, s => s.withMaxLevel n
  | collectiveId, n, s => { s with packet := { s.packet with collectiveId := n } }
  | collectiveType, n, s => { s with packet := { s.packet with collectiveType := n } }
  | opCode, n, s => { s with packet := { s.packet with opCode := n } }
  | testSets, n, s => s.withTestSets n
  | seed, v, s => { s with run := { s.run with seed := v } }
  | responseLevelOffset, n, s => s.withResponseLevelOffset n
  | receiveTimeout, v, s => { s with run := { s.run with receiveTimeout := v } }
  | dumpPackets, b, s => { s with run := { s.run with dumpPackets := b } }

/-- The value that a text stands for in a field. A number that the field cannot hold has none. -/
def Denotes : Field α → String → α → Prop
  | elementCount, text, n => Numeral text n.toNat
  | collectiveId, text, n => Numeral text n.toNat
  | testSets, text, n => Numeral text n.toNat
  | maxLevel, text, n | collectiveType, text, n | opCode, text, n
  | responseLevelOffset, text, n => Numeral text n.toNat
  | seed, text, v | receiveTimeout, text, v => Optional text v
  | dumpPackets, text, b => Truth text b

def read? : Field α → String → Option α
  | elementCount, text => numeral? text.toList
  | collectiveId, text => (below? 65536 text).map UInt64.toUInt16
  | testSets, text => (below? UInt32.size text).map UInt64.toUInt32
  | maxLevel, text | collectiveType, text | opCode, text
  | responseLevelOffset, text => (below? 256 text).map UInt64.toUInt8
  | seed, text | receiveTimeout, text => optional? text
  | dumpPackets, text => truth? text

end Field

/-- Every field of a key has a value that the text denotes. A key without a field admits any text. -/
def Key.Admits (key : Key) (text : String) : Prop :=
  ∀ (α : Type) (f : Field α), f.key = key → ∃ v, f.Denotes text v

variable {text : String}

theorem numeral?_eq_some_iff {n : UInt64} :
    numeral? text.toList = some n ↔ Numeral text n.toNat := by
  constructor
  · intro h
    exact ⟨n, h, rfl⟩
  · rintro ⟨word, hword, hn⟩
    rw [hword, UInt64.toNat_inj.1 hn]

theorem below?_eq_some_iff {bound : Nat} {n : UInt64} :
    below? bound text = some n ↔ Numeral text n.toNat ∧ n.toNat < bound := by
  rw [below?, Option.filter_eq_some_iff, numeral?_eq_some_iff, decide_eq_true_iff]

theorem optional?_eq_some_iff {v : Option UInt64} : optional? text = some v ↔ Optional text v := by
  rw [optional?, ← folded]
  split <;> cases v <;> simp_all [Optional, numeral?_eq_some_iff]

theorem truth?_eq_some_iff {v : Bool} : truth? text = some v ↔ Truth text v := by
  rw [truth?, ← folded]
  split <;> cases v <;> simp_all [Truth]

/-- A number below the bound of a smaller word is cut to that word and stays the same number. -/
theorem map_below?_eq_some_iff {β : Type} {bound : Nat} {cut : UInt64 → β} {widen : β → UInt64}
    (hlt : ∀ n, (widen n).toNat < bound) (hcut : ∀ n, cut (widen n) = n)
    (hwiden : ∀ word, word.toNat < bound → (widen (cut word)).toNat = word.toNat) {n : β} :
    (below? bound text).map cut = some n ↔ Numeral text (widen n).toNat := by
  simp only [Option.map_eq_some_iff, below?_eq_some_iff]
  constructor
  · rintro ⟨word, ⟨hword, hbound⟩, rfl⟩
    rwa [hwiden word hbound]
  · intro h
    exact ⟨widen n, ⟨h, hlt n⟩, hcut n⟩

namespace Field

variable {α β : Type}

theorem read?_eq_some_iff {f : Field α} {v : α} : f.read? text = some v ↔ f.Denotes text v := by
  cases f with
  | elementCount => exact numeral?_eq_some_iff
  | collectiveId =>
    refine map_below?_eq_some_iff UInt16.toNat_lt UInt16.toUInt16_toUInt64 ?_
    intro word hlt
    rw [UInt16.toNat_toUInt64, UInt64.toNat_toUInt16, Nat.mod_eq_of_lt hlt]
  | testSets =>
    refine map_below?_eq_some_iff UInt32.toNat_lt UInt32.toUInt32_toUInt64 ?_
    intro word hlt
    rw [UInt32.toNat_toUInt64, UInt64.toNat_toUInt32, Nat.mod_eq_of_lt hlt]
  | maxLevel | collectiveType | opCode | responseLevelOffset =>
    refine map_below?_eq_some_iff UInt8.toNat_lt UInt8.toUInt8_toUInt64 ?_
    intro word hlt
    rw [UInt8.toNat_toUInt64, UInt64.toNat_toUInt8, Nat.mod_eq_of_lt hlt]
  | seed | receiveTimeout => rw [read?, optional?_eq_some_iff, Denotes]
  | dumpPackets => rw [read?, truth?_eq_some_iff, Denotes]

theorem Denotes.unique {f : Field α} {v w : α} (hv : f.Denotes text v) (hw : f.Denotes text w) :
    v = w := by
  rw [← read?_eq_some_iff] at hv hw
  exact Option.some.inj (hv.symm.trans hw)

@[simp] theorem get_set (f : Field α) (v : α) (s : Settings) : f.get (f.set v s) = v := by
  cases f <;> rfl

theorem get_set_of_ne {f : Field α} {g : Field β} (h : g.key ≠ f.key) (v : α) (s : Settings) :
    g.get (f.set v s) = g.get s := by
  cases f <;> cases g <;> first | rfl | exact absurd rfl h

theorem bind?_key (f : Field α) (text : String) (s : Settings) :
    f.key.bind? text s = (f.read? text).map fun v => f.set v s := by
  cases f <;> simp [Key.bind?, key, read?, set, Function.comp_def]

end Field

theorem Settings.ext_fields {s t : Settings} (h : ∀ (α : Type) (f : Field α), f.get s = f.get t) :
    s = t := by
  obtain ⟨⟨⟩, ⟨⟩⟩ := s
  obtain ⟨⟨⟩, ⟨⟩⟩ := t
  rw [Settings.mk.injEq, PacketSettings.mk.injEq, RunSettings.mk.injEq]
  exact ⟨⟨h _ .elementCount, h _ .maxLevel, h _ .collectiveId, h _ .collectiveType, h _ .opCode⟩,
    h _ .testSets, h _ .seed, h _ .responseLevelOffset, h _ .receiveTimeout, h _ .dumpPackets⟩

namespace Key

theorem eq_log_or (key : Key) : key = .log ∨ ∃ (α : Type) (f : Field α), f.key = key := by
  cases key with
  | log => exact Or.inl rfl
  | elementCount => exact Or.inr ⟨_, .elementCount, rfl⟩
  | maxLevel => exact Or.inr ⟨_, .maxLevel, rfl⟩
  | collectiveId => exact Or.inr ⟨_, .collectiveId, rfl⟩
  | collectiveType => exact Or.inr ⟨_, .collectiveType, rfl⟩
  | opCode => exact Or.inr ⟨_, .opCode, rfl⟩
  | testSets => exact Or.inr ⟨_, .testSets, rfl⟩
  | seed => exact Or.inr ⟨_, .seed, rfl⟩
  | responseLevelOffset => exact Or.inr ⟨_, .responseLevelOffset, rfl⟩
  | receiveTimeout => exact Or.inr ⟨_, .receiveTimeout, rfl⟩
  | dumpPackets => exact Or.inr ⟨_, .dumpPackets, rfl⟩

variable {key : Key} {s t : Settings}

/-- What is bound to a key reaches the field of that key and no other. -/
theorem get_of_bind? (h : key.bind? text s = some t) {α : Type} (f : Field α) :
    (f.key = key → f.Denotes text (f.get t)) ∧ (f.key ≠ key → f.get t = f.get s) := by
  constructor
  · rintro rfl
    rw [Field.bind?_key, Option.map_eq_some_iff] at h
    obtain ⟨v, hv, rfl⟩ := h
    rwa [Field.get_set, ← Field.read?_eq_some_iff]
  · intro hne
    rcases key.eq_log_or with rfl | ⟨β, g, rfl⟩
    · cases h
      rfl
    · rw [Field.bind?_key, Option.map_eq_some_iff] at h
      obtain ⟨v, -, rfl⟩ := h
      exact Field.get_set_of_ne hne v s

theorem exists_bind?_iff (s : Settings) : (∃ t, key.bind? text s = some t) ↔ key.Admits text := by
  constructor
  · rintro ⟨t, h⟩ α f hf
    exact ⟨f.get t, (get_of_bind? h f).1 hf⟩
  · intro h
    rcases key.eq_log_or with rfl | ⟨α, f, rfl⟩
    · exact ⟨s, rfl⟩
    · obtain ⟨v, hv⟩ := h α f rfl
      exact ⟨f.set v s, by rw [Field.bind?_key, Field.read?_eq_some_iff.2 hv]; rfl⟩

end Key

theorem numeral_iff_spells {word : UInt64} :
    Numeral text word.toNat ↔ Spells (trim text.toList) word.toNat :=
  numeral?_eq_some_iff.symm.trans numeral?_eq_some_iff_spells

/-- The words for none begin with letters, and numerals do not. -/
theorem folded_of_spells {n : Nat} (h : Spells (trim text.toList) n) :
    folded text ∉ ["", "none", "off"] := by
  obtain ⟨c, rest, htext, hc⟩ := h.head_le
  have hlower : c.toLower = c :=
    dif_neg fun hupper => absurd (UInt32.le_trans hupper.1 hc) (by decide)
  have hhead : (folded text).toList.head?.any (· ≤ '9') = true := by
    rw [folded, htext, String.toList_ofList]
    exact decide_eq_true (hlower.symm ▸ hc)
  have hnone : ∀ keyword ∈ ["", "none", "off"], keyword.toList.head?.any (· ≤ '9') = false := by
    decide
  intro hmem
  rw [hnone _ hmem] at hhead
  cases hhead

/-- The words for none are tried first, and take no numeral away. -/
theorem optional_some_iff_spells {word : UInt64} :
    Optional text (some word) ↔ Spells (trim text.toList) word.toNat := by
  rw [Optional, numeral_iff_spells]
  exact and_iff_right_of_imp folded_of_spells

theorem numeral_decimal {n : Nat} (h : n < UInt64.size) : Numeral (decimal n) n := by
  have hword := UInt64.toNat_ofNat_of_lt' h
  refine ⟨UInt64.ofNat n, Spells.numeral? ?_, hword⟩
  rw [hword]
  exact Spells.decimal n

theorem optional_decimal (word : UInt64) : Optional (decimal word.toNat) (some word) :=
  optional_some_iff_spells.2 (Spells.decimal _).trimmed

end OffloadBench.Config
