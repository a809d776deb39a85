import OffloadBench.CommandLine.Session
import OffloadBench.Proofs.Config.Layering
import OffloadBench.Proofs.Text.Numerals

/-! # Numbers on their way into the settings

Seeds on the command line and numbers in the environment and the overrides are read by one grammar: a
text is taken exactly if, white space aside, it is the mark of a base, a plus sign or none, and digits of
that base for a number below 2 ^ 64. Keys of smaller numbers take of these texts the ones whose number
fits, and the key of the seed takes them beside its words for none. So a spelling means the same number
wherever it stands, and a word in decimal or in marked hexadecimal digits is stored as itself.

The numbers of the options go into the override layer in decimal digits. Settings are loaded exactly if
those beneath the options are, and are valid with the numbers of the options in place of their own; so
they hold each of these numbers.
-/
namespace OffloadBench.CommandLine
open Config Text

/-- A way of reading takes exactly the texts that, white space aside, spell a word below a bound, and
stores the word that they spell. -/
def Takes {σ : Type} (bound : Nat) (read? : String → σ → Option σ) (store : UInt64 → σ → σ) : Prop :=
  ∀ text s t, read? text s = some t ↔
    ∃ word : UInt64, Spells (trim text.toList) word.toNat ∧ word.toNat < bound ∧ t = store word s

section Takes

variable {σ : Type} {read? : String → σ → Option σ} {store : UInt64 → σ → σ}

theorem takes_of_below {bound : Nat}
    (hread : ∀ text s, read? text s = (below? bound text).map fun word => store word s) :
    Takes bound read? store := by
  intro text s t
  rw [hread, Option.map_eq_some_iff]
  simp only [below?_eq_some_iff, numeral_iff_spells, and_assoc, @eq_comm _ t]

theorem takes_of_numeral
    (hread : ∀ text s, read? text s = (numeral? text.toList).map fun word => store word s) :
    Takes UInt64.size read? store := by
  apply takes_of_below
  intro text s
  have hbelow : below? UInt64.size text = numeral? text.toList := by
    rw [below?]
    cases numeral? text.toList with
    | none => rfl
    | some word => exact Option.filter_some_pos (decide_eq_true word.toNat_lt)
  rw [hread, hbelow]

end Takes

theorem bind?_seed_eq_some_iff {text : String} {s t : Settings} :
    Key.bind? .seed text s = some t ↔
      (folded text ∈ ["", "none", "off"] ∧ t = { s with run := { s.run with seed := none } }) ∨
        ∃ word : UInt64, Spells (trim text.toList) word.toNat ∧ t = s.withSeed word := by
  rw [Key.bind?, Option.map_eq_some_iff]
  simp only [optional?_eq_some_iff]
  constructor
  · rintro ⟨_ | word, hread, rfl⟩
    · exact Or.inl ⟨hread, rfl⟩
    · exact Or.inr ⟨word, optional_some_iff_spells.1 hread, rfl⟩
  · rintro (⟨hread, rfl⟩ | ⟨word, hspells, rfl⟩)
    · exact ⟨none, hread, rfl⟩
    · exact ⟨some word, optional_some_iff_spells.2 hspells, rfl⟩

namespace OverrideArguments

variable (o : OverrideArguments)

def applied (s : Settings) : Settings :=
  { s with run := { s.run with
      testSets := o.sets.getD s.run.testSets
      seed := o.seed.or s.run.seed
      responseLevelOffset := o.levelOffset.getD s.run.responseLevelOffset
      dumpPackets := o.dumpPackets || s.run.dumpPackets } }

structure HeldBy (settings : Settings) : Prop where
  sets : ∀ n, o.sets = some n → settings.run.testSets = n
  seed : ∀ n, o.seed = some n → settings.run.seed = some n
  levelOffset : ∀ n, o.levelOffset = some n → settings.run.responseLevelOffset = n

theorem heldBy_applied (s : Settings) : o.HeldBy (o.applied s) := by
  constructor <;> intro n h <;> simp [applied, h]

def text? : Key → Option String
  | .testSets => o.sets.map fun n => decimal n.toNat
  | .seed => o.seed.map fun n => decimal n.toNat
  | .responseLevelOffset => o.levelOffset.map fun n => decimal n.toNat
  | .dumpPackets => if o.dumpPackets then some "true" else none
  | _ => none

theorem bound?_toList_map {α : Type} (n? : Option α) (key : Key) (text : α → String) (key' : Key) :
    bound? (n?.map fun n => (key.name, text n)).toList key'.name =
      if key' = key then n?.map text else none := by
  cases n? with
  | none => exact (ite_self none).symm
  | some n =>
    have h : bound? [(key.name, text n)] key'.name =
        if key'.name = key.name then some (text n) else none :=
      bound?_append_singleton [] (key.name, text n) key'.name
    simpa [Key.name_injective.eq_iff] using h

theorem bound?_bindings (key : Key) : bound? o.bindings key.name = o.text? key := by
  have hdump : bound? (if o.dumpPackets then [(Key.name .dumpPackets, "true")] else []) key.name =
      if key = .dumpPackets then o.text? .dumpPackets else none := by
    have h := bound?_toList_map (if o.dumpPackets then some () else none) .dumpPackets
      (fun _ => "true") key
    cases hdump : o.dumpPackets <;> simpa [text?, hdump] using h
  rw [bindings, bound?_append, bound?_append, bound?_append, hdump, bound?_toList_map,
    bound?_toList_map, bound?_toList_map]
  cases key <;> simp [text?]

theorem overlaid_applied (s : Settings) : Overlaid s (bound? o.bindings) (o.applied s) := by
  have hsets (n : UInt32) : Numeral (decimal n.toNat) n.toNat :=
    numeral_decimal (n.toNat_lt.trans (by decide))
  have hoffset (n : UInt8) : Numeral (decimal n.toNat) n.toNat :=
    numeral_decimal (n.toNat_lt.trans (by decide))
  have hdump : Truth "true" true := by
    rw [Truth]
    decide
  intro α f
  rw [bound?_bindings]
  cases f with
  | testSets =>
    cases h : o.sets <;> simp [text?, h, applied, Field.key, Field.get, Field.Denotes, hsets]
  | seed =>
    cases h : o.seed <;> simp [text?, h, applied, Field.key, Field.get, Field.Denotes, optional_decimal]
  | responseLevelOffset =>
    cases h : o.levelOffset <;> simp [text?, h, applied, Field.key, Field.get, Field.Denotes, hoffset]
  | dumpPackets =>
    cases h : o.dumpPackets <;> simp [text?, h, applied, Field.key, Field.get, Field.Denotes, hdump]
  | elementCount | maxLevel | collectiveId | collectiveType | opCode | receiveTimeout => rfl

theorem clean_bindings : Clean o.bindings := by
  have hknown : ∀ {name text : String}, (name, text) ∈ o.bindings → ∃ key : Key, key.name = name := by
    intro name text hmem
    simp only [bindings, List.mem_append, Option.mem_toList, Option.map_eq_some_iff,
      Prod.mk.injEq] at hmem
    rcases hmem with ((⟨_, _, h, -⟩ | ⟨_, _, h, -⟩) | ⟨_, _, h, -⟩) | hmem
    · exact ⟨_, h⟩
    · exact ⟨_, h⟩
    · exact ⟨_, h⟩
    · split at hmem
      · cases List.mem_singleton.1 hmem
        exact ⟨.dumpPackets, rfl⟩
      · cases hmem
  intro name text hbound
  obtain ⟨key, rfl⟩ := hknown (mem_of_bound? hbound)
  refine ⟨key, rfl, ?_⟩
  rintro α f rfl
  have h := o.overlaid_applied {} α f
  rw [hbound] at h
  exact ⟨_, h⟩

end OverrideArguments

def Surroundings.settings (s : Surroundings) : Except ConfigError Settings := do
  applyLayer (← FileLayer.settings s.file) (environmentLayer s.environment)

variable {s : Surroundings} {o : OverrideArguments}

theorem load_bindings (s : Surroundings) (o : OverrideArguments) :
    load (FileLayer.settings s.file) s.environment o.bindings =
      s.settings >>= fun under => (o.applied under).validate.map fun _ => o.applied under := by
  rw [load, Surroundings.settings, bind_assoc]
  congr 1
  funext base
  congr 1
  funext under
  obtain ⟨t, ht, hoverlaid⟩ := applyLayer_of_clean o.clean_bindings under
  obtain rfl := hoverlaid.unique (o.overlaid_applied under)
  rw [ht]
  change ((o.applied under).validate >>= fun _ => pure (o.applied under)) = _
  cases (o.applied under).validate <;> rfl

theorem loadSettings_eq_ok_iff {settings : Settings} :
    loadSettings s o = .ok settings ↔ ∃ under, s.settings = .ok under ∧
      settings = o.applied under ∧ settings.validate = .ok () := by
  have hload : loadSettings s o = .ok settings ↔
      load (FileLayer.settings s.file) s.environment o.bindings = .ok settings := by
    rw [loadSettings]
    cases load (FileLayer.settings s.file) s.environment o.bindings <;> simp
  rw [hload, load_bindings]
  cases s.settings with
  | error e =>
    refine iff_of_false ?_ ?_
    · intro h
      cases h
    · rintro ⟨_, h, -⟩
      cases h
  | ok under =>
    change (o.applied under).validate.map (fun _ => o.applied under) = .ok settings ↔ _
    constructor
    · intro h
      cases hvalid : (o.applied under).validate with
      | error e =>
        rw [hvalid] at h
        cases h
      | ok _ =>
        rw [hvalid] at h
        cases h
        exact ⟨under, rfl, rfl, hvalid⟩
    · rintro ⟨_, h, rfl, hvalid⟩
      cases h
      rw [hvalid]
      rfl

/-- A number is read by one grammar wherever it stands, and the options reach the settings unchanged. -/
theorem numbers_agree :
    Takes (2 ^ 64) (fun text g => Given.set? g .seed text) (fun word g => { g with seed := some word }) ∧
    Takes (2 ^ 64) (fun text g => Given.set? g .engineSeed text)
      (fun word g => { g with engineSeed := some word }) ∧
    Takes (2 ^ 64) (Key.bind? .elementCount) (fun word s => s.withElementCount word) ∧
    Takes (2 ^ 32) (Key.bind? .testSets) (fun word s => s.withTestSets word.toUInt32) ∧
    Takes (2 ^ 8) (Key.bind? .responseLevelOffset)
      (fun word s => s.withResponseLevelOffset word.toUInt8) ∧
    (∀ (text : String) (s t : Settings), Key.bind? .seed text s = some t ↔
      (folded text ∈ ["", "none", "off"] ∧ t = { s with run := { s.run with seed := none } }) ∨
        ∃ word : UInt64, Spells (trim text.toList) word.toNat ∧ t = s.withSeed word) ∧
    (∀ word : UInt64, ∀ text ∈ [decimal word.toNat, hexMarked word.toNat],
      (∀ g : Given, g.set? .seed text = some { g with seed := some word }) ∧
      (∀ s : Settings, Key.bind? .elementCount text s = some (s.withElementCount word)) ∧
      ∀ s : Settings, Key.bind? .seed text s = some (s.withSeed word)) ∧
    ∀ (s : Surroundings) (o : OverrideArguments) (settings : Settings),
      (loadSettings s o = .ok settings ↔ ∃ under, s.settings = .ok under ∧
        settings = o.applied under ∧ settings.validate = .ok ()) ∧
      (loadSettings s o = .ok settings → o.HeldBy settings) := by
  have hseed : Takes (2 ^ 64) (fun text g => Given.set? g .seed text)
      (fun word g => { g with seed := some word }) :=
    takes_of_numeral fun _ _ => rfl
  have hplain : Takes (2 ^ 64) (Key.bind? .elementCount) (fun word s => s.withElementCount word) :=
    takes_of_numeral fun _ _ => rfl
  refine ⟨hseed, takes_of_numeral fun _ _ => rfl, hplain, takes_of_below fun _ _ => rfl,
    takes_of_below fun _ _ => rfl, fun _ _ _ => bind?_seed_eq_some_iff, ?spelled, ?loaded⟩
  case spelled =>
    intro word text htext
    have hspells : Spells (trim text.toList) word.toNat := by
      rcases List.mem_pair.1 htext with rfl | rfl
      · exact (Spells.decimal _).trimmed
      · exact (Spells.hexMarked _).trimmed
    exact ⟨fun g => (hseed text g _).2 ⟨word, hspells, word.toNat_lt, rfl⟩,
      fun s => (hplain text s _).2 ⟨word, hspells, word.toNat_lt, rfl⟩,
      fun s => bind?_seed_eq_some_iff.2 (Or.inr ⟨word, hspells, rfl⟩)⟩
  case loaded =>
    intro s o settings
    refine ⟨loadSettings_eq_ok_iff, ?_⟩
    intro h
    obtain ⟨under, -, rfl, -⟩ := loadSettings_eq_ok_iff.1 h
    exact o.heldBy_applied under

namespace Sample

def text : String := " 0X+fF "

def surroundings : Surroundings where
  environment := [("RDHARNESS_RUN_SEED", " 0X+fF "), ("RDHARNESS_RUN_TEST_SETS", "4")]

def overrides : OverrideArguments where
  sets := some 7
  seed := some 18446744073709551615

end Sample

theorem numbers_agree_sample :
    (∃ word : UInt64, Spells (trim Sample.text.toList) word.toNat ∧
      Given.set? {} .seed Sample.text = some { seed := some word } ∧
      Key.bind? .elementCount Sample.text {} = some (Settings.withElementCount {} word)) ∧
    Given.set? {} .seed (hexMarked (18446744073709551615 : UInt64).toNat) =
      some { seed := some 18446744073709551615 } ∧
    ∃ settings, loadSettings Sample.surroundings Sample.overrides = .ok settings ∧
      Sample.overrides.HeldBy settings ∧ settings.run.seed = some 18446744073709551615 := by
  obtain ⟨hoption, -, hplain, -, -, -, hspelled, hloaded⟩ := numbers_agree
  have hread : Given.set? {} .seed Sample.text = some { seed := some 255 } := by rfl
  obtain ⟨word, hspells, hlt, hword⟩ := (hoption Sample.text {} _).1 hread
  have hload : loadSettings Sample.surroundings Sample.overrides =
      .ok { run := { testSets := 7, seed := some 18446744073709551615 } } := by
    have h : load (.ok {}) Sample.surroundings.environment Sample.overrides.bindings =
        .ok { run := { testSets := 7, seed := some 18446744073709551615 } } := by
      decide +kernel
    have hfile : FileLayer.settings Sample.surroundings.file = .ok {} := rfl
    rw [loadSettings, hfile, h]
  refine ⟨⟨word, hspells, hread.trans (congrArg some hword), ?_⟩, ?_, _, hload, ?_, rfl⟩
  · exact (hplain Sample.text {} _).2 ⟨word, hspells, hlt, rfl⟩
  · exact (hspelled 18446744073709551615 _ (List.mem_pair.2 (Or.inr rfl))).1 {}
  · exact (hloaded _ _ _).2 hload

end OffloadBench.CommandLine
