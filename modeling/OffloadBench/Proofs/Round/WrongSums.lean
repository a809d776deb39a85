import OffloadBench.Proofs.Round.Prepared
import OffloadBench.Proofs.Stimulus.LevelSums

/-! # Wrong sums

A frame is verified only with the running sum of the level it is taken for, and the sums do not depend on
the order that was drawn. No two levels share a running sum, and no other set of levels adds up to one:
with two words or more to a payload whatever the set of levels, with one word as long as fewer than eight
levels are missing or too many. So a device that answers with another level's sum or that leaves out,
adds or swaps levels is refused.
-/
namespace OffloadBench.Round
open Config Draw Stimulus Wire

variable {s : Settings} {set : UInt32} {levels : Finset Nat}

theorem runningSums?_inputs (s : Settings) (set : UInt32) (g : Generator) :
    runningSums? (s.inputs set) = some (prepared s set g).sums :=
  (prepared s set g).runningSums_inputs

theorem getD_sums_eq_sumOver (set : UInt32) (g : Generator) {i : Nat}
    (hi : i < s.packet.levelCount) : (prepared s set g).sums.getD i [] =
      sumOver (s.inputs set) s.packet.elementCount.toNat (Finset.range (i + 1)) := by
  rw [getD_sums_prepared set g hi, sumOver_range]
  rfl

/-- A payload is the running sum of a level only as the sum of that level and all lower ones. -/
theorem eq_range_of_sumOver_eq (hs : s.Bounded) (g : Generator) {i : Nat}
    (hi : i < s.packet.levelCount) (hlevels : levels ⊆ Finset.range s.packet.levelCount)
    (htells : s.TellsCounts levels.card (i + 1))
    (h : sumOver (s.inputs set) s.packet.elementCount.toNat levels =
      (prepared s set g).sums.getD i []) : levels = Finset.range (i + 1) := by
  rw [getD_sums_eq_sumOver set g hi] at h
  apply Settings.eq_range_of_sums_eq hs set hi hlevels htells
  intro e he
  rw [← getD_sumOver levels he, h, getD_sumOver _ he]

/-- A wrong sum differs from the running sum of a level in some word. -/
theorem exists_sum_ne_entry (hs : s.Bounded) (g : Generator) {i : Nat}
    (hi : i < s.packet.levelCount) (hlevels : levels ⊆ Finset.range s.packet.levelCount)
    (htells : s.TellsCounts levels.card (i + 1)) (hne : levels ≠ Finset.range (i + 1)) :
    ∃ e < s.packet.elementCount.toNat,
      ∑ l ∈ levels, entry (s.inputs set) l e ≠ entry (prepared s set g).sums i e := by
  by_contra hall
  push Not at hall
  refine hne (Settings.eq_range_of_sums_eq hs set hi hlevels htells ?_)
  intro e he
  rw [hall e he, entry, getD_sums_eq_sumOver set g hi, getD_sumOver _ he]

/-- Whatever is verified carries the running sum of the level it is verified as. -/
theorem payloadOf_of_accept (hs : s.Bounded) (g : Generator) {offset : UInt8} {r r' : Reception}
    {frame : Bytes} {v : Verified} (h : accept (prepared s set g) offset r frame = (.ok v, r')) :
    v.index.toNat < s.packet.levelCount ∧
      payloadOf (frame.drop 8) = (prepared s set g).sums.getD v.index.toNat [] := by
  obtain ⟨hexamine, -⟩ := accept_eq_ok h
  obtain ⟨index, hlt, -, -, rfl, rfl⟩ :=
    owed_of_examine_ok (wellPosed_prepared hs set g).fits hexamine
  rw [levelCount_prepared] at hlt
  exact ⟨hlt, TestSet.payloadOf_owed _ _ _⟩

/-- The running sum of a level differs from that of any other level and from the sum over any other set of
levels, so a frame that is verified carries no such sum. -/
theorem runningSums_expose (s : Settings) (hvalid : s.validate = .ok ()) (set : UInt32) :
    ∃ chain, runningSums? (s.inputs set) = some chain ∧ chain.length = s.packet.levelCount ∧
      (∀ i < s.packet.levelCount, ∀ j < s.packet.levelCount, j ≠ i →
        chain.getD i [] ≠ chain.getD j []) ∧
      (∀ i < s.packet.levelCount, ∀ levels ⊆ Finset.range s.packet.levelCount,
        s.TellsCounts levels.card (i + 1) → levels ≠ Finset.range (i + 1) →
          ∃ e < s.packet.elementCount.toNat,
            ∑ l ∈ levels, entry (s.inputs set) l e ≠ entry chain i e) ∧
      ∀ g offset r frame v r', accept (prepared s set g) offset r frame = (.ok v, r') →
        (∀ j < s.packet.levelCount, payloadOf (frame.drop 8) = chain.getD j [] →
          v.index.toNat = j) ∧
        ∀ levels ⊆ Finset.range s.packet.levelCount,
          s.TellsCounts levels.card (v.index.toNat + 1) →
            payloadOf (frame.drop 8) =
                sumOver (s.inputs set) s.packet.elementCount.toNat levels →
              levels = Finset.range (v.index.toNat + 1) := by
  have hs := Settings.bounded_of_valid hvalid
  refine ⟨_, runningSums?_inputs s set (.ofSeed 0), ?_, ?_, ?_, ?_⟩
  · rw [TestSet.length_sums, levelCount_prepared]
  · intro i hi j hj hne heq
    exact hne (sums_getD_injective hs set _ hi hj heq).symm
  · intro i hi levels hlevels htells hne
    exact exists_sum_ne_entry hs _ hi hlevels htells hne
  · intro g offset r frame v r' haccept
    obtain ⟨hlt, hpayload⟩ := payloadOf_of_accept hs g haccept
    have hsums : (prepared s set (.ofSeed 0)).sums = (prepared s set g).sums :=
      Option.some.inj ((runningSums?_inputs s set _).symm.trans (runningSums?_inputs s set g))
    rw [hsums, hpayload]
    constructor
    · intro j hj heq
      exact sums_getD_injective hs set g hlt hj heq
    · intro levels hlevels htells heq
      exact eq_range_of_sumOver_eq hs g hlt hlevels htells heq.symm

def fourLevels : Settings where
  packet := { elementCount := 2, maxLevel := 3 }

theorem runningSums_expose_fourLevels :
    fourLevels.validate = .ok () ∧
      ∃ chain, runningSums? (fourLevels.inputs 4294967295) = some chain ∧
        chain.getD 1 [] ≠ chain.getD 3 [] ∧
        (∃ e < 2, ∑ l ∈ {0, 2}, entry (fourLevels.inputs 4294967295) l e ≠ entry chain 1 e) ∧
        ∀ g offset r frame v r',
          payloadOf (frame.drop 8) = sumOver (fourLevels.inputs 4294967295) 2 {0, 2} →
            accept (prepared fourLevels 4294967295 g) offset r frame ≠ (.ok v, r') := by
  have hvalid : fourLevels.validate = .ok () := by decide
  have hlevels : ({0, 2} : Finset Nat) ⊆ Finset.range fourLevels.packet.levelCount := by decide
  have htells : ∀ m n, fourLevels.TellsCounts m n := fun _ _ => .inl (by decide)
  obtain ⟨chain, hchain, -, hdistinct, hsums, hframes⟩ :=
    runningSums_expose fourLevels hvalid 4294967295
  refine ⟨hvalid, chain, hchain, ?_, ?_, ?_⟩
  · exact hdistinct 1 (by decide) 3 (by decide) (by decide)
  · exact hsums 1 (by decide) {0, 2} hlevels (htells _ _) (by decide)
  · intro g offset r frame v r' hpayload haccept
    have hset := (hframes g offset r frame v r' haccept).2 {0, 2} hlevels (htells _ _) hpayload
    have htop : 2 ∈ Finset.range (v.index.toNat + 1) := hset ▸ by decide
    have hgap : 1 ∉ Finset.range (v.index.toNat + 1) := hset ▸ by decide
    rw [Finset.mem_range] at htop hgap
    omega

end OffloadBench.Round
