import OffloadBench.Proofs.Engine.Answers
import OffloadBench.Proofs.Round.Prepared

/-! # Reversed sums

Summed from the highest level down, the lowest level carries the sum of all levels, and the highest
level its own stimulus. If both were owed, the lowest and the highest stimulus would both be the sum
of all levels; but they differ in their first word.
-/
namespace OffloadBench.Stimulus
open Wire

theorem entry_reverse {inputs : List Payload} {l : Nat} (hl : l < inputs.length) (e : Nat) :
    entry inputs.reverse l e = entry inputs (inputs.length - 1 - l) e := by
  have hl' : l < inputs.reverse.length := by rwa [List.length_reverse]
  rw [entry, entry, List.getD_eq_getElem inputs.reverse [] hl', List.getElem_reverse,
    List.getD_eq_getElem inputs [] (by omega)]

theorem prefixSum_reverse {inputs : List Payload} (hpos : 0 < inputs.length) (e : Nat) :
    prefixSum inputs.reverse (inputs.length - 1) e = prefixSum inputs (inputs.length - 1) e := by
  have hlength : inputs.length - 1 + 1 = inputs.length := Nat.sub_add_cancel hpos
  rw [prefixSum, prefixSum, hlength,
    ← Finset.sum_range_reflect (fun l => (entry inputs l e).toNat) inputs.length]
  refine Finset.sum_congr rfl ?_
  intro l hl
  rw [entry_reverse (Finset.mem_range.1 hl)]

end OffloadBench.Stimulus

namespace OffloadBench.Engine
open Config Draw Round Stimulus Wire

variable {set : TestSet} {offset : UInt8}

def reverseSums (set : TestSet) : List Payload :=
  (runningSums? set.inputs.reverse).get
    (runningSums?_isSome fun p hp => set.length_of_mem p (List.mem_reverse.1 hp))

theorem runningSums?_reverse (set : TestSet) :
    runningSums? set.inputs.reverse = some (reverseSums set) := (Option.some_get _).symm

theorem reverseSums_spec (set : TestSet) :
    (reverseSums set).length = set.levelCount ∧
      (∀ p ∈ reverseSums set, p.length = set.packet.elementCount.toNat) ∧
      ∀ l < set.levelCount, ∀ e < set.packet.elementCount.toNat,
        entry (reverseSums set) l e = UInt32.ofNat (prefixSum set.inputs.reverse l e) := by
  have hspec := runningSums?_spec
    (fun p hp => set.length_of_mem p (List.mem_reverse.1 hp)) (runningSums?_reverse set)
  rwa [List.length_reverse] at hspec

def reverseSum (set : TestSet) (level : UInt8) : Payload :=
  (reverseSums set).getD (set.levelCount - 1 - level.toNat) []

theorem length_reverseSum {level : UInt8} (hlevel : level.toNat < set.levelCount) :
    (reverseSum set level).length = set.packet.elementCount.toNat := by
  obtain ⟨hlength, hlengths, -⟩ := reverseSums_spec set
  exact length_getD hlengths (by rw [hlength]; omega)

theorem responses_reverse (set : TestSet) (offset : UInt8) :
    responses set.layout offset set.stimuli.reverse =
      set.levels.reverse.map fun i => response set offset i (reverseSum set i) := by
  have hinputs : (List.range set.levelCount).reverse.map (set.inputs.getD · []) =
      set.inputs.reverse := by
    rw [List.map_reverse]
    exact congrArg List.reverse (map_range_getD set.inputs [])
  rw [TestSet.stimuli, ← List.map_reverse,
    responses_stimuli (fun l hl => List.mem_range.1 (List.mem_reverse.1 hl))
      (hinputs.symm ▸ runningSums?_reverse set),
    TestSet.levels, ← List.map_reverse, List.map_map]
  have hlength := (reverseSums_spec set).1
  apply List.ext_getElem
  · simp [hlength]
  · intro k hk hk'
    have hk'' : k < set.levelCount := by simpa using hk'
    simp only [List.getElem_zipWith, List.getElem_map, List.getElem_reverse, List.getElem_range,
      List.length_range, Function.comp_apply]
    have hlevel : (levelByte (set.levelCount - 1 - k)).toNat = set.levelCount - 1 - k := by
      have := set.levelCount_le
      exact toNat_levelByte (by omega)
    have hback : set.levelCount - 1 - (set.levelCount - 1 - k) = k := by omega
    rw [reverseSum, hlevel, hback, List.getD_eq_getElem _ _ (by rwa [hlength])]

/-- Of several levels, one at least does not carry what it owes. -/
theorem exists_reverseSum_ne {s : Settings} (hs : s.Bounded) (index : UInt32) (g : Generator)
    (hlevels : 1 < s.packet.levelCount) :
    ∃ i : UInt8, i.toNat < s.packet.levelCount ∧
      reverseSum (prepared s index g) i ≠ (prepared s index g).sums.getD i.toNat [] := by
  by_contra hall
  push Not at hall
  have hcount := levelCount_prepared s index g
  have hinputs : (prepared s index g).inputs = s.inputs index := rfl
  have hlength : (s.inputs index).length = s.packet.levelCount := s.length_inputs index
  have hE := hs.elements_pos
  have hspec := (reverseSums_spec (prepared s index g)).2.2
  have hsums := (runningSums?_spec (prepared s index g).length_of_mem
    (prepared s index g).runningSums_inputs).2.2
  rw [hcount] at hspec
  rw [hinputs] at hspec hsums
  rw [hlength] at hsums
  have hlow := congrArg (fun p : Payload => p.getD 0 0) (hall 0 (by change 0 < _; omega))
  have hlast : (levelByte (s.packet.levelCount - 1)).toNat = s.packet.levelCount - 1 := by
    have := s.packet.levelCount_le
    exact toNat_levelByte (by omega)
  have hhigh := congrArg (fun p : Payload => p.getD 0 0)
    (hall (levelByte (s.packet.levelCount - 1)) (by rw [hlast]; omega))
  simp only [reverseSum, hcount, hlast, Nat.sub_self] at hlow hhigh
  change entry (reverseSums (prepared s index g)) (s.packet.levelCount - 1 - 0) 0 =
    entry (prepared s index g).sums 0 0 at hlow
  change entry (reverseSums (prepared s index g)) 0 0 =
    entry (prepared s index g).sums (s.packet.levelCount - 1) 0 at hhigh
  have hpos : 0 < (s.inputs index).length := by omega
  have htotal := prefixSum_reverse hpos 0
  rw [hlength] at htotal
  have hfirst := entry_reverse hpos 0
  rw [hlength, Nat.sub_zero] at hfirst
  rw [Nat.sub_zero, hspec _ (by omega) 0 hE, hsums 0 (by omega) 0 hE, prefixSum_zero, htotal,
    UInt32.ofNat_toNat] at hlow
  rw [hspec 0 (by omega) 0 hE, prefixSum_zero, hfirst, UInt32.ofNat_toNat,
    hsums _ (by omega) 0 hE] at hhigh
  exact Settings.entry_first_ne_last hs index hlevels (hlow.symm.trans hhigh.symm)

end OffloadBench.Engine
