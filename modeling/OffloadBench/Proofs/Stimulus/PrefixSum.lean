import Mathlib.Algebra.BigOperators.Intervals
import Mathlib.Data.List.GetD
import OffloadBench.Stimulus.RunningSum

/-! # Running sums are prefix sums

A running sum is taken level by level on words that wrap. Here each of its words is the sum of the
numbers behind it, reduced once at the end; the two agree because words are numbers modulo 2 ^ 32. So
stimuli whose first levels are the same but for their order have the same sum there, whatever follows.
Only neighbouring levels are compared for their length, which is enough to refuse any that differ.
-/
namespace OffloadBench.Stimulus
open Wire

def entry (payloads : List Payload) (level element : Nat) : UInt32 :=
  (payloads.getD level []).getD element 0

def prefixSum (inputs : List Payload) (level element : Nat) : Nat :=
  ∑ l ∈ Finset.range (level + 1), (entry inputs l element).toNat

@[simp] theorem entry_cons_zero (p : Payload) (rest : List Payload) (e : Nat) :
    entry (p :: rest) 0 e = p.getD e 0 := rfl

@[simp] theorem entry_cons_succ (p : Payload) (rest : List Payload) (l e : Nat) :
    entry (p :: rest) (l + 1) e = entry rest l e := rfl

theorem prefixSum_zero (inputs : List Payload) (e : Nat) :
    prefixSum inputs 0 e = (entry inputs 0 e).toNat := by
  simp [prefixSum]

theorem prefixSum_cons_succ (p : Payload) (rest : List Payload) (l e : Nat) :
    prefixSum (p :: rest) (l + 1) e = (p.getD e 0).toNat + prefixSum rest l e := by
  rw [prefixSum, Finset.sum_range_succ']
  exact Nat.add_comm _ _

theorem getD_addWords {input sum : Payload} {e : Nat} (hi : e < input.length)
    (hs : e < sum.length) : (addWords input sum).getD e 0 = input.getD e 0 + sum.getD e 0 := by
  simp [addWords, List.getD_eq_getElem?_getD, hi, hs]

/-- What a sum and the levels after it come to: the sum itself enters every later level. -/
theorem sumsAfter?_spec {n : Nat} {sum : Payload} {inputs sums : List Payload}
    (hsum : sum.length = n) (hinputs : ∀ p ∈ inputs, p.length = n)
    (h : sumsAfter? sum inputs = some sums) :
    sums.length = inputs.length ∧ (∀ p ∈ sums, p.length = n) ∧
      ∀ l < inputs.length, ∀ e < n,
        entry sums l e = UInt32.ofNat ((sum.getD e 0).toNat + prefixSum inputs l e) := by
  induction inputs generalizing sum sums with
  | nil =>
    cases h
    exact ⟨rfl, by simp, fun l hl => absurd hl (Nat.not_lt_zero l)⟩
  | cons input rest ih =>
    have hinput := hinputs input List.mem_cons_self
    have hadd : (addWords input sum).length = n := by
      rw [length_addWords, hinput, hsum, Nat.min_self]
    rw [sumsAfter?, if_pos (hsum.trans hinput.symm)] at h
    obtain ⟨tail, htail, rfl⟩ := Option.map_eq_some_iff.1 h
    obtain ⟨hlength, hlengths, hentries⟩ :=
      ih hadd (fun p hp => hinputs p (List.mem_cons_of_mem _ hp)) htail
    refine ⟨congrArg Nat.succ hlength, ?_, ?_⟩
    · intro p hp
      rcases List.mem_cons.1 hp with rfl | hp
      · exact hadd
      · exact hlengths p hp
    · intro l hl e he
      have hword := getD_addWords (hinput.symm ▸ he) (hsum.symm ▸ he)
      cases l with
      | zero =>
        rw [entry_cons_zero, hword, prefixSum_zero, entry_cons_zero, UInt32.ofNat_add,
          UInt32.ofNat_toNat, UInt32.ofNat_toNat, UInt32.add_comm]
      | succ l =>
        rw [entry_cons_succ, hentries l (Nat.lt_of_succ_lt_succ hl) e he, hword,
          prefixSum_cons_succ]
        simp only [UInt32.ofNat_add, UInt32.ofNat_toNat]
        rw [← UInt32.add_assoc, UInt32.add_comm (input.getD e 0)]

theorem runningSums?_spec {n : Nat} {inputs sums : List Payload}
    (hinputs : ∀ p ∈ inputs, p.length = n) (h : runningSums? inputs = some sums) :
    sums.length = inputs.length ∧ (∀ p ∈ sums, p.length = n) ∧
      ∀ l < inputs.length, ∀ e < n, entry sums l e = UInt32.ofNat (prefixSum inputs l e) := by
  cases inputs with
  | nil =>
    cases h
    exact ⟨rfl, by simp, fun l hl => absurd hl (Nat.not_lt_zero l)⟩
  | cons input rest =>
    have hinput := hinputs input List.mem_cons_self
    rw [runningSums?] at h
    obtain ⟨tail, htail, rfl⟩ := Option.map_eq_some_iff.1 h
    obtain ⟨hlength, hlengths, hentries⟩ :=
      sumsAfter?_spec hinput (fun p hp => hinputs p (List.mem_cons_of_mem _ hp)) htail
    refine ⟨congrArg Nat.succ hlength, ?_, ?_⟩
    · intro p hp
      rcases List.mem_cons.1 hp with rfl | hp
      · exact hinput
      · exact hlengths p hp
    · intro l hl e he
      cases l with
      | zero => rw [entry_cons_zero, prefixSum_zero, entry_cons_zero, UInt32.ofNat_toNat]
      | succ l =>
        rw [entry_cons_succ, hentries l (Nat.lt_of_succ_lt_succ hl) e he, prefixSum_cons_succ]

theorem length_getD {n : Nat} {payloads : List Payload} (h : ∀ p ∈ payloads, p.length = n) {l : Nat}
    (hl : l < payloads.length) : (payloads.getD l []).length = n := by
  rw [List.getD_eq_getElem _ _ hl]
  exact h _ (List.getElem_mem hl)

theorem getD_eq_map_entry {n : Nat} {payloads : List Payload} (h : ∀ p ∈ payloads, p.length = n)
    {l : Nat} (hl : l < payloads.length) :
    payloads.getD l [] = (List.range n).map (entry payloads l) := by
  have hlength := length_getD h hl
  apply List.ext_getElem
  · rw [hlength, List.length_map, List.length_range]
  · intro e he he'
    rw [List.getElem_map, List.getElem_range]
    exact (List.getD_eq_getElem _ _ he).symm

def OneLength (payloads : List Payload) : Prop :=
  ∀ p ∈ payloads, ∀ q ∈ payloads, p.length = q.length

theorem OneLength.exists_length {payloads : List Payload} (h : OneLength payloads) :
    ∃ n, ∀ p ∈ payloads, p.length = n := by
  cases payloads with
  | nil => exact ⟨0, by simp⟩
  | cons first rest => exact ⟨first.length, fun p hp => h p hp first List.mem_cons_self⟩

theorem length_eq_of_sumsAfter? {sum : Payload} {inputs sums : List Payload}
    (h : sumsAfter? sum inputs = some sums) : ∀ p ∈ inputs, p.length = sum.length := by
  induction inputs generalizing sum sums with
  | nil => simp
  | cons input rest ih =>
    rw [sumsAfter?] at h
    split at h
    · rename_i hlength
      obtain ⟨tail, htail, -⟩ := Option.map_eq_some_iff.1 h
      have hadd : (addWords input sum).length = sum.length := by
        rw [length_addWords, ← hlength, Nat.min_self]
      intro p hp
      rcases List.mem_cons.1 hp with rfl | hp
      · exact hlength.symm
      · exact (ih htail p hp).trans hadd
    · cases h

/-- Neighbours are compared only, and that is enough. -/
theorem runningSums?_isSome_iff (inputs : List Payload) :
    (runningSums? inputs).isSome ↔ OneLength inputs := by
  cases inputs with
  | nil => simp [runningSums?, OneLength]
  | cons input rest =>
    constructor
    · intro h
      obtain ⟨sums, hsums⟩ := Option.isSome_iff_exists.1 h
      obtain ⟨tail, htail, -⟩ := Option.map_eq_some_iff.1 hsums
      have hlength : ∀ p ∈ input :: rest, p.length = input.length := by
        intro p hp
        rcases List.mem_cons.1 hp with rfl | hp
        · rfl
        · exact length_eq_of_sumsAfter? htail p hp
      intro p hp q hq
      rw [hlength p hp, hlength q hq]
    · intro h
      exact runningSums?_isSome fun p hp => h p hp input List.mem_cons_self

theorem runningSums_eq_ok_iff {inputs sums : List Payload} :
    runningSums inputs = .ok sums ↔ runningSums? inputs = some sums := by
  rw [runningSums]
  cases runningSums? inputs <;> simp

theorem runningSums_eq_error_iff {inputs : List Payload} :
    runningSums inputs = .error .unequalLengths ↔ ¬ OneLength inputs := by
  rw [← runningSums?_isSome_iff, runningSums]
  cases runningSums? inputs <;> simp

/-- A prefix sum adds up the levels of the prefix, whatever their order. -/
theorem prefixSum_eq_sum_take (inputs : List Payload) (level element : Nat) :
    prefixSum inputs level element =
      ((inputs.take (level + 1)).map fun p => (p.getD element 0).toNat).sum := by
  induction inputs generalizing level with
  | nil => simp [prefixSum, entry]
  | cons input rest ih =>
    cases level with
    | zero => simp [prefixSum_zero]
    | succ level => rw [prefixSum_cons_succ, ih, List.take_succ_cons, List.map_cons, List.sum_cons]

theorem getElem?_sums {n : Nat} {inputs sums : List Payload} (hinputs : ∀ p ∈ inputs, p.length = n)
    (h : runningSums? inputs = some sums) {level : Nat} (hlevel : level < inputs.length) :
    sums[level]? = some ((List.range n).map fun e => UInt32.ofNat (prefixSum inputs level e)) := by
  obtain ⟨hlength, hlengths, hentries⟩ := runningSums?_spec hinputs h
  have hget : sums[level]? = some (sums.getD level []) := by
    rw [List.getD_eq_getElem?_getD, List.getElem?_eq_getElem (hlength.symm ▸ hlevel),
      Option.getD_some]
  rw [hget, getD_eq_map_entry hlengths (hlength.symm ▸ hlevel)]
  refine congrArg some (List.map_congr_left fun e he => ?_)
  exact hentries level hlevel e (List.mem_range.1 he)

/-- The sum of a level depends on the levels up to it, and on these in any order. -/
theorem getElem?_sums_of_perm {inputs sums other others : List Payload}
    (h : runningSums? inputs = some sums) (hother : runningSums? other = some others) {level : Nat}
    (hperm : (inputs.take (level + 1)).Perm (other.take (level + 1))) :
    sums[level]? = others[level]? := by
  obtain ⟨n, hn⟩ := ((runningSums?_isSome_iff inputs).1 (h ▸ rfl)).exists_length
  obtain ⟨n', hn'⟩ := ((runningSums?_isSome_iff other).1 (hother ▸ rfl)).exists_length
  have hlengths := hperm.length_eq
  rw [List.length_take, List.length_take] at hlengths
  by_cases hlevel : level < inputs.length
  · have hlevel' : level < other.length := by omega
    have hfirst : inputs[0] ∈ inputs.take (level + 1) :=
      List.mem_take_iff_getElem.2 ⟨0, by omega, rfl⟩
    have hshared := hn' _ (List.mem_of_mem_take (hperm.mem_iff.1 hfirst))
    rw [hn _ (List.getElem_mem _)] at hshared
    subst hshared
    rw [getElem?_sums hn h hlevel, getElem?_sums hn' hother hlevel']
    have hsums : ∀ e, prefixSum inputs level e = prefixSum other level e := by
      intro e
      rw [prefixSum_eq_sum_take, prefixSum_eq_sum_take, (hperm.map _).sum_eq]
    simp only [hsums]
  · have hlevel' : ¬ level < other.length := by omega
    rw [← (runningSums?_spec hn h).1, not_lt] at hlevel
    rw [← (runningSums?_spec hn' hother).1, not_lt] at hlevel'
    rw [List.getElem?_eq_none hlevel, List.getElem?_eq_none hlevel']

/-- Stimuli have running sums if and only if they have one length, and the sums are then the prefix sums
modulo 2 ^ 32. -/
theorem runningSums_exact (inputs : List Payload) :
    (runningSums inputs = .error .unequalLengths ↔ ¬ OneLength inputs) ∧
    (OneLength inputs →
      ∃ sums, runningSums inputs = .ok sums ∧ sums.length = inputs.length ∧
        (∀ p ∈ inputs, ∀ sum ∈ sums, sum.length = p.length) ∧
        ∀ level < inputs.length, ∀ element < (inputs.getD level []).length,
          (entry sums level element).toNat = prefixSum inputs level element % 2 ^ 32) ∧
    ∀ sums, runningSums inputs = .ok sums →
      ∀ other others, runningSums other = .ok others →
        ∀ level, (inputs.take (level + 1)).Perm (other.take (level + 1)) →
          sums[level]? = others[level]? := by
  refine ⟨runningSums_eq_error_iff, fun hone => ?_, ?_⟩
  · obtain ⟨sums, hsums⟩ := Option.isSome_iff_exists.1 ((runningSums?_isSome_iff inputs).2 hone)
    obtain ⟨n, hn⟩ := hone.exists_length
    obtain ⟨hlength, hlengths, hentries⟩ := runningSums?_spec hn hsums
    refine ⟨sums, runningSums_eq_ok_iff.2 hsums, hlength, ?_, ?_⟩
    · intro p hp sum hsum
      rw [hn p hp, hlengths sum hsum]
    · intro level hlevel element helement
      rw [length_getD hn hlevel] at helement
      rw [hentries level hlevel element helement, UInt32.toNat_ofNat']
  · intro sums hsums other others hothers level hperm
    exact getElem?_sums_of_perm (runningSums_eq_ok_iff.1 hsums) (runningSums_eq_ok_iff.1 hothers)
      hperm

/-- A word that wraps at the third level, and a sum that two levels exchanged leave as it is. -/
theorem runningSums_exact_threeLevels :
    let inputs : List Payload := [[1, 2], [3, 4], [0xFFFFFFFF, 5]]
    let sums : List Payload := [[1, 2], [4, 6], [3, 11]]
    let other : List Payload := [[3, 4], [1, 2]]
    let others : List Payload := [[3, 4], [4, 6]]
    OneLength inputs ∧ runningSums inputs = .ok sums ∧ runningSums other = .ok others ∧
      (∃ sums, runningSums inputs = .ok sums ∧
        (entry sums 2 0).toNat = prefixSum inputs 2 0 % 2 ^ 32) ∧
      (inputs.take 2).Perm (other.take 2) ∧ sums[1]? = others[1]? := by
  intro inputs sums other others
  obtain ⟨-, hsums, horder⟩ := runningSums_exact inputs
  have hone : OneLength inputs := by
    unfold OneLength
    decide
  have hperm : (inputs.take 2).Perm (other.take 2) := List.Perm.swap _ _ _
  obtain ⟨found, hok, -, -, hentries⟩ := hsums hone
  exact ⟨hone, rfl, rfl, ⟨found, hok, hentries 2 (by decide) 0 (by decide)⟩, hperm,
    horder sums rfl other others rfl 1 hperm⟩

end OffloadBench.Stimulus
