import Mathlib.Probability.Distributions.Uniform
import OffloadBench.Draw.Order
import OffloadBench.Engine.Response

/-! # Fair shuffles

A shuffle of `n` items draws below `n`, below `n - 1` and so on down to 2, in this order, and exchanges a
position for each draw. What it gives are the items in the order that the draws give to their positions.
Every order of the positions comes from exactly one sequence of such draws, so that uniform and
independent draws give each of the `n!` orders the same probability. A bound that is off by one would
still give orders, but not each of them once.

The order that stimuli are sent in is this order of the positions, and the responses of an engine that
reorders leave in it.
-/
namespace OffloadBench.Draw
universe u

def bounds (n : Nat) : List Nat := (List.range' 2 (n - 1)).reverse

theorem bounds_succ_succ (i : Nat) : bounds (i + 2) = (i + 2) :: bounds (i + 1) := by
  change (List.range' 2 (i + 1)).reverse = (i + 2) :: (List.range' 2 i).reverse
  rw [List.range'_concat, List.reverse_append, Nat.one_mul, Nat.add_comm 2]
  rfl

theorem bounds_sub_one_add_one (n : Nat) : bounds (n - 1 + 1) = bounds n := by
  cases n <;> rfl

theorem prod_bounds (n : Nat) : (bounds n).prod = n.factorial := by
  match n with
  | 0 | 1 => rfl
  | i + 2 => rw [bounds_succ_succ, List.prod_cons, prod_bounds (i + 1), Nat.factorial_succ (i + 1)]

theorem pos_of_mem_bounds {n b : Nat} (h : b ∈ bounds n) : 0 < b := by
  have := List.mem_range'_1.1 (List.mem_reverse.1 h)
  omega

def Generator.drawBelow (g : Generator) (bounds : List Nat) : List Nat × Generator :=
  (bounds.mapM fun bound => (modifyGet (·.below bound) : StateM Generator Nat)).run g

theorem Generator.drawIndices_eq (g : Generator) (i : Nat) :
    g.drawIndices i = g.drawBelow (bounds (i + 1)) := by
  induction i generalizing g with
  | zero => rfl
  | succ i ih =>
    rw [drawIndices, bounds_succ_succ, drawBelow, List.mapM_cons]
    simp only [ih]
    rfl

def DrawnBelow (draws bounds : List Nat) : Prop := List.Forall₂ (· < ·) draws bounds

theorem DrawnBelow.exists_cons {draws : List Nat} {i : Nat}
    (h : DrawnBelow draws (bounds (i + 2))) :
    ∃ j rest, j ≤ i + 1 ∧ DrawnBelow rest (bounds (i + 1)) ∧ draws = j :: rest := by
  rw [bounds_succ_succ] at h
  obtain ⟨j, rest, hj, hrest, rfl⟩ := List.forall₂_cons_right_iff.1 h
  exact ⟨j, rest, Nat.le_of_lt_succ hj, hrest, rfl⟩

theorem DrawnBelow.cons {draws : List Nat} {i j : Nat} (hj : j ≤ i + 1)
    (h : DrawnBelow draws (bounds (i + 1))) : DrawnBelow (j :: draws) (bounds (i + 2)) := by
  rw [bounds_succ_succ]
  exact List.Forall₂.cons (Nat.lt_succ_of_le hj) h

theorem Generator.drawnBelow_drawIndices (g : Generator) (i : Nat) :
    DrawnBelow (g.drawIndices i).1 (bounds (i + 1)) := by
  induction i generalizing g with
  | zero => exact .nil
  | succ i ih => exact .cons (Nat.le_of_lt_succ (Nat.mod_lt _ (Nat.succ_pos _))) (ih _)

/-- The order that draws give to the positions of `n` items. -/
def positions (n : Nat) (draws : List Nat) : List Nat :=
  (arrange (n - 1) draws (List.range n).toArray).toList

def inOrder {α : Type _} (items : List α) (order : List Nat) : List α :=
  order.filterMap (items[·]?)

theorem positions_perm (n : Nat) (draws : List Nat) : (positions n draws).Perm (List.range n) :=
  Array.perm_iff_toList_perm.1 (arrange_perm (n - 1) draws (List.range n).toArray)

/-- What is done to items is done to their positions. -/
theorem arrange_eq_inOrder {α : Type _} (draws : List Nat) (items : List α) :
    (arrange (items.length - 1) draws items.toArray).toList =
      inOrder items (positions items.length draws) := by
  have hitems : items.toArray.map some = (List.range items.length).toArray.map (items[·]?) := by
    apply Array.ext
    · simp
    · intro p hp hp'
      simp at hp
      simp [hp]
  have harranged := congrArg Array.toList (arrange_map some (items.length - 1) draws items.toArray)
  rw [hitems, arrange_map, Array.toList_map, Array.toList_map] at harranged
  have hvalues := congrArg (List.filterMap id) harranged
  rw [List.filterMap_map, List.filterMap_map] at hvalues
  exact (List.filterMap_some.symm.trans hvalues.symm)

section Arrangements
variable {α : Type _} {items target : Array α} {i : Nat}

theorem getElem?_swapIfInBounds {j k : Nat} (hi : i < items.size) (hj : j < items.size) :
    (items.swapIfInBounds i j)[k]? =
      if j = k then items[i]? else if i = k then items[j]? else items[k]? := by
  rw [Array.swapIfInBounds_def, dif_pos hi, dif_pos hj, Array.getElem?_swap]
  simp [hi, hj]

theorem getElem?_swapIfInBounds_left {j : Nat} (hi : i < items.size) (hj : j < items.size) :
    (items.swapIfInBounds i j)[i]? = items[j]? := by
  rw [getElem?_swapIfInBounds hi hj]
  split
  · rename_i h
    rw [h]
  · rw [if_pos rfl]

theorem nodup_swapIfInBounds {j : Nat} (h : items.toList.Nodup) :
    (items.swapIfInBounds i j).toList.Nodup :=
  (Array.perm_iff_toList_perm.1 (swapIfInBounds_perm items i j)).nodup_iff.2 h

theorem getElem?_arrange_of_lt {draws : List Nat} (hdraws : DrawnBelow draws (bounds (i + 1)))
    (hi : i < items.size) {p : Nat} (hp : i < p) : (arrange i draws items)[p]? = items[p]? := by
  induction i generalizing draws items with
  | zero => simp [arrange]
  | succ i ih =>
    obtain ⟨j, draws, hj, hrest, rfl⟩ := hdraws.exists_cons
    rw [arrange, ih hrest (by simp; omega) (by omega), getElem?_swapIfInBounds hi (by omega),
      if_neg (by omega), if_neg (by omega)]

/-- The position that is exchanged first gets the item that was drawn for it. -/
theorem getElem?_arrange_succ {j : Nat} {draws : List Nat} (hj : j ≤ i + 1)
    (hdraws : DrawnBelow draws (bounds (i + 1))) (hi : i + 1 < items.size) :
    (arrange (i + 1) (j :: draws) items)[i + 1]? = items[j]? := by
  rw [arrange, getElem?_arrange_of_lt hdraws (by simp; omega) (Nat.lt_succ_self i),
    getElem?_swapIfInBounds_left hi (by omega)]

theorem eq_of_getElem?_eq {j k : Nat} (hnodup : items.toList.Nodup) (hj : j < items.size)
    (h : items[j]? = items[k]?) : j = k := by
  rw [← Array.getElem?_toList, ← Array.getElem?_toList] at h
  exact (List.getElem?_inj hj hnodup).1 h

/-- Distinct items show which draws arranged them. -/
theorem draws_injective {draws draws' : List Nat} (hnodup : items.toList.Nodup)
    (hi : i < items.size) (hdraws : DrawnBelow draws (bounds (i + 1)))
    (hdraws' : DrawnBelow draws' (bounds (i + 1)))
    (h : arrange i draws items = arrange i draws' items) : draws = draws' := by
  induction i generalizing draws draws' items with
  | zero =>
    cases hdraws
    cases hdraws'
    rfl
  | succ i ih =>
    obtain ⟨j, draws, hj, hrest, rfl⟩ := hdraws.exists_cons
    obtain ⟨j', draws', hj', hrest', rfl⟩ := hdraws'.exists_cons
    have hitems : items[j]? = items[j']? := by
      rw [← getElem?_arrange_succ hj hrest hi, ← getElem?_arrange_succ hj' hrest' hi, h]
    obtain rfl := eq_of_getElem?_eq hnodup (by omega) hitems
    rw [ih (nodup_swapIfInBounds hnodup) (by simp; omega) hrest hrest' h]

/-- Where an arrangement of distinct items agrees with them above a position, the item at this
position comes from there or from below. -/
theorem exists_getElem?_eq (hnodup : items.toList.Nodup) (hperm : target.Perm items)
    (hi : i < items.size) (habove : ∀ p, i < p → target[p]? = items[p]?) :
    ∃ j ≤ i, items[j]? = target[i]? := by
  have hnodup' : target.toList.Nodup := (Array.perm_iff_toList_perm.1 hperm).nodup_iff.2 hnodup
  have hsize : i < target.size := hperm.size_eq ▸ hi
  obtain ⟨j, hj, hitem⟩ := Array.getElem_of_mem (hperm.mem_iff.1 (Array.getElem_mem hsize))
  have heq : items[j]? = target[i]? := by
    rw [Array.getElem?_eq_getElem hj, Array.getElem?_eq_getElem hsize, hitem]
  refine ⟨j, Nat.le_of_not_lt fun hlt => ?_, heq⟩
  rw [← habove j hlt] at heq
  exact Nat.ne_of_gt hlt (eq_of_getElem?_eq hnodup' (hperm.size_eq ▸ hj) heq)

/-- Every arrangement of distinct items that leaves them alone above a position has its draws. -/
theorem exists_draws (hnodup : items.toList.Nodup) (hperm : target.Perm items) (hi : i < items.size)
    (habove : ∀ p, i < p → target[p]? = items[p]?) :
    ∃ draws, DrawnBelow draws (bounds (i + 1)) ∧ arrange i draws items = target := by
  induction i generalizing items with
  | zero =>
    obtain ⟨j, hj, hitem⟩ := exists_getElem?_eq hnodup hperm hi habove
    obtain rfl := Nat.le_zero.1 hj
    refine ⟨[], .nil, Array.ext_getElem? fun p => ?_⟩
    rcases Nat.eq_zero_or_pos p with rfl | hp
    · exact hitem
    · exact (habove p hp).symm
  | succ i ih =>
    obtain ⟨j, hj, hitem⟩ := exists_getElem?_eq hnodup hperm hi habove
    have habove' : ∀ p, i < p → target[p]? = (items.swapIfInBounds (i + 1) j)[p]? := by
      intro p hp
      rcases Nat.lt_or_eq_of_le (Nat.succ_le_of_lt hp) with hlt | rfl
      · rw [getElem?_swapIfInBounds hi (by omega), if_neg (by omega), if_neg (by omega),
          habove p hlt]
      · rw [getElem?_swapIfInBounds_left hi (by omega), hitem]
    obtain ⟨draws, hdraws, harranged⟩ := ih (nodup_swapIfInBounds hnodup)
      (hperm.trans (swapIfInBounds_perm items (i + 1) j).symm) (by simp; omega) habove'
    exact ⟨j :: draws, hdraws.cons hj, harranged⟩

end Arrangements

theorem existsUnique_draws {n : Nat} {order : List Nat} (h : order.Perm (List.range n)) :
    ∃! draws, DrawnBelow draws (bounds n) ∧ positions n draws = order := by
  cases n with
  | zero =>
    obtain rfl := List.perm_nil.1 h
    refine ⟨[], ⟨.nil, rfl⟩, ?_⟩
    rintro draws ⟨hdraws, -⟩
    cases hdraws
    rfl
  | succ i =>
    have hnodup : (List.range (i + 1)).toArray.toList.Nodup := List.nodup_range
    have hi : i < (List.range (i + 1)).toArray.size := by simp
    have hperm : order.toArray.Perm (List.range (i + 1)).toArray := Array.perm_iff_toList_perm.2 h
    have habove : ∀ p, i < p → order.toArray[p]? = (List.range (i + 1)).toArray[p]? := by
      intro p hp
      have hsize := h.length_eq
      rw [List.length_range] at hsize
      rw [Array.getElem?_eq_none (by simp; omega), Array.getElem?_eq_none (by simp; omega)]
    obtain ⟨draws, hdraws, harranged⟩ := exists_draws hnodup hperm hi habove
    refine ⟨draws, ⟨hdraws, congrArg Array.toList harranged⟩, ?_⟩
    rintro draws' ⟨hdraws', horder⟩
    refine draws_injective hnodup hi hdraws' hdraws (Array.toList_inj.1 ?_)
    rw [harranged]
    exact horder

section Uniform
open scoped ENNReal

/-- Every number below a bound, with the same probability. -/
noncomputable def uniformBelow (bound : Nat) : PMF Nat :=
  if h : (Finset.range bound).Nonempty then .uniformOfFinset _ h else .pure 0

/-- Independent uniform draws, one for each bound. -/
noncomputable def uniformDraws (bounds : List Nat) : PMF (List Nat) := bounds.mapM uniformBelow

theorem uniformBelow_apply {bound : Nat} (h : 0 < bound) (j : Nat) :
    uniformBelow bound j = if j < bound then (bound : ℝ≥0∞)⁻¹ else 0 := by
  have hne : (Finset.range bound).Nonempty := Finset.nonempty_range_iff.2 (Nat.ne_of_gt h)
  rw [uniformBelow, dif_pos hne, PMF.uniformOfFinset_apply, Finset.card_range]
  simp only [Finset.mem_range]

theorem uniformDraws_nil : uniformDraws [] = .pure [] := rfl

theorem uniformDraws_cons (bound : Nat) (bounds : List Nat) :
    uniformDraws (bound :: bounds) =
      (uniformBelow bound).bind fun j => (uniformDraws bounds).map (j :: ·) := by
  rw [uniformDraws, List.mapM_cons]
  rfl

theorem uniformDraws_cons_cons (bound : Nat) (bounds : List Nat) (j : Nat) (draws : List Nat) :
    uniformDraws (bound :: bounds) (j :: draws) =
      uniformBelow bound j * uniformDraws bounds draws := by
  rw [uniformDraws_cons, PMF.bind_apply, tsum_eq_single j]
  · rw [PMF.map_apply, tsum_eq_single draws]
    · simp
    · intro rest hrest
      rw [if_neg (by simpa using Ne.symm hrest)]
  · intro k hk
    rw [PMF.map_apply, tsum_eq_single draws]
    · simp [hk.symm]
    · intro rest hrest
      rw [if_neg (by simp [hk.symm])]

theorem uniformDraws_apply {draws bounds : List Nat} (h : DrawnBelow draws bounds) :
    uniformDraws bounds draws = (bounds.prod : ℝ≥0∞)⁻¹ := by
  induction h with
  | nil => simp [uniformDraws_nil]
  | @cons j bound draws bounds hj _ ih =>
    have hpos : 0 < bound := Nat.zero_lt_of_lt hj
    have hinv : ((bound : ℝ≥0∞) * bounds.prod)⁻¹ = (bound : ℝ≥0∞)⁻¹ * (bounds.prod : ℝ≥0∞)⁻¹ :=
      ENNReal.mul_inv (.inr (ENNReal.natCast_ne_top _)) (.inl (ENNReal.natCast_ne_top _))
    rw [uniformDraws_cons_cons, uniformBelow_apply hpos, if_pos hj, ih, List.prod_cons,
      Nat.cast_mul, hinv]

theorem drawnBelow_of_mem_support {draws bounds : List Nat} (hpos : ∀ b ∈ bounds, 0 < b)
    (h : draws ∈ (uniformDraws bounds).support) : DrawnBelow draws bounds := by
  induction bounds generalizing draws with
  | nil =>
    rw [uniformDraws_nil] at h
    obtain rfl := (PMF.mem_support_pure_iff _ _).1 h
    exact .nil
  | cons bound bounds ih =>
    rw [uniformDraws_cons] at h
    obtain ⟨j, hj, htail⟩ := (PMF.mem_support_bind_iff _ _ _).1 h
    obtain ⟨rest, hrest, rfl⟩ := (PMF.mem_support_map_iff _ _ _).1 htail
    have hbound : j < bound := by
      by_contra hge
      rw [PMF.mem_support_iff, uniformBelow_apply (hpos bound List.mem_cons_self), if_neg hge] at hj
      exact hj rfl
    exact List.Forall₂.cons hbound (ih (fun b hb => hpos b (List.mem_cons_of_mem _ hb)) hrest)

theorem uniform_positions (n : Nat) (order : List Nat) :
    (uniformDraws (bounds n)).map (positions n) order =
      if order.Perm (List.range n) then (n.factorial : ℝ≥0∞)⁻¹ else 0 := by
  rw [PMF.map_apply]
  split
  · rename_i hperm
    obtain ⟨draws, ⟨hdraws, horder⟩, hunique⟩ := existsUnique_draws hperm
    rw [tsum_eq_single draws, if_pos horder.symm, uniformDraws_apply hdraws, prod_bounds]
    intro draws' hne
    split
    · rename_i horder'
      by_contra hmass
      have hdrawn := drawnBelow_of_mem_support (fun _ => pos_of_mem_bounds)
        ((PMF.mem_support_iff _ _).2 hmass)
      exact hne (hunique draws' ⟨hdrawn, horder'.symm⟩)
    · rfl
  · rename_i hperm
    refine ENNReal.tsum_eq_zero.2 fun draws => if_neg ?_
    rintro rfl
    exact hperm (positions_perm n draws)

end Uniform

theorem Generator.shuffle_eq {α : Type _} (g : Generator) (items : List α) :
    g.shuffle items =
      (inOrder items (positions items.length (g.drawBelow (bounds items.length)).1),
        (g.drawBelow (bounds items.length)).2) := by
  rw [shuffle, ← arrange_eq_inOrder, drawIndices_eq, bounds_sub_one_add_one]

open scoped ENNReal in
/-- Each order comes from exactly one sequence of draws below `n`, `n - 1` and so on down to 2. -/
theorem shuffle_fair (n : Nat) :
    (∀ (α : Type u) (items : List α) (g : Generator), items.length = n →
      DrawnBelow (g.drawBelow (bounds n)).1 (bounds n) ∧
      g.shuffle items =
        (inOrder items (positions n (g.drawBelow (bounds n)).1), (g.drawBelow (bounds n)).2)) ∧
    (∀ draws, DrawnBelow draws (bounds n) → (positions n draws).Perm (List.range n)) ∧
    (∀ order, order.Perm (List.range n) →
      ∃! draws, DrawnBelow draws (bounds n) ∧ positions n draws = order) ∧
    (∀ order, (uniformDraws (bounds n)).map (positions n) order =
      if order.Perm (List.range n) then (n.factorial : ℝ≥0∞)⁻¹ else 0) ∧
    (∀ g : Generator,
      g.order n = (positions n (g.drawBelow (bounds n)).1, (g.drawBelow (bounds n)).2)) ∧
    ∀ (s : Engine.EngineSettings) (rs : List Engine.Response) (g : Generator),
      s.reorder = true → rs.length = n →
      s.arrange g rs =
        (inOrder rs (positions n (g.drawBelow (bounds n)).1), (g.drawBelow (bounds n)).2) := by
  refine ⟨?_, fun draws _ => positions_perm n draws, fun order => existsUnique_draws,
    uniform_positions n, fun g => ?_, ?_⟩
  · rintro α items g rfl
    refine ⟨?_, g.shuffle_eq items⟩
    rw [← bounds_sub_one_add_one, ← Generator.drawIndices_eq]
    exact g.drawnBelow_drawIndices _
  · rw [Generator.order, Generator.shuffle, List.length_range, Generator.drawIndices_eq,
      bounds_sub_one_add_one, positions]
  · rintro s rs g hreorder rfl
    rw [Engine.EngineSettings.arrange, if_pos hreorder, g.shuffle_eq]

open scoped ENNReal in
/-- The draws 0 and 1 reverse three items, no other draws do, and one shuffle in six comes to it. -/
theorem shuffle_fair_three :
    let rs : List Engine.Response := [⟨0, []⟩, ⟨1, []⟩, ⟨2, []⟩]
    DrawnBelow [0, 1] (bounds 3) ∧ positions 3 [0, 1] = [2, 1, 0] ∧
      (positions 3 [0, 1]).Perm (List.range 3) ∧
      (∃! draws, DrawnBelow draws (bounds 3) ∧ positions 3 draws = [2, 1, 0]) ∧
      (uniformDraws (bounds 3)).map (positions 3) [2, 1, 0] = ((6 : Nat) : ℝ≥0∞)⁻¹ ∧
      (∀ g : Generator, (g.shuffle rs).1 = inOrder rs (positions 3 (g.drawBelow (bounds 3)).1)) ∧
      ∀ g : Generator, (({} : Engine.EngineSettings).arrange g rs).1 = (g.shuffle rs).1 := by
  intro rs
  obtain ⟨hshuffle, hperm, hunique, huniform, -, hengine⟩ := shuffle_fair 3
  have hdraws : DrawnBelow [0, 1] (bounds 3) := by
    change List.Forall₂ (· < ·) [0, 1] [3, 2]
    decide
  have horder : positions 3 [0, 1] = [2, 1, 0] := by decide
  have hreversed : ([2, 1, 0] : List Nat).Perm (List.range 3) := by decide
  refine ⟨hdraws, horder, hperm _ hdraws, hunique _ hreversed, ?_, ?_, ?_⟩
  · rw [huniform, if_pos hreversed]
    rfl
  · intro g
    rw [(hshuffle _ rs g rfl).2]
  · intro g
    rw [hengine {} rs g rfl rfl, (hshuffle _ rs g rfl).2]

end OffloadBench.Draw
