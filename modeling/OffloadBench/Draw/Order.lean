import OffloadBench.Buffer
import OffloadBench.Draw.Shuffle

/-! # Orders

An order of `n` things is a list that holds every index below `n` once. Orders are drawn by
shuffling, and recognised by marking each index as it comes.
-/
namespace OffloadBench.Draw

def Generator.order (g : Generator) (n : Nat) : List Nat × Generator := g.shuffle (List.range n)

inductive OrderError
  | capacity (error : CapacityError)
  | shuffle (error : ShuffleError)
  deriving DecidableEq, Repr

def OrderError.message : OrderError → String
  | .capacity error => error.message
  | .shuffle error => error.message

def Generator.order? (g : Generator) (n : Nat) : Except OrderError (List Nat × Generator) :=
  if Buffer.Fits Buffer.indexWidth n then (g.shuffle? (List.range n)).mapError .shuffle
  else .error (.capacity .overflow)

theorem Generator.order_perm (g : Generator) (n : Nat) : (g.order n).1.Perm (List.range n) :=
  g.shuffle_perm _

def marksEach (seen : Array Bool) : List Nat → Bool
  | [] => true
  | i :: rest =>
    match seen[i]? with
    | some false => marksEach (seen.setIfInBounds i true) rest
    | _ => false

def isOrder (order : List Nat) : Bool := marksEach (Array.replicate order.length false) order

theorem marksEach_iff (seen : Array Bool) (order : List Nat) :
    marksEach seen order = true ↔ order.Nodup ∧ ∀ i ∈ order, seen[i]? = some false := by
  induction order generalizing seen with
  | nil => simp [marksEach]
  | cons i rest ih =>
    unfold marksEach
    split
    · rename_i h
      rw [ih, List.nodup_cons]
      have hi : i < seen.size := by
        have := Array.getElem?_eq_some_iff.1 h
        exact this.1
      constructor
      · rintro ⟨hn, hs⟩
        refine ⟨⟨fun hmem => ?_, hn⟩, fun k hk => ?_⟩
        · have := hs i hmem
          simp [hi] at this
        · rcases List.mem_cons.1 hk with rfl | hk
          · exact h
          · have := hs k hk
            rw [Array.getElem?_setIfInBounds] at this
            split at this
            · simp_all
            · exact this
      · rintro ⟨⟨hni, hn⟩, hs⟩
        refine ⟨hn, fun k hk => ?_⟩
        have hne : i ≠ k := fun he => hni (he ▸ hk)
        rw [Array.getElem?_setIfInBounds, if_neg hne]
        exact hs k (List.mem_cons_of_mem _ hk)
    · rename_i h
      constructor
      · intro hf; cases hf
      · rintro ⟨_, hs⟩
        exact absurd (hs i (List.mem_cons_self ..)) (by simpa using h)

theorem perm_range_of_nodup {n : Nat} {order : List Nat} (nodup : order.Nodup)
    (bounded : ∀ i ∈ order, i < n) (long : n ≤ order.length) : order.Perm (List.range n) := by
  induction n generalizing order with
  | zero =>
    cases order with
    | nil => simp
    | cons i rest => exact absurd (bounded i (List.mem_cons_self ..)) (Nat.not_lt_zero i)
  | succ n ih =>
    by_cases hmem : n ∈ order
    · have hperm := List.perm_cons_erase hmem
      have hrest : (order.erase n).Perm (List.range n) := by
        apply ih (nodup.erase n)
        · intro i hi
          have := (nodup.mem_erase_iff).1 hi
          have := bounded i this.2
          omega
        · rw [List.length_erase_of_mem hmem]
          omega
      rw [List.range_succ]
      exact hperm.trans ((hrest.cons n).trans (@List.perm_append_comm _ [n] _))
    · have hrest : order.Perm (List.range n) := by
        apply ih nodup
        · intro i hi
          have := bounded i hi
          have : i ≠ n := fun he => hmem (he ▸ hi)
          omega
        · omega
      have := hrest.length_eq
      rw [List.length_range] at this
      omega

theorem perm_of_isOrder {order : List Nat} (h : isOrder order = true) :
    order.Perm (List.range order.length) := by
  obtain ⟨nodup, bounded⟩ := (marksEach_iff _ _).1 h
  refine perm_range_of_nodup nodup (fun i hi => ?_) (Nat.le_refl _)
  have := bounded i hi
  rw [Array.getElem?_eq_some_iff] at this
  simpa using this.1

end OffloadBench.Draw
