import OffloadBench.Draw.Generator

/-! # Shuffle

Exchanges each position, from the last down, with one drawn at or below it. The draws are a list of
their own, so that an arrangement is a function of the list and of what was drawn. With its checks, a
shuffle draws and exchanges by turns, and halts at a bound of zero or a position that is not there.
-/
namespace OffloadBench.Draw

/-- Exchanges position `i` with the first draw, then position `i - 1` with the next, down to 1. -/
def arrange {α : Type _} : Nat → List Nat → Array α → Array α
  | i + 1, j :: draws, items => arrange i draws (items.swapIfInBounds (i + 1) j)
  | _, _, items => items

inductive ShuffleError
  | draw (error : DrawError)
  | outOfRange (position length : Nat)
  deriving DecidableEq, Repr

def ShuffleError.message : ShuffleError → String
  | .draw error => error.message
  | .outOfRange position length =>
    s!"index out of bounds: the len is {length} but the index is {position}"

def exchange? {α : Type _} (items : Array α) (i j : Nat) : Except ShuffleError (Array α) :=
  if hi : i < items.size then
    if hj : j < items.size then .ok (items.swap i j)
    else .error (.outOfRange j items.size)
  else .error (.outOfRange i items.size)

theorem swapIfInBounds_perm {α : Type _} (items : Array α) (i j : Nat) :
    (items.swapIfInBounds i j).Perm items := by
  unfold Array.swapIfInBounds
  split
  · split
    · exact Array.swap_perm ..
    · exact Array.Perm.refl _
  · exact Array.Perm.refl _

theorem arrange_perm {α : Type _} (i : Nat) (draws : List Nat) (items : Array α) :
    (arrange i draws items).Perm items := by
  induction i generalizing draws items with
  | zero => simp [arrange]
  | succ i ih =>
    cases draws with
    | nil => simp [arrange]
    | cons j draws => exact (ih draws _).trans (swapIfInBounds_perm items (i + 1) j)

theorem swapIfInBounds_map {α β : Type _} (f : α → β) (items : Array α) (i j : Nat) :
    (items.map f).swapIfInBounds i j = (items.swapIfInBounds i j).map f := by
  unfold Array.swapIfInBounds
  simp only [Array.size_map]
  split
  · split
    · apply Array.ext
      · simp
      · intro k hk hk'
        simp only [Array.getElem_map, Array.getElem_swap]
        split
        · rfl
        · split <;> rfl
    · rfl
  · rfl

theorem arrange_map {α β : Type _} (f : α → β) (i : Nat) (draws : List Nat) (items : Array α) :
    arrange i draws (items.map f) = (arrange i draws items).map f := by
  induction i generalizing draws items with
  | zero => simp [arrange]
  | succ i ih =>
    cases draws with
    | nil => simp [arrange]
    | cons j draws => rw [arrange, arrange, swapIfInBounds_map, ih]

namespace Generator

def drawIndices (g : Generator) : Nat → List Nat × Generator
  | 0 => ([], g)
  | i + 1 =>
    let (j, g) := g.below (i + 2)
    let (draws, g) := g.drawIndices i
    (j :: draws, g)

def shuffle {α : Type _} (g : Generator) (items : List α) : List α × Generator :=
  let last := items.length - 1
  let (draws, g) := g.drawIndices last
  ((arrange last draws items.toArray).toList, g)

/-- Draws for each position from `i` down to 1 and exchanges the two at once, with every check. -/
def exchanges? {α : Type _} : Generator → Nat → Array α → Except ShuffleError (Array α × Generator)
  | g, 0, items => .ok (items, g)
  | g, i + 1, items =>
    match g.below? (i + 2) with
    | .error e => .error (.draw e)
    | .ok (j, g) =>
      match exchange? items (i + 1) j with
      | .error e => .error e
      | .ok items => g.exchanges? i items

def shuffle? {α : Type _} (g : Generator) (items : List α) :
    Except ShuffleError (List α × Generator) :=
  match g.exchanges? (items.length - 1) items.toArray with
  | .error e => .error e
  | .ok (items, g) => .ok (items.toList, g)

theorem shuffle_perm {α : Type _} (g : Generator) (items : List α) :
    (g.shuffle items).1.Perm items := by
  simpa [shuffle, Array.perm_iff_toList_perm] using
    arrange_perm (items.length - 1) (g.drawIndices (items.length - 1)).1 items.toArray

/-- What is drawn depends on how many items there are, and not on what they are. -/
theorem shuffle_map {α β : Type _} (g : Generator) (f : α → β) (items : List α) :
    g.shuffle (items.map f) = ((g.shuffle items).1.map f, (g.shuffle items).2) := by
  simp only [shuffle, List.length_map, ← List.map_toArray, arrange_map, Array.toList_map]

end Generator

end OffloadBench.Draw
