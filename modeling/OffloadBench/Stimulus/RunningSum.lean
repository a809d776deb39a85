import OffloadBench.Wire.Bytes

/-! # Running sums

What a device owes for each level: the words of all levels up to it, added element by element and
modulo 2 ^ 32. The sums exist for stimuli of one length.
-/
namespace OffloadBench.Stimulus
open Wire

def addWords (input sum : Payload) : Payload := List.zipWith (· + ·) input sum

/-- The sums of the levels that follow a level with the given sum. -/
def sumsAfter? (sum : Payload) : List Payload → Option (List Payload)
  | [] => some []
  | input :: rest =>
    if sum.length = input.length then
      (sumsAfter? (addWords input sum) rest).map (addWords input sum :: ·)
    else none

def runningSums? : List Payload → Option (List Payload)
  | [] => some []
  | input :: rest => (sumsAfter? input rest).map (input :: ·)

inductive SumError
  | unequalLengths
  deriving DecidableEq, Repr

def SumError.message : SumError → String
  | .unequalLengths => "all level payloads must have the same element count"

def runningSums (inputs : List Payload) : Except SumError (List Payload) :=
  match runningSums? inputs with
  | some sums => .ok sums
  | none => .error .unequalLengths

theorem length_addWords (input sum : Payload) :
    (addWords input sum).length = min input.length sum.length := by
  simp [addWords]

theorem sumsAfter?_isSome {sum : Payload} {inputs : List Payload}
    (h : ∀ p ∈ inputs, p.length = sum.length) : (sumsAfter? sum inputs).isSome := by
  induction inputs generalizing sum with
  | nil => rfl
  | cons input rest ih =>
    have hlen := h input (List.mem_cons_self ..)
    have hrest : ∀ p ∈ rest, p.length = (addWords input sum).length := by
      intro p hp
      rw [length_addWords, hlen, Nat.min_self]
      exact h p (List.mem_cons_of_mem _ hp)
    simp [sumsAfter?, hlen, ih hrest]

theorem runningSums?_isSome {n : Nat} {inputs : List Payload}
    (h : ∀ p ∈ inputs, p.length = n) : (runningSums? inputs).isSome := by
  cases inputs with
  | nil => rfl
  | cons input rest =>
    have hrest : ∀ p ∈ rest, p.length = input.length := fun p hp => by
      rw [h p (List.mem_cons_of_mem _ hp), h input (List.mem_cons_self ..)]
    simp [runningSums?, sumsAfter?_isSome hrest]

end OffloadBench.Stimulus
