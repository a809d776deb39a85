import OffloadBench.Json.Real

/-! # JSON values

A value keeps the members of its objects in order. The normal form of a value orders members by
name and keeps the last one of each name.
-/
namespace OffloadBench.Json

inductive Value
  | null
  | bool (b : Bool)
  | int (n : Int)
  | real (r : Real)
  | string (s : String)
  | array (items : List Value)
  | object (members : List (String × Value))
  deriving Inhabited

namespace Value

def nat (n : Nat) : Value := .int n

def ofOption {α : Type} (f : α → Value) : Option α → Value
  | some a => f a
  | none => .null

def member? (name : String) : Value → Option Value
  | .object members => members.lookup name
  | _ => none

end Value

/-- Adds a member to members in the order of their names; an old one of its name is replaced. -/
def insertMember {α : Type} (name : String) (value : α) :
    List (String × α) → List (String × α)
  | [] => [(name, value)]
  | (k, v) :: rest =>
    if name = k then (name, value) :: rest
    else if name < k then (name, value) :: (k, v) :: rest
    else (k, v) :: insertMember name value rest

mutual

def Value.normalize : Value → Value
  | .array items => .array (normalizeItems items)
  | .object members => .object (normalizeMembers [] members)
  | value => value

def normalizeItems : List Value → List Value
  | [] => []
  | item :: rest => item.normalize :: normalizeItems rest

def normalizeMembers (sorted : List (String × Value)) :
    List (String × Value) → List (String × Value)
  | [] => sorted
  | (name, value) :: rest => normalizeMembers (insertMember name value.normalize sorted) rest

end

end OffloadBench.Json
