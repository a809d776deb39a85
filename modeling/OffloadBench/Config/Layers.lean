import OffloadBench.Config.Key
import OffloadBench.Config.Validity

/-! # Layers

Settings come in three layers: a file or the defaults, the environment, the overrides. A later layer
wins. Within a layer the last binding of a key counts, and keys take effect in the order of their
names, so the first bad key is the one that is reported.
-/
namespace OffloadBench.Config

abbrev Binding := String × String

/-- Adds a binding to bindings in the order of their keys; an old one of its key is replaced. -/
def insertBinding (key value : String) : List Binding → List Binding
  | [] => [(key, value)]
  | (k, v) :: rest =>
    if key = k then (key, value) :: rest
    else if key < k then (key, value) :: (k, v) :: rest
    else (k, v) :: insertBinding key value rest

def layer (bindings : List Binding) : List Binding :=
  bindings.foldl (fun sorted (key, value) => insertBinding key value sorted) []

def environmentLayer (environment : List Binding) : List Binding :=
  layer (environment.filter fun (key, _) => keyMark.toList.isPrefixOf key.toList)

def applyBinding (s : Settings) (b : Binding) : Except ConfigError Settings :=
  match Key.ofName? b.1 with
  | none => .error (.unknownKey b.1)
  | some key =>
    match key.bind? b.2 s with
    | some s => .ok s
    | none => .error (.badValue b.1 b.2)

def applyLayer (s : Settings) (bindings : List Binding) : Except ConfigError Settings :=
  bindings.foldlM applyBinding s

def load (file : Except ConfigError Settings) (environment overrides : List Binding) :
    Except ConfigError Settings := do
  let s ← file
  let s ← applyLayer s (environmentLayer environment)
  let s ← applyLayer s (layer overrides)
  s.validate
  return s

end OffloadBench.Config
