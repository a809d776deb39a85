import OffloadBench.CommandLine.Session

/-! # The tool

Reads the arguments, the environment, the settings file and the clock, conducts the session and
writes what it ends with.
-/
namespace OffloadBench.Tool
open CommandLine Config Device

def failureOf (e : IO.Error) : SystemFailure :=
  match e with
  | .noFileOrDirectory _ code _ => ⟨.other, s!"No such file or directory (os error {code})"⟩
  | .inappropriateType _ code _ => ⟨.other, s!"Is a directory (os error {code})"⟩
  | .permissionDenied _ code _ => ⟨.other, s!"Permission denied (os error {code})"⟩
  | e => ⟨.other, toString e⟩

def environment : IO (List Binding) := do
  try
    let bytes ← IO.FS.readBinFile "/proc/self/environ"
    let text := (String.fromUTF8? bytes).getD ""
    return (text.splitOn "\x00").filterMap fun entry =>
      match entry.splitOn "=" with
      | name :: value@(_ :: _) => some (name, "=".intercalate value)
      | _ => none
  catch _ => return []

def fileLayer (path : Option String) : IO (Option FileLayer) := do
  match path with
  | none => return none
  | some path =>
    let content ← (IO.FS.readBinFile path).toBaseIO
    return some { path, content := content.mapError failureOf }

/-- Datagram transports are not part of this build. -/
def connect (a : RunArguments) (_ : Settings) : Except Failure Report :=
  .error (.rejected (.connectFailed a.target.toText "no datagram transport in this build"))

def leave (common : CommonArguments) (ending : Ending) : IO Int := do
  match common.statusFile with
  | none => return ending.exitCode
  | some path =>
    match ← (IO.FS.writeFile path ending.status.fileText).toBaseIO with
    | .ok () => return ending.exitCode
    | .error e =>
      IO.eprint (Ending.writeErrors path (failureOf e).reason common.format)
      return ending.exitCodeUnwritten

def session (invocation : Invocation) : IO Int := do
  let common := invocation.common
  let surroundings : Surroundings := {
    file := ← fileLayer common.config
    environment := ← environment
    clock := UInt64.ofNat (← IO.monoNanosNow) }
  let start ← IO.monoMsNow
  let result ← IO.lazyPure fun _ => invocation.command.conduct surroundings connect
  let ending := Ending.ofResult result
  let elapsed := (← IO.monoMsNow) - start
  IO.print (ending.output common.format elapsed)
  IO.eprint (ending.errors common.format)
  leave common ending

end OffloadBench.Tool

open OffloadBench CommandLine in
def main (arguments : List String) : IO UInt32 := do
  match Invocation.ofArguments arguments with
  | .ok invocation => return UInt32.ofNat (← Tool.session invocation).toNat
  | .error halt =>
    if halt.isMistake then
      IO.eprint halt.message
      return 2
    else
      IO.print halt.message
      return 0
