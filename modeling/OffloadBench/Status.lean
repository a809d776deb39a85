import OffloadBench.Fault

/-! # Status words and exit codes

A finished run leaves one word: bit 0 is set, and above it stands the failure code of the fault that
ended the run. Success is the word with nothing above. The process ends with an exit code that says
who is to blame.
-/
namespace OffloadBench

structure StatusWord where
  word : UInt64
  deriving DecidableEq, Repr

namespace StatusWord

def success : StatusWord := ⟨1⟩

/-- Stands in for a failure code of zero. -/
def fallbackCode : UInt64 := 0xFF

def failure (code : UInt64) : StatusWord :=
  let code := if code = 0 then fallbackCode else code
  ⟨(code <<< 1) ||| 1⟩

def ofResult {α : Type} : Except Fault α → StatusWord
  | .ok _ => success
  | .error fault => failure fault.failureCode

def isSuccess (s : StatusWord) : Bool := s.word == success.word

def failureCode? (s : StatusWord) : Option UInt64 :=
  if s.isSuccess then none else some (s.word >>> 1)

def toText (s : StatusWord) : String := Text.hexMarked s.word.toNat

def fileText (s : StatusWord) : String := Text.decimal s.word.toNat ++ "\n"

end StatusWord

namespace ExitCode

def success : Int := 0

def userError : Int := 1

def runtimeError : Int := 2

def testFailure : Int := 10

def ofFault (fault : Fault) : Int :=
  if fault.faultClass.isProtocolViolation then testFailure
  else if fault.faultClass = .config then userError
  else runtimeError

def ofResult {α : Type} : Except Fault α → Int
  | .ok _ => success
  | .error fault => ofFault fault

def description (code : Int) : String :=
  if code = success then "success"
  else if code = userError then "user error (invalid input/arguments)"
  else if code = runtimeError then "runtime error"
  else if code = testFailure then "test failure"
  else "unknown"

end ExitCode

end OffloadBench
