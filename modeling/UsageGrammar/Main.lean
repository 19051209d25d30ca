import UsageGrammar.Invocation.Outcome

/-!
# The program

Reads the files that its arguments name, and ends as the library says.
-/

namespace UsageGrammar.Program

/-- The cause with a number that the system gives, of either sign. -/
def systemError (code : UInt32) (details : String) : FileError :=
  .ofCode (min code.toNat (-code).toNat) details

/-- The cause that keeps the system from reading a file. -/
def fileErrorOf : IO.Error → FileError
  | .alreadyExists _ code details | .otherError code details | .resourceBusy code details
  | .resourceVanished code details | .unsupportedOperation code details
  | .hardwareFault code details | .unsatisfiedConstraints code details
  | .illegalOperation code details | .protocolError code details | .timeExpired code details
  | .interrupted _ code details | .noFileOrDirectory _ code details
  | .invalidArgument _ code details | .permissionDenied _ code details
  | .resourceExhausted _ code details | .inappropriateType _ code details
  | .noSuchThing _ code details => systemError code details
  | .unexpectedEof => ⟨0, "unexpected end of file"⟩
  | .userError details => ⟨0, details⟩

/-- Reads one file. -/
def readFile (path : String) : IO (Except FileError ByteArray) := do
  try
    return .ok (← IO.FS.readBinFile path)
  catch error =>
    return .error (fileErrorOf error)

/-- Reads the files of an invocation. -/
def readFiles (paths : List String) : IO Files := do
  let contents ← paths.mapM fun path => do
    return (path, ← readFile path)
  return fun path => (contents.lookup path).getD (.error .notFound)

/-- Runs the program on its arguments. -/
def run (arguments : List String) : IO UInt32 := do
  let paths := ((Invocation.ofArguments? arguments).map Invocation.paths).getD []
  let exit := Invocation.runArguments (← readFiles paths) arguments
  (← IO.getStdout).putStr exit.stdout
  (← IO.getStderr).putStr exit.stderr
  return UInt32.ofNat exit.status.toNat

end UsageGrammar.Program

def main (arguments : List String) : IO UInt32 :=
  UsageGrammar.Program.run arguments
