import RuleLexer.CommandLine.Run

/-!
# The program

The files that a request names are read first, whatever comes of them; what they hold or why they
cannot be read decides the outcome, which is printed.
-/
namespace RuleLexer.CommandLine

/-- The number of an error, which the system may give with a minus sign. -/
def errorNumber (code : UInt32) : Nat := min code.toNat (-code).toNat

/-- Why the system could not read a file. -/
def readErrorOf (error : IO.Error) : File.ReadError :=
  match error with
  | .noFileOrDirectory .. => .missing
  | .inappropriateType _ code _ =>
    if errorNumber code = 20 then .notADirectory else .isADirectory
  | error => .other (toString error)

def readFile (path : String) : IO (Except File.ReadError ByteArray) := do
  try
    let bytes ← IO.FS.readBinFile path
    return .ok bytes
  catch error => return .error (readErrorOf error)

/-- The files under some paths. -/
def readFiles (paths : List String) : IO File.Files := do
  let found ← paths.mapM fun path => do
    let result ← readFile path
    return (path, result)
  return fun path => (found.lookup path).getD (.error .missing)

/-- The paths of the files that the arguments ask for. -/
def pathsOf (arguments : List String) : List String :=
  match Request.parse arguments with
  | .ok request => request.paths
  | .error _ => []

end RuleLexer.CommandLine

def main (arguments : List String) : IO UInt32 := do
  let files ← RuleLexer.CommandLine.readFiles (RuleLexer.CommandLine.pathsOf arguments)
  let outcome := RuleLexer.CommandLine.respond files arguments
  IO.print outcome.stdout
  IO.eprint outcome.stderr
  return UInt32.ofNat outcome.code
