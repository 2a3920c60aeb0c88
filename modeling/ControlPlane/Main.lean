import ControlPlane.Cli.Program

/-!
# The command line

Runs the program on the file system: files are read as UTF-8 text, and what the program writes
goes to standard output and standard error.
-/

namespace ControlPlane
namespace Cli

def fileErrorOf : IO.Error → FileError
  | .noFileOrDirectory .. => .notFound
  | .permissionDenied .. => .permissionDenied
  | .inappropriateType .. => .isADirectory
  | .invalidArgument .. => .other "InvalidInput"
  | .interrupted .. => .other "Interrupted"
  | .unexpectedEof => .other "UnexpectedEof"
  | _ => .other "Other"

def readText (path : String) : IO (Except FileError String) := do
  try
    let bytes ← IO.FS.readBinFile path
    match String.fromUTF8? bytes with
    | some text => pure (.ok text)
    | none => pure (.error .invalidData)
  catch e => pure (.error (fileErrorOf e))

end Cli
end ControlPlane

open ControlPlane.Cli in
def main (args : List String) : IO UInt32 := do
  let exit ← program readText args
  IO.print exit.stdout
  IO.eprint exit.stderr
  pure exit.code
