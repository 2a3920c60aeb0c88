import ControlPlane.Cli.Run

/-!
# The program

The program as a whole: what it prints and the code it exits with, for given arguments and
files. Help asked for goes to standard output with success; refused arguments go to standard
error with code 2, and an error the run ends with is written as `Error: ` and the error, with
code 1. The run stops after loading the network: without a solver there is nothing to check
with, and the program says so.

The reading of files is a parameter, in any monad, so that the same definition runs on the file
system and on files given as data.
-/

namespace ControlPlane
namespace Cli

/-- How the program ends: its exit code and what it wrote. -/
structure Exit where
  code : UInt32
  stdout : String := ""
  stderr : String := ""
  deriving Repr, Inhabited

def table (rows : List (String × String)) : String :=
  let width := rows.foldl (fun w (l, _) => max w l.length) 0
  String.join (rows.map fun (l, r) => ("    " ++ l).pushn ' ' (width - l.length + 4) ++ r ++ "\n")

def optionRow (o : OptionSpec) : String × String :=
  let short := match o.short with
    | some c => "-" ++ c.toString ++ ", "
    | none => "    "
  (short ++ o.display, o.about)

def usage (command : String) : String :=
  if command.isEmpty then "netverify [OPTIONS] <NETWORK> <SUBCOMMAND>"
  else "netverify <NETWORK> " ++ command ++ " [OPTIONS]"

def helpText (command : String) : String :=
  match subcommandSpec command with
  | some spec =>
    "netverify-" ++ command ++ " \n" ++ spec.about ++ "\n\nUSAGE:\n    " ++ usage command ++
      "\n\nOPTIONS:\n" ++ table (spec.options.map optionRow)
  | none =>
    "netverify \n\nUSAGE:\n    " ++ usage "" ++ "\n\nARGS:\n" ++
      table [("<NETWORK>", "JSON file with the network description")] ++
      "\nOPTIONS:\n" ++ table (programSpec.options.map optionRow) ++
      "\nSUBCOMMANDS:\n" ++ table subcommandAbouts

def refusal : ArgError → Exit
  | .displayHelp command => { code := 0, stdout := helpText command }
  | .helpOnMissing => { code := 2, stderr := helpText "" }
  | e => { code := 2, stderr := "error: " ++ e.message ++ "\n\nUSAGE:\n    " ++ usage "" ++
      "\n\nFor more information try --help\n" }

def failed (e : RunError) : Exit := { code := 1, stderr := "Error: " ++ e.debugText ++ "\n" }

/-- The program: read the arguments, then the network file, and build its graph. There is no
solver to check the property with, so a run that gets this far ends with the message saying
so. -/
def program {m : Type → Type} [Monad m] (readFile : String → m (Except FileError String))
    (args : List String) : m Exit := do
  match parseArguments args with
  | .error e => pure (refusal e)
  | .ok a =>
    match loadNetwork a.network (← readFile a.network) with
    | .error e => pure (failed e)
    | .ok _ => pure (failed (.message noSolverMessage))

end Cli
end ControlPlane
