import CommandLog.Bytes
import CommandLog.Options
import CommandLog.Text.Utf8

/-!
# How a program ends

The exit code and what is written to the two output streams, for a run that ends, and the part of it
that both programs share: what an interruption of the reading of the command line leads to.
-/

namespace CommandLog

/-- What a program leaves when it has ended. -/
structure Outcome where
  code : Nat
  output : Bytes
  diagnostics : String
  deriving DecidableEq

namespace Outcome

/-- The program did what it was asked for. -/
def success (output : Bytes) : Outcome := ⟨0, output, ""⟩

/-- The program failed, and says why on one line. -/
def failure (text : String) : Outcome := ⟨1, [], text ++ "\n"⟩

end Outcome

/-- How a program is called: its flags and options, its subcommands and their operands. -/
def Program.usage (program : Program) : String :=
  let flag (f : Flag) := "    " ++ f.usage ++ "\n"
  let option (o : ValueOption) := "    " ++ o.usage ++ " [default: " ++ o.default ++ "]\n"
  let subcommand (s : Subcommand) :=
    "    " ++ s.name ++ String.join (s.level.operands.map (" <" ++ · ++ ">")) ++ "\n"
  program.name ++ " " ++ program.version ++ "\n\n"
    ++ String.join (program.level.flags.map flag)
    ++ String.join (program.level.options.map option)
    ++ String.join (program.subcommands.map subcommand)

/-- What an interruption leads to.  Help and the version are what was asked for; everything else is
a misuse of the program, which is answered with help where a subcommand is missing. -/
def Interruption.outcome (program : Program) (interruption : Interruption) : Outcome :=
  match interruption with
  | .help => .success (Utf8.encode program.usage)
  | .noSubcommand => .failure program.usage
  | .version _ _ => .success (Utf8.encode (interruption.message ++ "\n"))
  | _ => .failure ("error: " ++ interruption.message ++ "\n\nFor more information try --help")

end CommandLog
