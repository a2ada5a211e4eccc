import ModularGrammar.Program

/-! # Entry point

Reads the arguments and the environment, and writes what the response says.
-/

set_option autoImplicit false

namespace ModularGrammar

def helpText : String :=
  "Verify the import/export interface of grammar modules\n\n" ++
    "Usage: grammar-check [OPTIONS] <COMMAND>\n\n" ++
    "Commands:\n" ++
    "  check [MODULES]...  Verify modules against their declared interface (all when none given)\n" ++
    "  terminals <MODULE>  Print the terminal literals of a module\n" ++
    "  interface <MODULE>  Print the declared and inferred interface of a module\n" ++
    "  list                List the modules in the catalog\n" ++
    "  help [COMMAND]      Print this help\n\n" ++
    "Options:\n" ++
    "      --format <FORMAT>        Output format, text or json (GRAMMAR_CHECK_FORMAT)\n" ++
    "      --log-level <LOG_LEVEL>  Log filter, such as debug or grammar=debug (GRAMMAR_CHECK_LOG)\n" ++
    "  -h, --help                   Print help\n"

def usageText : String :=
  "error: the arguments do not fit together\n\n" ++
    "Usage: grammar-check [OPTIONS] <COMMAND>\n\n" ++
    "For more information, try '--help'.\n"

def environment : IO CommandLine.Environment := do
  let format ← IO.getEnv CommandLine.Environment.formatVariable
  let logFilter ← IO.getEnv CommandLine.Environment.logFilterVariable
  let fallbackFilter ← IO.getEnv CommandLine.Environment.fallbackVariable
  return ⟨format, logFilter, fallbackFilter⟩

/-- Responds to the arguments in the environment of the process, and gives the exit code. -/
def runWith (arguments : List String) : IO UInt32 := do
  match respond (← environment) arguments with
  | .help =>
    IO.print helpText
    return 0
  | .usage =>
    IO.eprint usageText
    return 2
  | .ran transcript =>
    IO.eprint transcript.stderr
    IO.print transcript.stdout
    return transcript.exitCode.toUInt32

end ModularGrammar

def main (arguments : List String) : IO UInt32 := ModularGrammar.runWith arguments
