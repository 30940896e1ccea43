import EcmaEdition.Command.Options

/-!
# Help and usage

The texts that the command line prints about itself.
-/

set_option autoImplicit false

namespace EcmaEdition.Command.Level

/-- The name of a level in messages. -/
def programName : Level → String
  | .program => "js-version-check"
  | .check => "js-version-check check"

/-- The summary of the words that a level takes. -/
def usage : Level → String
  | .program => "usage: js-version-check [-h] [-v] \x7bcheck\x7d ...\n"
  | .check =>
    "usage: js-version-check check [-h] [--tolerant] [--format \x7btext,json\x7d]\n" ++
    "                              [--target TARGET] [-v]\n" ++
    "                              input\n"

/-- What a level prints when asked for help. -/
def help : Level → String
  | .program =>
    usage .program ++
    "\n" ++
    "Detect the minimum ECMAScript edition required by JavaScript source\n" ++
    "\n" ++
    "positional arguments:\n" ++
    "  \x7bcheck\x7d\n" ++
    "    check        Report the features and minimum edition of a JS file\n" ++
    "\n" ++
    "options:\n" ++
    "  -h, --help     show this help message and exit\n" ++
    "  -v, --verbose  Enable debug logging on stderr.\n"
  | .check =>
    usage .check ++
    "\n" ++
    "positional arguments:\n" ++
    "  input                 Path to the JavaScript file\n" ++
    "\n" ++
    "options:\n" ++
    "  -h, --help            show this help message and exit\n" ++
    "  --tolerant            Analyse files with syntax errors, reporting them as\n" ++
    "                        warnings.\n" ++
    "  --format \x7btext,json\x7d  Output format (default: text).\n" ++
    "  --target TARGET       Fail with exit code 2 when the file needs a later\n" ++
    "                        edition (e.g. ES2020).\n" ++
    "  -v, --verbose         Enable debug logging on stderr.\n"

/-- What a level prints about a usage error. -/
def complaint (level : Level) (error : UsageError) : String :=
  level.usage ++ level.programName ++ ": error: " ++ error.message ++ "\n"

end EcmaEdition.Command.Level
