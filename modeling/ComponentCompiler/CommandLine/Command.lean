import ComponentCompiler.CommandLine.Arguments
import ComponentCompiler.Component.Request

/-!
# Commands

The program builds a component or lists what a component depends on.  This
module fixes how both are asked for and what their help texts say, and reads
arguments to what they ask for.
-/

namespace ComponentCompiler.CommandLine

/-- Shows a help text. -/
def helpOption : OptionSpec := ⟨["-h", "--help"], .help⟩

/-- Asks for lines to follow the compile by. -/
def verboseOption : OptionSpec := ⟨["--verbose"], .switch⟩

/-- Names the configuration module. -/
def configOption : OptionSpec := ⟨["--config"], .value⟩

/-- Names the file that the module is written to. -/
def outputOption : OptionSpec := ⟨["-o", "--output"], .value⟩

/-- Sets the scope. -/
def scopeIdOption : OptionSpec := ⟨["--scope-id"], .value⟩

/-- Refuses references that cannot be read. -/
def strictOption : OptionSpec := ⟨["--strict"], .switch⟩

/-- The program as a whole. -/
def mainGrammar : Grammar where
  program := "vueify"
  usage := "usage: vueify [-h] [--verbose] [--config CONFIG] \x7bbuild,deps\x7d ...\n"
  details :=
    "Compile .vue single-file components\n" ++
    "\n" ++
    "positional arguments:\n" ++
    "  \x7bbuild,deps\x7d\n" ++
    "    build          Compile a component into a CommonJS module\n" ++
    "    deps           List the files a component depends on\n" ++
    "\n" ++
    "options:\n" ++
    "  -h, --help       show this help message and exit\n" ++
    "  --verbose        Enable verbose output (sent to stderr)\n" ++
    "  --config CONFIG  Path to a vue.config.py (default: ./vue.config.py if\n" ++
    "                   present)\n"
  options := [helpOption, verboseOption, configOption]
  positional := .command "command" ["build", "deps"]

/-- The command that builds a component. -/
def buildGrammar : Grammar where
  program := "vueify build"
  usage :=
    "usage: vueify build [-h] [-o OUTPUT] [--scope-id SCOPE_ID] [--strict]\n" ++
    "                    [filename]\n"
  details :=
    "positional arguments:\n" ++
    "  filename              File to compile (default: read from stdin)\n" ++
    "\n" ++
    "options:\n" ++
    "  -h, --help            show this help message and exit\n" ++
    "  -o OUTPUT, --output OUTPUT\n" ++
    "                        Write the module to this file instead of stdout\n" ++
    "  --scope-id SCOPE_ID   Override the generated CSS scope id\n" ++
    "  --strict              Fail when a src reference cannot be read\n"
  options := [helpOption, outputOption, scopeIdOption, strictOption]
  positional := .optional

/-- The command that lists what a component depends on. -/
def depsGrammar : Grammar where
  program := "vueify deps"
  usage := "usage: vueify deps [-h] filename\n"
  details :=
    "positional arguments:\n" ++
    "  filename\n" ++
    "\n" ++
    "options:\n" ++
    "  -h, --help  show this help message and exit\n"
  options := [helpOption]
  positional := .required "filename"

/-- The name under which the standard input is asked for. -/
def standardInputName : String := "-"

/-- What the program is asked to do with a component. -/
inductive Command
  /-- Builds a component and writes the module to a file, or to the standard output
  if none is named. -/
  | build (source : String) (output : Option String) (scope : ScopeChoice) (strict : Bool)
  /-- Lists the files that a component depends on. -/
  | deps (source : String)
  deriving DecidableEq, Repr

namespace Command

/-- The file with the component. -/
def source : Command → String
  | build source _ _ _ => source
  | deps source => source

/-- The scope that is asked for. -/
def scope : Command → ScopeChoice
  | build _ _ scope _ => scope
  | deps _ => .derived

/-- Whether a reference that cannot be read stops the compile. -/
def isStrict : Command → Bool
  | build _ _ _ strict => strict
  | deps _ => false

end Command

/-- What the program is asked for.  Without a command it shows its help text. -/
structure Invocation where
  verbose : Bool
  /-- The configuration module, if one is named. -/
  config : Option String
  command : Option Command
  deriving DecidableEq, Repr

namespace Reading

/-- What was read for an option. -/
def value? (reading : Reading) (option : OptionSpec) : Option OptionValue :=
  Entries.get? reading.options option.title

/-- The text that was read for an option, unless it is empty. -/
def text? (reading : Reading) (option : OptionSpec) : Option String :=
  match reading.value? option with
  | some (.text s) => if s.isEmpty then none else some s
  | _ => none

/-- The scope that was read.  An empty text names a scope, too. -/
def scope (reading : Reading) : ScopeChoice :=
  match reading.value? scopeIdOption with
  | some (.text s) => .named s
  | some _ => .unnamed
  | none => .derived

/-- The file that was read as the positional argument. -/
def source (reading : Reading) : String :=
  (reading.positional.bind List.head?).getD standardInputName

end Reading

/-- The command that was read. -/
def readCommand (texts : List String) : Except Interruption (Option Command × List String) :=
  match texts with
  | [] => .ok (none, [])
  | "deps" :: arguments => do
      let reading ← depsGrammar.read arguments
      return (some (.deps reading.source), reading.extras)
  | _ :: arguments => do
      let reading ← buildGrammar.read arguments
      let command := Command.build reading.source (reading.text? outputOption) reading.scope
        (reading.value? strictOption).isSome
      return (some command, reading.extras)

/-- Reads the arguments of the program.  Arguments that neither the program nor the
command understands are refused together. -/
def Invocation.read (arguments : List String) : Except Interruption Invocation := do
  let reading ← mainGrammar.read arguments
  let (command, commandExtras) ← readCommand (reading.positional.getD [])
  let extras := reading.extras ++ commandExtras
  if extras.isEmpty then
    return { verbose := (reading.value? verboseOption).isSome
             config := reading.text? configOption, command }
  else
    let shown := " ".intercalate extras
    throw (mainGrammar.misuse s!"unrecognized arguments: {shown}")

end ComponentCompiler.CommandLine
