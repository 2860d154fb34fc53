import ComponentCompiler.CommandLine.Command
import ComponentCompiler.Component.Compile
import ComponentCompiler.Settings.Configure

/-!
# Runs of the program

A run reads its arguments, applies the configuration, compiles a component and
writes the result.  Options, registered compilers, the cache of styles and the
files written stay for the next run; the texts written on the way do not.
-/

namespace ComponentCompiler.CommandLine

/-- What runs share. -/
structure Session where
  disk : Disk
  extensions : Extensions
  options : Settings.Options := {}
  registry : Registry := {}
  cache : FinishedStyles := {}
  /-- Whether lines for following a compile are written. -/
  verbose : Bool := false

/-- A run so far: what runs share, and what this one has written. -/
structure RunState where
  session : Session
  stdout : String := ""
  stderr : String := ""
  /-- The files written, by key. -/
  written : Entries String := []

/-- Why a run ends before its end. -/
inductive Stop
  /-- The run gives this exit code. -/
  | exit (code : Nat)
  /-- The configuration is refused. -/
  | refused (refusal : Settings.Refusal)
  /-- A file cannot be read or written. -/
  | unreadable (fault : Disk.ReadFault)

/-- The exit code after a stop. -/
def Stop.exitCode : Stop → Nat
  | exit code => code
  | _ => 1

/-- What is still to be said after a stop. -/
def Stop.message? : Stop → Option String
  | exit _ => none
  | refused refusal => some refusal.message
  | unreadable fault => some fault.message

/-- A step of a run. -/
abbrev Run (α : Type) := EStateM Stop RunState α

namespace Run

/-- Writes to the standard output. -/
def write (text : String) : Run Unit := modify fun s => { s with stdout := s.stdout ++ text }

/-- Writes to the standard error. -/
def complain (text : String) : Run Unit := modify fun s => { s with stderr := s.stderr ++ text }

/-- Tells of an error and ends the run. -/
def fail {α : Type} (message : String) : Run α := do
  complain s!"Error: {message}\n"
  throw (.exit 1)

/-- Applies a configuration module to what runs share, and tells whether there is
one. -/
def loadConfig (path : Option String) : Run Bool := fun s =>
  let session := s.session
  let update (t : Settings.Target) : RunState :=
    { s with session := { session with options := t.options, registry := t.registry }
             stderr := s.stderr ++ t.console }
  match (Settings.Applying.load session.verbose session.disk path).run
      { options := session.options, registry := session.registry } with
  | .ok found target => .ok found (update target)
  | .error refusal target => .error (.refused refusal) (update target)

/-- Applies the named configuration module, which has to be there, or else the one
that is looked for by default. -/
def configure : Option String → Run Unit
  | none => discard (loadConfig none)
  | some path => do
      if !(← loadConfig (some path)) then fail s!"Config file '{path}' not found."

/-- The content of a component and its absolute path, if it is not the standard
input. -/
def readSource (source stdin : String) : Run (String × Option String) := do
  let disk := (← get).session.disk
  if source == standardInputName then return (stdin, none)
  else if !disk.contains source then fail s!"File '{source}' not found."
  else
    match disk.read source with
    | .error fault => throw (.unreadable fault)
    | .ok content => return (content, some (Path.absolute disk.workingDirectory source))

/-- Compiles a component. -/
def compile (request : CompileRequest) : Run CompileResult := fun s =>
  let session := s.session
  let setup : Setup :=
    { options := session.options, registry := session.registry, cacheFollowsOptions := true }
  let around : Surroundings :=
    { disk := session.disk, extensions := session.extensions, verbose := session.verbose }
  let update (b : BuildState) : RunState :=
    { s with session := { session with cache := b.cache }, stderr := s.stderr ++ b.console }
  match (setup.compile around request).run { cache := session.cache } with
  | .ok result b => .ok result (update b)
  | .error failure b => (fail s!"Compilation Failed:{failure.message}").run (update b)

/-- Writes a text to a file. -/
def writeFile (path content : String) : Run Unit := do
  let disk := (← get).session.disk
  match disk.write path content with
  | .error fault => throw (.unreadable fault)
  | .ok changed =>
      modify fun s =>
        { s with session := { s.session with disk := changed }
                 written := Entries.set s.written (disk.key path) content }

/-- Writes the result of a command. -/
def finish (command : Command) (result : CompileResult) : Run Unit :=
  match command with
  | .deps _ => result.dependencies.forM fun path => write (path ++ "\n")
  | .build source output _ _ => do
      match output with
      | none => write result.code
      | some path => do
          writeFile path result.code
          complain (Console.info s!"Wrote {path}")
      let count := result.warnings.length
      if count != 0 then
        complain (Console.warning s!"{count} warning(s) while compiling {source}")

/-- Does what is asked for. -/
def invoke (invocation : Invocation) (stdin : String) : Run Unit :=
  match invocation.command with
  | none => write mainGrammar.helpText
  | some command => do
      modify fun s => { s with session := { s.session with verbose := invocation.verbose } }
      configure invocation.config
      let (content, filePath) ← readSource command.source stdin
      let result ← compile
        { content, filePath, scope := command.scope, strict := command.isStrict }
      finish command result

/-- Reads the arguments and does what they ask for. -/
def ofArguments (arguments : List String) (stdin : String) : Run Unit :=
  match Invocation.read arguments with
  | .ok invocation => invoke invocation stdin
  | .error (.help text) => do
      write text
      throw (.exit 0)
  | .error (.misuse usage program message) => do
      complain s!"{usage}{program}: error: {message}\n"
      throw (.exit 2)

end Run

/-- What a run leaves. -/
structure Outcome where
  session : Session
  stdout : String
  stderr : String
  written : Entries String
  /-- Why the run ended before its end, if it did. -/
  stop : Option Stop

/-- Runs the program once. -/
def Session.run (session : Session) (arguments : List String) (stdin : String) : Outcome :=
  let outcome (s : RunState) (stop : Option Stop) : Outcome :=
    { session := s.session, stdout := s.stdout, stderr := s.stderr, written := s.written, stop }
  match (Run.ofArguments arguments stdin).run { session } with
  | .ok _ s => outcome s none
  | .error stop s => outcome s (some stop)

end ComponentCompiler.CommandLine
