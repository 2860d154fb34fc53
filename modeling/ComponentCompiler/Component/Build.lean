import ComponentCompiler.Component.Extension
import ComponentCompiler.Console
import ComponentCompiler.Dependency
import ComponentCompiler.Disk
import ComponentCompiler.Registry
import ComponentCompiler.Settings.Options
import ComponentCompiler.StyleCache

/-!
# The state of a build

A build step reads its surroundings, changes the state of the build and may
fail; after a failure the state is as the step left it.  This module fixes the
surroundings, the state, the failures and the elementary steps.
-/

namespace ComponentCompiler

/-- Why a build stops. -/
inductive Failure
  | diagnostic (d : Diagnostic)
  | rejectedMarkup (reason : Markup.Rejection)
  | unreadable (fault : Disk.ReadFault)
  /-- A function or a listener from outside failed. -/
  | raised (message : String)
  /-- Reports of dependencies caused reports without end. -/
  | endlessReports
  /-- The cache has to hold fewer entries than none. -/
  | cacheOverdrawn
  /-- The name of a scope is needed that has none. -/
  | unnamedScope
  /-- The result would be for a scope without a name. -/
  | unnamedResult

namespace Failure

/-- A failure in words. -/
def message : Failure → String
  | diagnostic d => d.text
  | rejectedMarkup reason => reason.report
  | unreadable fault => fault.message
  | raised message => message
  | endlessReports => "maximum recursion depth exceeded"
  | cacheOverdrawn => "'dictionary is empty'"
  | unnamedScope => "unhashable type: 'list'"
  | unnamedResult =>
      "1 validation error for CompileResult\nscope_id\n" ++
      "  Input should be a valid string [type=string_type, input_value=[], input_type=list]"

/-- A failure from outside as a failure of the build. -/
def ofExtension : ExtensionFailure → Failure
  | .raised message => raised message
  | .diagnostic d => diagnostic d

/-- An interrupted report as a failure of the build. -/
def ofInterruption : Tracker.Interruption → Failure
  | .listenerFailed message => raised message
  | .endless => endlessReports

end Failure

/-- What a finished style depends on, as far as the cache knows: the scope, the
source and whether it is scoped. -/
structure StyleKey where
  scopeId : String
  css : String
  isScoped : Bool
  deriving DecidableEq, Repr

/-- The cache of finished styles. -/
abbrev FinishedStyles := StyleCache StyleKey CompiledBlock

/-- What a build looks at but does not change. -/
structure Surroundings where
  disk : Disk
  extensions : Extensions
  /-- Whether lines for following the compile are written. -/
  verbose : Bool := false

/-- What a build changes. -/
structure BuildState where
  tracker : Tracker := {}
  cache : FinishedStyles := {}
  warnings : List Warning := []
  /-- The console lines written so far. -/
  console : String := ""
  /-- What functions from outside noted down. -/
  notes : List Value := []

/-- A step of a build. -/
abbrev Build (α : Type) := EStateM Failure BuildState α

namespace Build

/-- Writes console lines. -/
def say (lines : String) : Build Unit :=
  modify fun s => { s with console := s.console ++ lines }

/-- Writes a line for following the compile, if such lines are wanted. -/
def debug (around : Surroundings) (message : String) : Build Unit :=
  if around.verbose then say (Console.debug message) else pure ()

/-- Writes a line about a problem. -/
def warn (message : String) : Build Unit := say (Console.warning message)

/-- Records a warning. -/
def addWarning (warning : Warning) : Build Unit :=
  modify fun s => { s with warnings := s.warnings ++ [warning] }

/-- Reports a file that the component depends on. -/
def report (path : String) : Build Unit := fun s =>
  match (Tracker.emit path).run s.tracker with
  | .ok _ tracker => .ok () { s with tracker }
  | .error interruption tracker => .error (.ofInterruption interruption) { s with tracker }

/-- The result of a call, what it noted down being kept. -/
def ofRun {α : Type} (run : ExtensionRun α) : Build α := do
  modify fun s => { s with notes := s.notes ++ run.notes }
  match run.outcome with
  | .ok a => pure a
  | .error failure => throw (.ofExtension failure)

end Build

end ComponentCompiler
