import ComponentCompiler.Component.Document
import ComponentCompiler.Settings.Options
import ComponentCompiler.Stylesheet.Basic

/-!
# Extensions

Functions from outside take part in a compile in four roles: they compile the
language of a block, change a style sheet, check a template, or shrink it.  What
such a function does is given as a value: what it reports, what it notes down,
and its result or failure.
-/

namespace ComponentCompiler

/-- The failure of a function from outside. -/
inductive ExtensionFailure
  | raised (message : String)
  | diagnostic (d : Diagnostic)
  deriving DecidableEq, Repr

/-- What a language compiler gives back. -/
inductive CompilerOutput
  | text (source : String)
  /-- Something else than text, of the named type. -/
  | other (typeName : String)
  deriving DecidableEq, Repr

/-- A call of a language compiler: the files it reports one after the other, and
how it ends if all reports are taken. -/
structure CompilerRun where
  reports : List String := []
  outcome : Except ExtensionFailure CompilerOutput

/-- A call of another function: what it notes down, and how it ends. -/
structure ExtensionRun (α : Type) where
  notes : List Value := []
  outcome : Except ExtensionFailure α

/-- What a style stage is told besides the sheet. -/
structure StageContext where
  scopeId : String
  filePath : Option String
  options : Settings.Options
  deriving Repr

/-- What the functions of a configuration do, by role. -/
structure Extensions where
  compile : Function → (source : String) → (path : Option String) → CompilerRun
  stage : Function → Stylesheet → StageContext → ExtensionRun Stylesheet
  /-- A validator sees the template part of the document, if there is one. -/
  validate : Function → Option Section → (document : String) → ExtensionRun (List Value)
  /-- A minifier may give nothing. -/
  minify : Function → (template : String) → Entries Value → ExtensionRun (Option String)

/-- No function does anything. -/
def Extensions.none : Extensions where
  compile _ source _ := { outcome := .ok (.text source) }
  stage _ sheet _ := { outcome := .ok sheet }
  validate _ _ _ := { outcome := .ok [] }
  minify _ template _ := { outcome := .ok (some template) }

end ComponentCompiler
