import ComponentCompiler.Settings.Check

/-!
# Blocks of a component

A component document has three kinds of blocks.  A block is extracted with its
source and its attributes, and compiled to a text of the same kind.  What goes
wrong without stopping the compile is a warning.
-/

namespace ComponentCompiler

/-- The kinds of block. -/
inductive BlockKind
  | template
  | style
  | script
  deriving DecidableEq, Repr, Inhabited

namespace BlockKind

/-- The element that holds a block of this kind. -/
def name : BlockKind → String
  | template => "template"
  | style => "style"
  | script => "script"

/-- The kind of block that an element holds. -/
def ofName? (name : String) : Option BlockKind :=
  [template, style, script].find? (·.name == name)

end BlockKind

/-- A block as it stands in the document. -/
structure Block where
  kind : BlockKind
  lang : Option String := none
  source : String := ""
  /-- The file that the source was to be read from. -/
  src : Option String := none
  isScoped : Bool := false
  deriving DecidableEq, Repr

/-- A compiled block. -/
structure CompiledBlock where
  kind : BlockKind
  source : String
  deriving DecidableEq, Repr

/-- What a warning is about. -/
inductive WarningKind
  /-- A referenced file cannot be read. -/
  | reference
  /-- The template validator has an objection. -/
  | validation
  deriving DecidableEq, Repr

namespace WarningKind

/-- The name of a kind of warning. -/
def name : WarningKind → String
  | reference => "reference"
  | validation => "validation"

/-- The kind of warning with a name. -/
def ofName? (name : String) : Option WarningKind := [reference, validation].find? (·.name == name)

end WarningKind

/-- A problem that did not stop the compile. -/
structure Warning where
  kind : WarningKind
  message : String
  path : Option String := none
  deriving DecidableEq, Repr

/-- A warning in one line, with the path it is about. -/
def Warning.text (w : Warning) : String :=
  match w.path with
  | some path => if path.isEmpty then w.message else s!"{w.message} ({path})"
  | none => w.message

/-- What a compile gives. -/
structure CompileResult where
  code : String
  scopeId : String
  dependencies : List String := []
  warnings : List Warning := []
  deriving DecidableEq, Repr

namespace Settings

open Checked

/-- One of several named choices. -/
def checkChoice {α : Type} (ofName? : String → Option α) : Value → Checked α
  | .text s =>
      match ofName? s with
      | some a => .ok a
      | none => fail .notAChoice
  | _ => fail .notAChoice

/-- A block from the values of its fields. -/
def checkBlock (fields : Entries Value) : Checked Block :=
  (both (checkField fields "kind" (checkChoice BlockKind.ofName?))
    (both (checkFieldD fields "lang" none checkOptionalText)
      (both (checkFieldD fields "source" "" checkText)
        (both (checkFieldD fields "src" none checkOptionalText)
          (checkFieldD fields "scoped" false checkTruth))))).map
    fun (kind, lang, source, src, isScoped) => { kind, lang, source, src, isScoped }

/-- A compiled block from the values of its fields. -/
def checkCompiledBlock (fields : Entries Value) : Checked CompiledBlock :=
  (both (checkField fields "kind" (checkChoice BlockKind.ofName?))
    (checkField fields "source" checkText)).map fun (kind, source) => { kind, source }

/-- The path of a reported dependency. -/
def checkDependency (fields : Entries Value) : Checked String :=
  checkField fields "path" checkText

/-- A warning from the values of its fields. -/
def checkWarning (fields : Entries Value) : Checked Warning :=
  (both (checkField fields "kind" (checkChoice WarningKind.ofName?))
    (both (checkField fields "message" checkText)
      (checkFieldD fields "path" none checkOptionalText))).map
    fun (kind, message, path) => { kind, message, path }

/-- The result of a compile from the values of its fields. -/
def checkResult (fields : Entries Value) : Checked CompileResult :=
  (both (checkField fields "code" checkText)
    (both (checkField fields "scope_id" checkText)
      (both (checkFieldD fields "dependencies" [] (checkList checkText))
        (checkFieldD fields "warnings" [] (checkList (checkModel checkWarning)))))).map
    fun (code, scopeId, dependencies, warnings) => { code, scopeId, dependencies, warnings }

end Settings

end ComponentCompiler
