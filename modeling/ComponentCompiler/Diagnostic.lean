/-!
# Diagnostics

A diagnostic is a fault of a document that a person is to mend: what is wrong,
where, what the place looks like and what could be done about it.  Every part
but the message may be missing, and the report leaves a missing part out.
-/

namespace ComponentCompiler

namespace Diagnostic

/-- What kind of fault a diagnostic reports. -/
inductive Kind
  /-- Any fault of a document. -/
  | general
  /-- The document's set of blocks is wrong. -/
  | structural
  /-- A language compiler failed. -/
  | language
  /-- A style sheet cannot be read. -/
  | style
  /-- A referenced file cannot be read. -/
  | reference
  deriving DecidableEq, Repr

end Diagnostic

/-- A fault of a document, with its place and advice as far as they are known. -/
structure Diagnostic where
  kind : Diagnostic.Kind
  message : String
  line : Option Int := none
  column : Option Int := none
  context : Option String := none
  suggestion : Option String := none
  filePath : Option String := none
  deriving DecidableEq, Repr

namespace Diagnostic

/-- A text that is shown only when there is one and it is not empty. -/
def shown (text : Option String) (layout : String → String) : String :=
  match text with
  | some t => if t.isEmpty then "" else layout t
  | none => ""

/-- Where the fault is within the file.  A column is given only along with a
line, and zero counts as unknown. -/
def place (line column : Option Int) : String :=
  match line with
  | none => ""
  | some 0 => ""
  | some l =>
      let atLine := s!" at line {l}"
      match column with
      | none => atLine
      | some 0 => atLine
      | some c => atLine ++ s!", column {c}"

/-- The full report, one line a part. -/
def text (d : Diagnostic) : String :=
  "\n❌ Compilation Error" ++ shown d.filePath (fun f => s!" in {f}") ++ place d.line d.column ++
    ":\n" ++ s!"   {d.message}\n" ++ shown d.context (fun c => s!"   > {c}\n") ++
    shown d.suggestion (fun s => s!"   💡 {s}\n")

end Diagnostic

end ComponentCompiler
