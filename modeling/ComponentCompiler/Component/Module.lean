import ComponentCompiler.Component.Block

/-!
# The emitted module

The compiled blocks are put together to one script module: a statement that
inserts the styles for each style block, the scripts, and a statement that
attaches the template to what the scripts export.
-/

namespace ComponentCompiler.Module

/-- The literal for a text in the emitted script. -/
def literal (s : String) : String := String.ofList (Text.Quoted.encode s.toList)

/-- Inserts styles into the page. -/
def insertStyle (css : String) : String :=
  "var __vueify_style__ = require(\"vueify-insert-css\").insert(" ++ css ++ ")\n"

/-- Unwraps a default export. -/
def unwrapDefault : String :=
  "if (module.exports.__esModule) module.exports = module.exports.default\n"

/-- Exports an empty definition. -/
def emptyExport : String := "module.exports = \x7b\x7d\n"

/-- Attaches a template to the exported definition, or to its options if the
export is a constructor. -/
def assignTemplate (template : String) : String :=
  ";(typeof module.exports === \"function\"? module.exports.options: module.exports).template = " ++
    template ++ "\n"

/-- A part of the module: a compiled block, or a template that the minifier gave
nothing for. -/
inductive Part
  | block (block : CompiledBlock)
  | missingTemplate
  deriving DecidableEq, Repr

/-- The source of a part, if it is a block of the given kind. -/
def Part.source? (kind : BlockKind) : Part → Option String
  | block b => if b.kind = kind then some b.source else none
  | missingTemplate => none

/-- The literal for the template that a part is, if it is one. -/
def Part.template? : Part → Option String
  | block b => if b.kind = .template then some (literal b.source) else none
  | missingTemplate => some "null"

/-- The module for parts in the order of the document. -/
def assemble (parts : List Part) : String :=
  let styles := parts.filterMap (Part.source? .style)
  let scripts := parts.filterMap (Part.source? .script)
  String.join (styles.map fun css => insertStyle (literal css)) ++
    (if scripts.isEmpty then emptyExport else "\n".intercalate scripts ++ "\n" ++ unwrapDefault) ++
    String.join ((parts.filterMap Part.template?).map assignTemplate)

/-- The module for compiled blocks in the order of the document. -/
def merge (blocks : List CompiledBlock) : String := assemble (blocks.map .block)

end ComponentCompiler.Module
