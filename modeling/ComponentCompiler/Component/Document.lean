import ComponentCompiler.Component.Block
import ComponentCompiler.Diagnostic
import ComponentCompiler.Markup.Printer
import ComponentCompiler.Markup.Tree
import ComponentCompiler.Text.Lines

/-!
# Sections of a document

The blocks of a component are the elements at the top of its document that are
named for a kind of block.  A section is such an element, with what its
attributes and its content say.
-/

namespace ComponentCompiler

/-- An element at the top of a document that holds a block. -/
structure Section where
  kind : BlockKind
  attributes : List Markup.Attribute
  children : List Markup.Node

namespace Section

/-- The text of an attribute, if it is there and not empty. -/
def attribute? (s : Section) (name : String) : Option String :=
  match Markup.attribute? s.attributes name with
  | some value => if value.asText.isEmpty then none else some value.asText
  | none => none

/-- The language of the block. -/
def lang? (s : Section) : Option String := s.attribute? "lang"

/-- The file that the block refers to. -/
def src? (s : Section) : Option String := s.attribute? "src"

/-- Whether the styles of the block are for this component only. -/
def isScoped (s : Section) : Bool := s.attributes.any (·.name == "scoped")

/-- The source of the block.  A template is written as markup; the other blocks
hold raw text. -/
def inner (s : Section) : String :=
  String.ofList (Markup.renderNodes (s.kind != .template) s.children)

/-- The names of the elements directly inside. -/
def childElements (s : Section) : List String :=
  s.children.filterMap fun
    | .element name _ _ => some name
    | _ => none

end Section

/-- A parsed component document. -/
structure Document where
  nodes : List Markup.Node

namespace Document

/-- Reads a document. -/
def parse (content : String) : Except Markup.Rejection Document := do
  return ⟨← Markup.parse content⟩

/-- The sections in the order of the document. -/
def sections (doc : Document) : List Section :=
  doc.nodes.filterMap fun
    | .element name attributes children =>
        (BlockKind.ofName? name).map fun kind => ⟨kind, attributes, children⟩
    | _ => none

/-- The first template. -/
def template? (doc : Document) : Option Section := doc.sections.find? (·.kind == .template)

/-- Whether any styles are for this component only. -/
def hasScopedStyle (doc : Document) : Bool :=
  doc.sections.any fun s => s.kind == .style && s.isScoped

/-- The fault of having more than one template, if the document has it. -/
def countFault? (doc : Document) (filePath : Option String) : Option Diagnostic :=
  let count := doc.sections.countP (·.kind == .template)
  if 1 < count then
    some
      { kind := .structural
        message := s!"Found {count} <template> blocks"
        suggestion := some "Only one template tag is allowed per *.vue file"
        filePath := filePath }
  else none

/-- Whether there is any element. -/
def hasElement (doc : Document) : Bool :=
  doc.nodes.any fun
    | .element _ _ _ => true
    | _ => false

/-- The document as markup. -/
def render (doc : Document) : String := Markup.render doc.nodes

/-- The document as markup with an empty attribute added to every element. -/
def withAttribute (doc : Document) (name : String) : String :=
  Markup.render (Markup.markNodes ⟨name, .text ""⟩ doc.nodes)

end Document

/-- Template markup with the scope added to every element. -/
def addScopeAttribute (template scopeId : String) : Except Markup.Rejection String := do
  return (← Document.parse template).withAttribute scopeId

end ComponentCompiler
