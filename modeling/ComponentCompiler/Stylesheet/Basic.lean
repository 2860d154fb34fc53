import ComponentCompiler.Text.Case

/-!
# Style sheets

A style sheet is a tree of rules, at-rules, declarations and comments that keeps
every character it was read from: each node holds the blanks before it, and a
block the blanks before its closing brace.  `render` writes the text back.
-/

namespace ComponentCompiler

/-- A property and its value.  `between` holds the colon and the blanks around it. -/
structure Declaration where
  before : Text := []
  prop : Text
  between : Text := [':']
  value : Text
  semicolon : Bool := true
  deriving DecidableEq, Repr

namespace Declaration

/-- The name under which the property is looked up. -/
def name (d : Declaration) : Text := Text.lower d.prop

end Declaration

namespace Stylesheet

/-- The semicolon that ends a node, if it has one. -/
def semicolonText (semicolon : Bool) : Text := if semicolon then [';'] else []

/-- One statement of a style sheet. -/
inductive Node
  /-- A comment with its delimiters. -/
  | comment (before text : Text)
  | declaration (d : Declaration)
  /-- Text that is none of the other statements, kept as it is. -/
  | raw (before text : Text) (semicolon : Bool)
  /-- A selector with its block; `between` stands before the opening brace. -/
  | rule (before selector between : Text) (nodes : List Node) (after : Text)
  /-- An at-rule with a block.  The parameters start with the blanks after the name. -/
  | atBlock (before name params between : Text) (nodes : List Node) (after : Text)
  /-- An at-rule without a block. -/
  | atStatement (before name params between : Text) (semicolon : Bool)
  deriving Inhabited

/-- The text of a declaration. -/
def renderDeclaration (d : Declaration) : Text :=
  d.before ++ d.prop ++ d.between ++ d.value ++ semicolonText d.semicolon

mutual

/-- The text of a statement. -/
def Node.render : Node → Text
  | .comment before text => before ++ text
  | .declaration d => renderDeclaration d
  | .raw before text semicolon => before ++ text ++ semicolonText semicolon
  | .rule before selector between nodes after =>
      before ++ selector ++ between ++ ['\x7b'] ++ renderNodes nodes ++ after ++ ['\x7d']
  | .atBlock before name params between nodes after =>
      before ++ '@' :: name ++ params ++ between ++ ['\x7b'] ++ renderNodes nodes ++ after ++
        ['\x7d']
  | .atStatement before name params between semicolon =>
      before ++ '@' :: name ++ params ++ between ++ semicolonText semicolon

/-- The text of a list of statements. -/
def renderNodes : List Node → Text
  | [] => []
  | node :: rest => node.render ++ renderNodes rest

end

mutual

/-- The statement lists of the blocks in a statement, outer ones first. -/
def Node.blocks : Node → List (List Node)
  | .rule _ _ _ nodes _ => nodes :: blocksOf nodes
  | .atBlock _ _ _ _ nodes _ => nodes :: blocksOf nodes
  | _ => []

/-- The statement lists of the blocks in a list of statements. -/
def blocksOf : List Node → List (List Node)
  | [] => []
  | node :: rest => node.blocks ++ blocksOf rest

end

/-- The declaration that a node is, if it is one. -/
def Node.declaration? : Node → Option Declaration
  | .declaration d => some d
  | _ => none

/-- The declarations among the statements themselves, not those of inner blocks. -/
def declarations (nodes : List Node) : List Declaration := nodes.filterMap (·.declaration?)

/-- The selector of a rule. -/
def Node.selector? : Node → Option Text
  | .rule _ selector _ _ _ => some selector
  | _ => none

mutual

/-- Every statement list in a statement replaced, the lists of inner blocks being
replaced after the one that holds them. -/
def Node.mapBlocks (f : List Node → List Node) : Node → Node
  | .rule before selector between nodes after =>
      .rule before selector between (f (mapBlocksOf f nodes)) after
  | .atBlock before name params between nodes after =>
      .atBlock before name params between (f (mapBlocksOf f nodes)) after
  | node => node

/-- Every statement list in the statements of a list replaced. -/
def mapBlocksOf (f : List Node → List Node) : List Node → List Node
  | [] => []
  | node :: rest => node.mapBlocks f :: mapBlocksOf f rest

end

theorem renderNodes_append (xs ys : List Node) :
    renderNodes (xs ++ ys) = renderNodes xs ++ renderNodes ys := by
  induction xs with
  | nil => rfl
  | cons x xs ih => simp [renderNodes, ih]

end Stylesheet

/-- A whole style sheet: its statements and the blanks at its end. -/
structure Stylesheet where
  nodes : List Stylesheet.Node := []
  after : Text := []

namespace Stylesheet

/-- The text of a style sheet. -/
def render (sheet : Stylesheet) : Text := renderNodes sheet.nodes ++ sheet.after

/-- The statement lists of the sheet and of all blocks in it, outer ones first. -/
def containers (sheet : Stylesheet) : List (List Node) := sheet.nodes :: blocksOf sheet.nodes

/-- Every statement list of the sheet replaced, at any depth.  The function must
not change which blocks a list holds: it is applied to each list after the
blocks inside have been treated. -/
def mapContainers (f : List Node → List Node) (sheet : Stylesheet) : Stylesheet :=
  { sheet with nodes := f (mapBlocksOf f sheet.nodes) }

end Stylesheet

end ComponentCompiler
