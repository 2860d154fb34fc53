import ComponentCompiler.Markup.Basic

/-!
# Writing markup

Attributes are written in the order of their names, in double quotes unless only
single quotes avoid an escape.  Void elements without content have no end tag.
The content of raw text elements is written as it is; elsewhere the three
characters that would start markup are escaped.
-/

namespace ComponentCompiler.Markup

/-- A character with what would start markup escaped. -/
def escapeChar (c : Char) : Text :=
  if c = '&' then "&amp;".toList
  else if c = '<' then "&lt;".toList
  else if c = '>' then "&gt;".toList
  else [c]

/-- A text with what would start markup escaped. -/
def escape (s : Text) : Text := s.flatMap escapeChar

/-- An escaped attribute value between quotation marks. -/
def quote (s : Text) : Text :=
  if s.contains '"' then
    if s.contains Text.apostrophe then
      '"' :: (s.flatMap (fun c => if c = '"' then "&quot;".toList else [c]) ++ ['"'])
    else Text.apostrophe :: (s ++ [Text.apostrophe])
  else '"' :: (s ++ ['"'])

/-- The encoding of the output. -/
def outputEncoding : Text := "utf-8".toList

/-- How many characters lead up to the name of an encoding at the start of a text:
a semicolon, or the start of a line, blanks, and the word with its equals sign. -/
def encodingLabelLength? (atLineStart : Bool) (s : Text) : Option Nat :=
  let label := "charset=".toList
  let after (skipped : Nat) : Option Nat :=
    let blanks := (Text.leading (s.drop skipped)).length
    if label.isPrefixOf (s.drop (skipped + blanks)) then some (skipped + blanks + label.length)
    else none
  let direct := if atLineStart then after 0 else none
  match direct with
  | some n => some n
  | none => if s.head? = some ';' then after 1 else none

/-- A content type with every encoding in it replaced by that of the output. -/
def renameEncoding (atLineStart : Bool) (s : Text) : Text :=
  match s with
  | [] => []
  | c :: rest =>
      match encodingLabelLength? atLineStart (c :: rest) with
      | some n =>
          let named := ((c :: rest).drop n).takeWhile (· != ';')
          (c :: rest).take n ++ outputEncoding ++
            renameEncoding false (rest.drop (n + named.length - 1))
      | none => c :: renameEncoding (c == '\n') rest
termination_by s.length
decreasing_by all_goals (simp_wf; try omega)

/-- The text that is written for an attribute value. -/
def AttributeValue.written : AttributeValue → Text
  | text value => value.toList
  | words values => (" ".intercalate values).toList
  | encoding _ => outputEncoding
  | contentType value => renameEncoding true value.toList

/-- An attribute as it stands in a tag. -/
def Attribute.render (a : Attribute) : Text :=
  ' ' :: (a.name.toList ++ '=' :: quote (escape a.value.written))

/-- The attributes of an element as they stand in its tag. -/
def renderAttributes (attributes : List Attribute) : Text :=
  (attributes.mergeSort fun a b => a.name ≤ b.name).flatMap Attribute.render

mutual

/-- The text of a node; `raw` tells whether it stands in a raw text element. -/
def Node.render (raw : Bool) : Node → Text
  | .element name attributes children =>
      let head := '<' :: (name.toList ++ renderAttributes attributes)
      if isVoid name && children.isEmpty then head ++ ['/', '>']
      else
        head ++ ['>'] ++ renderNodes (isRawText name) children ++ ['<', '/'] ++ name.toList ++ ['>']
  | .text content => if raw then content.toList else escape content.toList
  | .comment content => "<!--".toList ++ content.toList ++ "-->".toList
  | .doctype content => "<!DOCTYPE ".toList ++ content.toList ++ ">\n".toList
  | .cdata content => "<![CDATA[".toList ++ content.toList ++ "]]>".toList
  | .declaration content => "<?".toList ++ content.toList ++ "?>".toList
  | .instruction content => "<?".toList ++ content.toList ++ ">".toList

/-- The text of a list of nodes. -/
def renderNodes (raw : Bool) : List Node → Text
  | [] => []
  | node :: rest => node.render raw ++ renderNodes raw rest

end

/-- The text of a document. -/
def render (nodes : List Node) : String := String.ofList (renderNodes false nodes)

mutual

/-- The node with an attribute set on every element in it. -/
def Node.mark (new : Attribute) : Node → Node
  | .element name attributes children =>
      .element name (setAttribute attributes new) (markNodes new children)
  | node => node

/-- The nodes of a list marked. -/
def markNodes (new : Attribute) : List Node → List Node
  | [] => []
  | node :: rest => node.mark new :: markNodes new rest

end

end ComponentCompiler.Markup
