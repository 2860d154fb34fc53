import ComponentCompiler.Markup.Stream

/-!
# From tokens to a tree

Elements nest as their tags do: a start tag opens an element inside the one that
is open, an end tag closes the innermost open element of its name and all inside
it, and the end of the document closes the rest.  No end tag is implied.  Text is
collected until the next tag; text of blanks only shrinks to one blank, except
where blanks are kept.
-/

namespace ComponentCompiler.Markup

/-- An element that is not closed yet; its children are listed last first. -/
structure OpenElement where
  name : String
  attributes : List Attribute
  children : List Node

/-- The state of building a tree. -/
structure Builder where
  /-- The open elements, the innermost first. -/
  stack : List OpenElement := []
  /-- The nodes outside all open elements, the last first. -/
  top : List Node := []
  /-- The pieces of text collected since the last tag, the last first. -/
  pending : List Text := []
  /-- The void elements that were closed at once and whose end tag may still come. -/
  closed : List String := []

/-- The words of a value. -/
def wordsOf (s : Text) : List Text :=
  (s.splitBy fun a b => Text.isBlank a == Text.isBlank b).filter fun word =>
    !word.all Text.isBlank

/-- The attributes of an element as its start tag gives them: of two with one name
the first gives the place and the last the value. -/
def attributesOf (element : String) (written : List (Text × Text)) : List Attribute :=
  let pairs := written.map fun (name, value) =>
    let key := String.ofList name
    if holdsWords element key then
      Attribute.mk key (.words ((wordsOf value).map String.ofList))
    else ⟨key, .text (String.ofList value)⟩
  pairs.foldl setAttribute []

/-- Marks the attribute of a `meta` element that names the document's encoding. -/
def markEncoding (element : String) (attributes : List Attribute) : List Attribute :=
  if element != "meta" then attributes
  else
    match attribute? attributes "charset", attribute? attributes "content",
        attribute? attributes "http-equiv" with
    | some charset, _, _ => setAttribute attributes ⟨"charset", .encoding charset.asText⟩
    | none, some content, some equivalent =>
        if Text.lowerName equivalent.asText == "content-type" then
          setAttribute attributes ⟨"content", .contentType content.asText⟩
        else attributes
    | _, _, _ => attributes

/-- The blanks that text may shrink to one of. -/
def isPlainBlank (c : Char) : Bool := [' ', '\n', '\t', '\x0c', '\r'].contains c

namespace Builder

/-- Adds a node at the place reached. -/
def append (b : Builder) (node : Node) : Builder :=
  match b.stack with
  | [] => { b with top := node :: b.top }
  | inner :: outer => { b with stack := { inner with children := node :: inner.children } :: outer }

/-- The content of a text node, blanks being shrunk where they are not kept. -/
def contentOf (b : Builder) (s : Text) : String :=
  if s.all isPlainBlank && !b.stack.any fun e => keepsBlanks e.name then
    if s.contains '\n' then "\n" else " "
  else String.ofList s

/-- Adds the collected text as a node. -/
def flush (b : Builder) (wrap : String → Node) : Builder :=
  match b.pending with
  | [] => b
  | pieces => { b with pending := [] }.append (wrap (b.contentOf pieces.reverse.flatten))

/-- Adds text to the collected one. -/
def collect (b : Builder) (s : Text) : Builder := { b with pending := s :: b.pending }

/-- A piece of markup that is not an element. -/
def insert (b : Builder) (wrap : String → Node) (s : Text) : Builder :=
  ((b.flush .text).collect s).flush wrap

/-- Opens an element. -/
def openElement (b : Builder) (name : String) (attributes : List Attribute) : Builder :=
  let b := b.flush .text
  { b with stack := ⟨name, attributes, []⟩ :: b.stack }

/-- Closes the innermost element. -/
def closeInnermost (b : Builder) : Builder :=
  match b.stack with
  | [] => b
  | inner :: outer =>
      { b with stack := outer }.append (.element inner.name inner.attributes inner.children.reverse)

/-- Closes the given number of elements. -/
def closeMany : Nat → Builder → Builder
  | 0, b => b
  | n + 1, b => closeMany n b.closeInnermost

/-- Closes the innermost open element of a name, with all inside it. -/
def closeElement (b : Builder) (name : String) : Builder :=
  let b := b.flush .text
  match b.stack.findIdx? (·.name == name) with
  | some n => closeMany (n + 1) b
  | none => b

/-- The state after an end tag.  That of a void element which was closed at once is
awaited, and closes nothing more. -/
def endElement (b : Builder) (name : String) : Builder :=
  if b.closed.contains name then { b with closed := b.closed.erase name }
  else b.closeElement name

/-- The state after one more token.  A start tag that is its own end tag counts as
both. -/
def add (b : Builder) : Token → Builder
  | .startTag name written =>
      let name := String.ofList name
      let b := b.openElement name (markEncoding name (attributesOf name written))
      if isVoid name then { b.closeElement name with closed := name :: b.closed } else b
  | .emptyTag name written =>
      let name := String.ofList name
      (b.openElement name (markEncoding name (attributesOf name written))).endElement name
  | .endTag name => b.endElement (String.ofList name)
  | .text s => b.collect s
  | .comment s => b.insert .comment s
  | .doctype s => b.insert .doctype s
  | .cdata s => b.insert .cdata s
  | .declaration s => b.insert .declaration s
  | .instruction s => b.insert .instruction s

/-- The nodes, every open element being closed. -/
def finish (b : Builder) : List Node :=
  let b := b.flush .text
  (closeMany b.stack.length b).top.reverse

end Builder

/-- The tree that tokens make. -/
def ofTokens (ts : List Token) : List Node := (ts.foldl Builder.add {}).finish

/-- Reads a document. -/
def parse (content : String) : Except Rejection (List Node) := do
  return ofTokens (← tokens content.toList)

end ComponentCompiler.Markup
