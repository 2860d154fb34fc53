import ComponentCompiler.Text.Basic

/-!
# Markup trees

A document is a list of nodes: elements with attributes and children, text, and
the kinds of markup that are not elements.  Names are in lower case.  Some
attributes hold a list of words; two attributes of `meta` elements name the
encoding of the document and are written anew for the encoding of the output.
-/

namespace ComponentCompiler.Markup

/-- The value of an attribute. -/
inductive AttributeValue
  | text (value : String)
  /-- A value that is a list of words. -/
  | words (values : List String)
  /-- The name of an encoding. -/
  | encoding (value : String)
  /-- A content type, which may name an encoding. -/
  | contentType (value : String)
  deriving DecidableEq, Repr, Inhabited

namespace AttributeValue

/-- The value as one text, words being separated by a space. -/
def asText : AttributeValue → String
  | text value | encoding value | contentType value => value
  | words values => " ".intercalate values

end AttributeValue

/-- An attribute of an element. -/
structure Attribute where
  name : String
  value : AttributeValue
  deriving DecidableEq, Repr, Inhabited

/-- A node of a document. -/
inductive Node
  | element (name : String) (attributes : List Attribute) (children : List Node)
  | text (content : String)
  | comment (content : String)
  | doctype (content : String)
  | cdata (content : String)
  | declaration (content : String)
  | instruction (content : String)
  deriving Inhabited

/-- The value of the attribute with the given name. -/
def attribute? (attributes : List Attribute) (name : String) : Option AttributeValue :=
  (attributes.find? (·.name == name)).map (·.value)

/-- Sets an attribute: its value is replaced if there is one of this name,
otherwise it is added at the end. -/
def setAttribute (attributes : List Attribute) (new : Attribute) : List Attribute :=
  if attributes.any (·.name == new.name) then
    attributes.map fun old => if old.name == new.name then new else old
  else attributes ++ [new]

/-- Elements that have no content and need no end tag. -/
def isVoid (name : String) : Bool :=
  ["area", "base", "br", "col", "embed", "hr", "img", "input", "keygen", "link", "menuitem",
    "meta", "param", "source", "track", "wbr", "basefont", "bgsound", "command", "frame", "image",
    "isindex", "nextid", "spacer"].contains name

/-- Elements whose content is text without any markup. -/
def isRawText (name : String) : Bool := name == "script" || name == "style"

/-- Elements in which blanks are kept as they are. -/
def keepsBlanks (name : String) : Bool := name == "pre" || name == "textarea"

/-- Whether an attribute of an element holds a list of words. -/
def holdsWords (element key : String) : Bool :=
  if ["class", "accesskey", "dropzone"].contains key then true
  else if key == "rel" then ["a", "link", "area"].contains element
  else if key == "rev" then ["a", "link"].contains element
  else if key == "headers" then ["td", "th"].contains element
  else
    [("form", "accept-charset"), ("object", "archive"), ("icon", "sizes"), ("iframe", "sandbox"),
      ("output", "for")].contains (element, key)

end ComponentCompiler.Markup
