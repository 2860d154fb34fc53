import ComponentCompiler.Markup.Basic
import ComponentCompiler.Markup.Reference
import ComponentCompiler.Text.Case
import ComponentCompiler.Text.Quoted

/-!
# Tokens of markup

A token is a tag, a run of text, or one of the other kinds of markup.  This
module reads the construct that a text begins with.  A construct that does not
end is incomplete: what becomes of it is decided by who asks, since more text
could follow.
-/

namespace ComponentCompiler.Markup

open Text (isBlank leading trim lower)

/-- One token of markup.  An attribute without a value has an empty one. -/
inductive Token
  | startTag (name : Text) (attributes : List (Text × Text))
  /-- A start tag that is its own end tag. -/
  | emptyTag (name : Text) (attributes : List (Text × Text))
  | endTag (name : Text)
  | text (content : Text)
  | comment (content : Text)
  | doctype (content : Text)
  | cdata (content : Text)
  | declaration (content : Text)
  | instruction (content : Text)
  deriving DecidableEq, Repr

/-- Markup that is refused altogether. -/
inductive Rejection
  /-- A marked section without a name. -/
  | expectedName (place : Text)
  /-- A marked section with an unknown name. -/
  | unknownSection (name : Text)
  /-- A reference with too many decimal digits. -/
  | longNumber (digits : Nat)
  deriving DecidableEq, Repr

namespace Rejection

/-- What is wrong, in words. -/
def message : Rejection → String
  | expectedName place => "expected name token at " ++ String.ofList (Text.Quoted.inspect place)
  | unknownSection name =>
      "unknown status keyword " ++ String.ofList (Text.Quoted.inspect name) ++ " in marked section"
  | longNumber digits =>
      s!"Exceeds the limit ({maxDigits} digits) for integer string conversion: " ++
      s!"value has {digits} digits; use sys.set_int_max_str_digits() to increase the limit"

/-- What a user is told.  Markup that breaks the rules for marked sections comes with
advice. -/
def report : Rejection → String
  | longNumber digits => (longNumber digits).message
  | reason =>
      "The markup you provided was rejected by the parser. " ++
      "Trying a different parser or a different encoding may help.\n\n" ++
      "Original exception(s) from parser:\n AssertionError: " ++ reason.message

end Rejection

/-- The name of the element whose raw text is being read, if any. -/
abbrev RawMode := Option Text

/-- The construct at the start of a text. -/
inductive Construct
  /-- Tokens made of so many characters, and the raw text mode after them. -/
  | complete (tokens : List Token) (length : Nat) (mode : RawMode)
  | incomplete
  | rejected (reason : Rejection)

/-- Where the first greater-than sign stands. -/
def closeIndex? (s : Text) : Option Nat := s.findIdx? (· == '>')

/-- Characters that end the name in a tag. -/
def endsTagName (c : Char) : Bool := ['\t', '\n', '\r', '\x0c', ' ', '/', '>', '\x00'].contains c

/-- The name at the start of a text, as a tag has it: it begins with an ASCII
letter. -/
def tagName (s : Text) : Text :=
  match s with
  | c :: _ => if c.isAlpha then s.takeWhile (!endsTagName ·) else []
  | [] => []

/-- How many characters of blanks and slashes separate attributes here.  A slash
right before the end of a tag does not separate. -/
def gapLength : Text → Nat
  | [] => 0
  | c :: rest =>
      if isBlank c || (c == '/' && rest.head? != some '>') then gapLength rest + 1 else 0

/-- A quoted value with its quotation marks, or an unquoted one, which may be
empty.  None if a quotation mark is not closed. -/
def quotedOrBare? (s : Text) : Option Text :=
  match s with
  | [] => some []
  | c :: rest =>
      if c == '"' || c == Text.apostrophe then
        (rest.findIdx? (· == c)).map fun n => s.take (n + 2)
      else some (s.takeWhile fun d => d != '>' && !isBlank d)

/-- A value without the quotation marks around it. -/
def unquote (value : Text) : Text :=
  match value with
  | c :: rest =>
      if (c == '"' || c == Text.apostrophe) && value.getLast? == some c then rest.dropLast
      else value
  | [] => []

/-- The equals signs and the value that follow an attribute's name: how many
characters they take, and the value as it is written.  A quotation mark that is
not closed makes the value empty if a blank stands before it, and part of an
unquoted value if there are several equals signs. -/
def valuePart? (s : Text) : Option (Nat × Text) :=
  let before := (leading s).length
  let signs := ((s.drop before).takeWhile (· == '=')).length
  let rest := s.drop (before + signs)
  let blanks := (leading rest).length
  let written := rest.drop blanks
  if signs = 0 then none
  else
    match quotedOrBare? written with
    | some value => some (before + signs + blanks + value.length, value)
    | none =>
        if 0 < blanks then some (before + signs + blanks - 1, [])
        else if 1 < signs then
          let value := '=' :: written.takeWhile fun d => d != '>' && !isBlank d
          some (before + signs - 1 + value.length, value)
        else none

/-- Whether an attribute may begin after the character `before`. -/
def mayPrecedeAttribute (before : Char) : Bool :=
  before == '"' || before == Text.apostrophe || before == '/' || isBlank before

/-- The attribute at the start of a text: its name, its value with references as they
are written, and how many characters it takes with the gap after it. -/
def attributeAt? (before : Char) (s : Text) : Option ((Text × Text) × Nat) :=
  match s with
  | [] => none
  | c :: rest =>
      if mayPrecedeAttribute before && !(isBlank c || c == '/' || c == '>') then
        let name := c :: rest.takeWhile fun d => !(isBlank d || d == '/' || d == '=' || d == '>')
        let (length, value) := match valuePart? (s.drop name.length) with
          | some (n, value) => (name.length + n, unquote value)
          | none => (name.length, [])
        some ((lower name, value), length + gapLength (s.drop length))
      else none

theorem attributeAt?_pos {before : Char} {s : Text} {found : Text × Text} {n : Nat}
    (h : attributeAt? before s = some (found, n)) : 0 < n := by
  unfold attributeAt? at h
  split at h
  · simp at h
  · split at h
    · simp only [Option.some.injEq, Prod.mk.injEq] at h
      rw [← h.2]
      split <;> simp only [List.length_cons] <;> omega
    · simp at h

/-- The attributes at the start of a text, and how many characters they take. -/
def attributesAt (before : Char) (s : Text) : List (Text × Text) × Nat :=
  match _h : attributeAt? before s with
  | none => ([], 0)
  | some (found, n) =>
      if s.isEmpty then ([], 0)
      else
        let (more, m) := attributesAt ((s.take n).getLast?.getD before) (s.drop n)
        (found :: more, n + m)
termination_by s.length
decreasing_by
  have hpos := attributeAt?_pos _h
  have hne : s.length ≠ 0 := by simp_all
  simp only [List.length_drop]
  omega

/-- The start tag that a text begins with.  What looks like one but ends in an
unexpected character is text, yet its attributes are read all the same. -/
def startTag (s : Text) : Construct :=
  let name := tagName (s.drop 1)
  let afterName := s.drop (1 + name.length)
  let gap := gapLength afterName
  let before := ((name ++ afterName.take gap).getLast?).getD '<'
  let (written, n) := attributesAt before (afterName.drop gap)
  let length := 1 + name.length + gap + n
  let tag := lower name
  let attributes := written.map fun (key, value) => (key, resolveValue value)
  let read (token : Token) (length : Nat) (mode : RawMode) : Construct :=
    match written.findSome? fun (_, value) => oversizedReference? value with
    | some digits => .rejected (.longNumber digits)
    | none => .complete [token] length mode
  match s.drop length with
  | [] => .incomplete
  | '>' :: _ =>
      let mode := if isRawText (String.ofList tag) then some tag else none
      read (.startTag tag attributes) (length + 1) mode
  | '/' :: '>' :: _ => read (.emptyTag tag attributes) (length + 2) none
  | c :: _ =>
      if c.isAlpha || c == '=' || c == '/' then .incomplete
      else read (.text (s.take length)) length none

/-- Text from the third character to the first greater-than sign, taken for a
comment. -/
def bogusComment (mode : RawMode) (s : Text) : Construct :=
  match closeIndex? (s.drop 2) with
  | none => .incomplete
  | some n => .complete [.comment ((s.drop 2).take n)] (n + 3) mode

/-- Characters that a name in a well-formed end tag may consist of. -/
def isEndTagChar (c : Char) : Bool := c.isAlphanum || ['-', '.', ':', '_'].contains c

/-- The name in a well-formed end tag, if the text begins with one. -/
def endTagName? (s : Text) : Option Text :=
  let inner := (s.drop 2).dropWhile isBlank
  match inner with
  | c :: _ =>
      let name := inner.takeWhile isEndTagChar
      if c.isAlpha && ((inner.drop name.length).dropWhile isBlank).head? == some '>' then some name
      else none
  | [] => none

/-- The end tag that a text begins with.  In raw text only the end tag of the
element counts; all else is text. -/
def endTag (mode : RawMode) (s : Text) : Construct :=
  match closeIndex? (s.drop 1) with
  | none => .incomplete
  | some n =>
      let length := n + 2
      match endTagName? s with
      | some name =>
          if mode.isSome && mode != some (lower name) then
            .complete [.text (s.take length)] length mode
          else .complete [.endTag (lower name)] length none
      | none =>
          if mode.isSome then .complete [.text (s.take length)] length mode
          else
            let name := tagName (s.drop 2)
            if name ≠ [] then
              let skipped := 2 + name.length + gapLength (s.drop (2 + name.length))
              match closeIndex? (s.drop skipped) with
              | some m => .complete [.endTag (lower name)] (skipped + m + 1) mode
              | none => .incomplete
            else if s.take 3 = ['<', '/', '>'] then .complete [] 3 mode
            else bogusComment mode s

/-- Where the first match of a closing sequence begins and how long it is.  The
sequence is given by its characters, between which blanks may stand. -/
def closing? (signs : Text) : Text → Option (Nat × Nat)
  | [] => none
  | c :: rest =>
      match matchSpaced signs (c :: rest) with
      | some n => some (0, n)
      | none => (closing? signs rest).map fun (start, n) => (start + 1, n)
where
  /-- The length of a closing sequence at the start of a text. -/
  matchSpaced : Text → Text → Option Nat
    | [], _ => some 0
    | _ :: _, [] => none
    | [sign], d :: _ => if d = sign then some 1 else none
    | sign :: signs, d :: rest =>
        if d = sign then
          let blanks := (leading rest).length
          (matchSpaced signs (rest.drop blanks)).map (· + (1 + blanks))
        else none

/-- The comment that a text begins with.  Blanks may stand before its last
character. -/
def commentAt (mode : RawMode) (s : Text) : Construct :=
  match commentEnd? (s.drop 4) with
  | some (start, n) => .complete [.comment ((s.drop 4).take start)] (4 + start + n) mode
  | none => .incomplete
where
  /-- Where two hyphens, blanks and a greater-than sign stand, and how long they are. -/
  commentEnd? : Text → Option (Nat × Nat)
    | [] => none
    | c :: rest =>
        match c, rest with
        | '-', '-' :: more =>
            let blanks := (leading more).length
            if (more.drop blanks).head? = some '>' then some (0, 3 + blanks)
            else (commentEnd? rest).map fun (start, n) => (start + 1, n)
        | _, _ => (commentEnd? rest).map fun (start, n) => (start + 1, n)

/-- The name at the start of a marked section, with the blanks after it. -/
def sectionName (s : Text) : Text :=
  match s with
  | c :: _ =>
      if c.isAlpha then
        let name := s.takeWhile fun d => d.isAlphanum || ['-', '_', '.'].contains d
        name ++ leading (s.drop name.length)
      else []
  | [] => []

/-- The content of a marked section: character data if it says so. -/
def sectionToken (content : Text) : Token :=
  if (content.take 6).map Char.toUpper == ['C', 'D', 'A', 'T', 'A', '['] then
    .cdata (content.drop 6)
  else .declaration content

/-- The marked section that a text begins with. -/
def markedSection (mode : RawMode) (s : Text) : Construct :=
  let body := s.drop 3
  let written := sectionName body
  let name := String.ofList (lower (trim written))
  if body = [] then .incomplete
  else if written = [] then .rejected (.expectedName (s.take 20))
  else if written.length = body.length then .incomplete
  else
    let signs :=
      if ["temp", "cdata", "ignore", "include", "rcdata"].contains name then some [']', ']', '>']
      else if ["if", "else", "endif"].contains name then some [']', '>']
      else none
    match signs with
    | none => .rejected (.unknownSection written)
    | some signs =>
        match closing? signs body with
        | some (start, n) => .complete [sectionToken (body.take start)] (3 + start + n) mode
        | none => .incomplete

/-- The construct that begins with a less-than sign and an exclamation mark. -/
def declarationAt (mode : RawMode) (s : Text) : Construct :=
  if s.take 4 = ['<', '!', '-', '-'] then commentAt mode s
  else if s.take 3 = ['<', '!', '['] then markedSection mode s
  else if (s.take 9).map Char.toLower = "<!doctype".toList then
    match closeIndex? (s.drop 9) with
    | none => .incomplete
    | some n => .complete [.doctype (((s.drop 2).take (7 + n)).drop 8)] (9 + n + 1) mode
  else bogusComment mode s

/-- The processing instruction that a text begins with. -/
def instructionAt (mode : RawMode) (s : Text) : Construct :=
  match closeIndex? (s.drop 2) with
  | none => .incomplete
  | some n => .complete [.instruction ((s.drop 2).take n)] (2 + n + 1) mode

end ComponentCompiler.Markup
