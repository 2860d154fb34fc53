import ComponentCompiler.Diagnostic
import ComponentCompiler.Stylesheet.Piece
import ComponentCompiler.Text.Lines

/-!
# Reading a style sheet

The pieces of a text are put together to a tree with a stack of open blocks: a
head opens a block and a closing brace ends the innermost one.  A text that is
no style sheet is refused with the offset of what is wrong.
-/

namespace ComponentCompiler.Stylesheet

/-- What is wrong with a text, and at which offset. -/
structure Fault where
  cause : Cause
  offset : Nat
  deriving DecidableEq, Repr

namespace Fault

/-- What is wrong, in words. -/
def message (fault : Fault) : String :=
  match fault.cause with
  | .unclosedBlock => "Unclosed block"
  | .unexpectedBrace => "Unexpected '\x7d'"
  | .unclosedComment => "Unclosed comment"
  | .invalidAtRule => "Invalid at-rule"

/-- What could be done about it. -/
def suggestion (fault : Fault) : Option String :=
  match fault.cause with
  | .unclosedBlock => some "Add the missing '\x7d'"
  | .unexpectedBrace => some "Remove the extra '\x7d'"
  | _ => none

/-- The report on a fault of the given style text. -/
def diagnostic (fault : Fault) (css : Text) (filePath : Option String) : Diagnostic :=
  let (line, column) := Text.position css fault.offset
  { kind := .style
    message := fault.message
    line := some line
    column := some column
    context := (Text.lineContext css (some line)).map String.ofList
    suggestion := fault.suggestion
    filePath := filePath }

end Fault

/-- A block that is not closed yet: its head, the offset of its opening brace and
the statements before it, the nearest first. -/
structure OpenBlock where
  head : Head
  brace : Nat
  earlier : List Node

/-- Puts pieces together.  `stack` holds the open blocks, `nodes` the statements
of the innermost one, the last first, and `offset` the characters taken so far. -/
def assemble (stack : List OpenBlock) (nodes : List Node) (offset : Nat) :
    List Piece → Ending → Except Fault Stylesheet
  | [], .finished after =>
      match stack with
      | [] => .ok ⟨nodes.reverse, after⟩
      | block :: _ => .error ⟨.unclosedBlock, block.brace⟩
  | [], .fault cause further => .error ⟨cause, offset + further⟩
  | .leaf node :: rest, ending =>
      assemble stack (node :: nodes) (offset + node.render.length) rest ending
  | .opening head :: rest, ending =>
      let length := head.render.length
      assemble (⟨head, offset + length - 1, nodes⟩ :: stack) [] (offset + length) rest ending
  | .closing before :: rest, ending =>
      match stack with
      | [] => .error ⟨.unexpectedBrace, offset + before.length⟩
      | block :: outer =>
          assemble outer (block.head.close nodes.reverse before :: block.earlier)
            (offset + before.length + 1) rest ending

/-- Reads a style sheet. -/
def parse (css : Text) : Except Fault Stylesheet :=
  let (ps, ending) := pieces css
  assemble [] [] 0 ps ending

end ComponentCompiler.Stylesheet
