import ComponentCompiler.Text.Basic

/-!
# Lines

Only the line feed ends a line.  The module relates offsets to lines and
columns, shows the line an error points at, and removes the indentation that
all lines of a text share.
-/

namespace ComponentCompiler.Text

/-- The lines of a text, without their line feeds; there is always at least one. -/
def lines : Text → List Text
  | [] => [[]]
  | '\n' :: rest => [] :: lines rest
  | c :: rest =>
      match lines rest with
      | [] => [[c]]
      | line :: more => (c :: line) :: more

/-- Lines put together again with line feeds between them. -/
def unlines (ls : List Text) : Text := List.intercalate ['\n'] ls

/-- How many characters stand after the last line feed. -/
def lastLineLength (s : Text) : Nat := (s.reverse.takeWhile (· ≠ '\n')).length

/-- The part of a text before an offset.  A negative offset counts from the end;
one that lies outside is moved to the nearer end. -/
def upTo (s : Text) (offset : Int) : Text :=
  if offset < 0 then s.take (s.length + offset).toNat else s.take offset.toNat

/-- The line and the column of an offset, both counted from one.  Past the end
the last line goes on. -/
def position (source : Text) (offset : Int) : Int × Int :=
  let before := upTo source offset
  let lineStart : Int := before.length - lastLineLength before
  (before.count '\n' + 1, offset - lineStart + 1)

/-- The trimmed line with the given number, for showing where an error is. -/
def lineContext (source : Text) (line : Option Int) : Option Text :=
  match line with
  | none => none
  | some n =>
      if source.isEmpty || n ≤ 0 then none
      else (lines source)[n.toNat - 1]?.map trim

/-- As many line feeds as the text has, and nothing else. -/
def blankLines (s : Text) : Text := List.replicate (s.count '\n') '\n'

/-- Spaces and tabs, the characters that indent. -/
def isIndent (c : Char) : Bool := c == ' ' || c == '\t'

/-- The longest text that both texts begin with. -/
def commonStart : Text → Text → Text
  | a :: s, b :: t => if a = b then a :: commonStart s t else []
  | _, _ => []

/-- The indentation shared by all lines that hold more than spaces and tabs. -/
def sharedIndent (ls : List Text) : Text :=
  let indents := (ls.filter fun l => l.any (!isIndent ·)).map (List.takeWhile isIndent)
  match indents with
  | [] => []
  | first :: more => more.foldl commonStart first

/-- Removes the shared indentation; lines of spaces and tabs only are emptied. -/
def dedent (s : Text) : Text :=
  let ls := lines s
  let width := (sharedIndent ls).length
  unlines (ls.map fun l => if l.all isIndent then [] else l.drop width)

theorem lines_ne_nil (s : Text) : lines s ≠ [] := by
  fun_cases lines s <;> simp_all

example : dedent "  a\n \n\t\n    b".toList = "a\n\n\n  b".toList := by decide

end ComponentCompiler.Text
