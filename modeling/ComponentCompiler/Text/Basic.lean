/-!
# Text and white space

Scanned text is a list of code points.  This module fixes which characters are
blank and how a text is trimmed.  Trimming only splits a text: each trimmed form
and the blanks it leaves off put together give the text back.
-/

namespace ComponentCompiler

/-- Text as its code points, the form in which it is scanned. -/
abbrev Text := List Char

namespace Text

/-- The single quotation mark. -/
def apostrophe : Char := '\x27'

/-- White space: the ASCII controls that separate, the space, and the Unicode
separators. -/
def isBlank (c : Char) : Bool :=
  let n := c.toNat
  (0x9 ≤ n && n ≤ 0xD) || (0x1C ≤ n && n ≤ 0x20) || n == 0x85 || n == 0xA0 || n == 0x1680 ||
    (0x2000 ≤ n && n ≤ 0x200A) || n == 0x2028 || n == 0x2029 || n == 0x202F || n == 0x205F ||
    n == 0x3000

/-- The blanks a text begins with. -/
def leading (s : Text) : Text := s.takeWhile isBlank

/-- The text without the blanks it begins with. -/
def trimStart (s : Text) : Text := s.dropWhile isBlank

/-- The text without the blanks it ends with. -/
def trimEnd (s : Text) : Text := (s.reverse.dropWhile isBlank).reverse

/-- The blanks a text ends with. -/
def trailing (s : Text) : Text := (s.reverse.takeWhile isBlank).reverse

/-- The text without the blanks at either end. -/
def trim (s : Text) : Text := trimEnd (trimStart s)

theorem leading_append_trimStart (s : Text) : leading s ++ trimStart s = s :=
  List.takeWhile_append_dropWhile

theorem trimEnd_append_trailing (s : Text) : trimEnd s ++ trailing s = s := by
  rw [trimEnd, trailing, ← List.reverse_append, List.takeWhile_append_dropWhile,
    List.reverse_reverse]

theorem isBlank_of_mem_leading {s : Text} {c : Char} (h : c ∈ leading s) : isBlank c = true :=
  List.all_eq_true.mp List.all_takeWhile c h

theorem isBlank_of_mem_trailing {s : Text} {c : Char} (h : c ∈ trailing s) :
    isBlank c = true :=
  isBlank_of_mem_leading (s := s.reverse) (List.mem_reverse.mp h)

/-- What is left after trimming the start does not begin with a blank. -/
theorem isBlank_of_head?_trimStart {s : Text} {c : Char} (h : (trimStart s).head? = some c) :
    isBlank c = false := by
  have first := List.head?_dropWhile_not isBlank s
  rw [trimStart] at h
  simpa only [h] using first

theorem length_trimStart_le (s : Text) : (trimStart s).length ≤ s.length :=
  (List.dropWhile_sublist isBlank).length_le

/-- The position right after the first occurrence of a pattern, if there is one. -/
def endOfFirst? (pattern : Text) : Text → Option Nat
  | [] => if pattern.isEmpty then some 0 else none
  | c :: rest =>
      if pattern.isPrefixOf (c :: rest) then some pattern.length
      else (endOfFirst? pattern rest).map (· + 1)

/-- The position at which a pattern first occurs, if it does. -/
def indexOf? (pattern s : Text) : Option Nat :=
  (endOfFirst? pattern s).map (· - pattern.length)

end Text

end ComponentCompiler
