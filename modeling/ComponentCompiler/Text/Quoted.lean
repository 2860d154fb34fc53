import ComponentCompiler.Text.Basic
import ComponentCompiler.Text.Printable

/-!
# Quoted text

Two ways of writing a text between quotation marks.  `encode` writes the string
literal that a script can evaluate: double quotes, short escapes where there are
any, a four-digit number for the remaining ASCII controls, all else as it is.
`inspect` writes a value for a message: single quotes unless only double ones
avoid an escape, and a number for every unprintable character.
-/

namespace ComponentCompiler.Text

/-- The lower case hexadecimal digit of a number below sixteen. -/
def hexDigit (n : Nat) : Char :=
  if n < 10 then Char.ofNat (0x30 + n) else Char.ofNat (0x57 + n)

/-- The last `width` hexadecimal digits of a number. -/
def hexDigits : (width : Nat) → Nat → Text
  | 0, _ => []
  | width + 1, n => hexDigits width (n / 16) ++ [hexDigit (n % 16)]

namespace Quoted

/-- The letter that follows the backslash in the short escape of a character. -/
def shortEscape? (c : Char) : Option Char :=
  if c = '"' then some '"'
  else if c = '\\' then some '\\'
  else if c = '\n' then some 'n'
  else if c = '\r' then some 'r'
  else if c = '\t' then some 't'
  else if c = '\x08' then some 'b'
  else if c = '\x0c' then some 'f'
  else none

/-- A character as it stands inside a literal. -/
def encodeChar (c : Char) : Text :=
  match shortEscape? c with
  | some letter => ['\\', letter]
  | none => if c.toNat < 0x20 then '\\' :: 'u' :: hexDigits 4 c.toNat else [c]

/-- The literal whose value is the text. -/
def encode (s : Text) : Text := '"' :: (s.flatMap encodeChar ++ ['"'])

/-- A character as it stands inside an inspected text with the given quotation mark. -/
def inspectChar (quote c : Char) : Text :=
  if c = quote || c = '\\' then ['\\', c]
  else if c = '\n' then ['\\', 'n']
  else if c = '\r' then ['\\', 'r']
  else if c = '\t' then ['\\', 't']
  else if isPrintable c then [c]
  else if c.toNat < 0x100 then '\\' :: 'x' :: hexDigits 2 c.toNat
  else if c.toNat < 0x10000 then '\\' :: 'u' :: hexDigits 4 c.toNat
  else '\\' :: 'U' :: hexDigits 8 c.toNat

/-- A text as a message shows it. -/
def inspect (s : Text) : Text :=
  let quote := if s.contains apostrophe && !s.contains '"' then '"' else apostrophe
  quote :: (s.flatMap (inspectChar quote) ++ [quote])

example : encode "a\"\n\x01é".toList = "\"a\\\"\\n\\u0001é\"".toList := by decide

end Quoted

end ComponentCompiler.Text
