import ComponentCompiler.Markup.NamedCharacter
import ComponentCompiler.Text.Basic

/-!
# Character references

A reference stands for characters by number or by name.  Text and attribute
values resolve references by different rules: in text a name counts only as a
whole, in an attribute value the longest name at its start does; in an attribute
value numbers of characters that are not allowed stand for nothing.
-/

namespace ComponentCompiler.Markup

/-- The characters that the numbers 0x80 to 0x9F stand for, by the western code
page; the numbers without one there stand for themselves. -/
def westernCharacters : List Nat :=
  [0x20AC, 0x81, 0x201A, 0x192, 0x201E, 0x2026, 0x2020, 0x2021, 0x2C6, 0x2030, 0x160, 0x2039,
   0x152, 0x8D, 0x17D, 0x8F, 0x90, 0x2018, 0x2019, 0x201C, 0x201D, 0x2022, 0x2013, 0x2014, 0x2DC,
   0x2122, 0x161, 0x203A, 0x153, 0x9D, 0x17E, 0x178]

/-- Stands for a character that cannot be shown. -/
def replacementCharacter : Char := '\ufffd'

/-- The character that a number stands for, in text and in an attribute value alike.  Zero,
the surrogates and the numbers past the last character have none of their own; the code
page is asked for the numbers 0x80 to 0x9F alone, so zero is no character of it. -/
def numberedCharacter (n : Nat) : Char :=
  if n = 0 then replacementCharacter
  else if 0x80 ≤ n ∧ n ≤ 0x9F then Char.ofNat (westernCharacters.getD (n - 0x80) n)
  else if n.isValidChar then Char.ofNat n
  else replacementCharacter

/-- Numbers that stand for nothing in an attribute value: controls and
noncharacters. -/
def isForbidden (n : Nat) : Bool :=
  (1 ≤ n && n ≤ 8) || n == 0xB || (0xE ≤ n && n ≤ 0x1F) || n == 0x7F ||
    (0xFDD0 ≤ n && n ≤ 0xFDEF) || (n ≤ 0x10FFFF && 0xFFFE ≤ n % 0x10000)

/-- The value of a digit in any base up to sixteen. -/
def digitValue (c : Char) : Nat :=
  if c.isDigit then c.toNat - 0x30 else c.toLower.toNat - 0x57

/-- The number that digits write in a base. -/
def numberOf (base : Nat) (digits : Text) : Nat :=
  digits.foldl (fun n c => n * base + digitValue c) 0

/-- How many decimal digits a number may have. -/
def maxDigits : Nat := 4300

/-- How many decimal digits a text begins with, if these are too many. -/
def oversizedNumber? (s : Text) : Option Nat :=
  let count := (s.takeWhile Char.isDigit).length
  if maxDigits < count then some count else none

/-- How many decimal digits the first reference in an attribute value has that has
too many of them. -/
def oversizedReference? : Text → Option Nat
  | [] => none
  | c :: rest =>
      match c, rest with
      | '&', '#' :: body => (oversizedNumber? body).or (oversizedReference? rest)
      | _, _ => oversizedReference? rest

/-- What a name in text stands for. -/
def namedText? (name : Text) : Option Text :=
  (namedCharacters.find? (·.name.toList == name)).map (·.characters.toList)

/-- What a reference's name in an attribute value stands for, its semicolon being
part of it. -/
def namedValue? (name : Text) : Option Text :=
  (namedCharacters.find? fun known =>
    known.name.toList ++ [';'] == name || (known.bare && known.name.toList == name)).map
      (·.characters.toList)

/-- What the longest beginning of a name stands for, with the rest of the name
after it; `length` characters are tried first, and at least two. -/
def longestNamed? (name : Text) : (length : Nat) → Option Text
  | 0 => none
  | length + 1 =>
      if length + 1 < 2 then none
      else
        match namedValue? (name.take (length + 1)) with
        | some characters => some (characters ++ name.drop (length + 1))
        | none => longestNamed? name length

/-- The characters for a name in an attribute value; an unknown name stays. -/
def resolveName (name : Text) : Text :=
  match namedValue? name with
  | some characters => characters
  | none => (longestNamed? name (name.length - 1)).getD ('&' :: name)

/-- The characters for a number in an attribute value. -/
def resolveNumber (n : Nat) : Text :=
  if n = 0xD then ['\r'] else if isForbidden n then [] else [numberedCharacter n]

/-- One more than the count if a semicolon follows so many characters. -/
def withSemicolon (s : Text) (n : Nat) : Nat := if (s.drop n).head? = some ';' then n + 1 else n

/-- Characters that a name in an attribute value may consist of. -/
def isNameLike (c : Char) : Bool :=
  !(['\t', '\n', '\x0c', ' ', '<', '&', '#', ';'].contains c)

/-- Hexadecimal digits. -/
def isHexDigit (c : Char) : Bool :=
  c.isDigit || ('a' ≤ c && c ≤ 'f') || ('A' ≤ c && c ≤ 'F')

/-- The reference that follows an ampersand in an attribute value: how many
characters it takes and what it stands for. -/
def valueReference? (s : Text) : Option (Nat × Text) :=
  match s with
  | '#' :: rest =>
      let digits := rest.takeWhile Char.isDigit
      if digits ≠ [] then
        some (withSemicolon s (1 + digits.length), resolveNumber (numberOf 10 digits))
      else
        match rest with
        | x :: more =>
            let hex := more.takeWhile isHexDigit
            if (x = 'x' ∨ x = 'X') ∧ hex ≠ [] then
              some (withSemicolon s (2 + hex.length), resolveNumber (numberOf 16 hex))
            else none
        | [] => none
  | _ =>
      let name := (s.take 32).takeWhile isNameLike
      if name = [] then none
      else
        let n := withSemicolon s name.length
        some (n, resolveName (s.take n))

/-- An attribute value with its references resolved. -/
def resolveValue (s : Text) : Text :=
  match s with
  | [] => []
  | c :: rest =>
      if c = '&' then
        match valueReference? rest with
        | some (n, characters) => characters ++ resolveValue (rest.drop n)
        | none => c :: resolveValue rest
      else c :: resolveValue rest
termination_by s.length
decreasing_by all_goals (simp_wf; try omega)

end ComponentCompiler.Markup
