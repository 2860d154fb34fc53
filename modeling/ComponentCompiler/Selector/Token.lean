import ComponentCompiler.Text.Basic
import ComponentCompiler.Text.Word

/-!
# Tokens of a selector list

A token is one piece of a selector: a simple selector, a combinator, a comment,
or the comma between two selectors.  For each kind this module says how many
characters a token takes at the start of a text, if there is one.
-/

namespace ComponentCompiler.Selector

open Text (isBlank isNameChar apostrophe)

/-- The kinds of token. -/
inductive TokenKind
  | comma
  | combinator
  | pseudo
  | typeName
  | condition
  | className
  | comment
  | identifier
  | nesting
  deriving DecidableEq, Repr

/-- A token with its characters. -/
structure Token where
  kind : TokenKind
  text : Text
  deriving DecidableEq, Repr

/-- How many characters of name stand at the start: name characters, and escapes
of any character but a line feed. -/
def nameLength : Text → Nat
  | '\\' :: c :: rest => if c = '\n' then 0 else nameLength rest + 2
  | c :: rest => if isNameChar c then nameLength rest + 1 else 0
  | [] => 0

/-- The length of a string's tail up to and including its closing quotation mark. -/
def stringLength? (quote : Char) : Text → Option Nat
  | '\\' :: c :: rest => if c = '\n' then none else (stringLength? quote rest).map (· + 2)
  | '\\' :: [] => none
  | c :: rest => if c = quote then some 1 else (stringLength? quote rest).map (· + 1)
  | [] => none

/-- A name, or an asterisk for any name. -/
def nameOrAnyLength (s : Text) : Nat :=
  match nameLength s with
  | 0 => if s.head? = some '*' then 1 else 0
  | n => n

/-- The length of a class name with its point. -/
def classLength? (s : Text) : Option Nat :=
  match s with
  | '.' :: rest => match nameLength rest with
      | 0 => none
      | n => some (n + 1)
  | _ => none

/-- The length of an identifier with its number sign. -/
def identifierLength? (s : Text) : Option Nat :=
  match s with
  | '#' :: rest => match nameLength rest with
      | 0 => none
      | n => some (n + 1)
  | _ => none

/-- A type name or an asterisk, which may be qualified by a namespace and a bar. -/
def typeLength? (s : Text) : Option Nat :=
  let space := nameOrAnyLength s
  let rest := s.drop space
  let qualified := if rest.head? = some '|' then nameOrAnyLength (rest.drop 1) else 0
  if qualified ≠ 0 then some (space + 1 + qualified)
  else if space ≠ 0 then some space
  else none

/-- The length of a nesting selector. -/
def nestingLength? (s : Text) : Option Nat := if s.head? = some '&' then some 1 else none

/-- What stands after the opening bracket of an attribute condition, its closing
bracket included.  Strings may hold brackets. -/
def bracketLength? (s : Text) : Option Nat :=
  match s with
  | [] => none
  | '\\' :: c :: rest => if c = '\n' then none else (bracketLength? rest).map (· + 2)
  | '\\' :: [] => none
  | c :: rest =>
      if c = ']' then some 1
      else if c = '"' ∨ c = apostrophe then
        match stringLength? c rest with
        | some n => (bracketLength? (rest.drop n)).map (· + (n + 1))
        | none => none
      else (bracketLength? rest).map (· + 1)
termination_by s.length
decreasing_by all_goals (simp_wf; try omega)

/-- The length of an attribute condition with its brackets. -/
def conditionLength? (s : Text) : Option Nat :=
  match s with
  | '[' :: rest => (bracketLength? rest).map (· + 1)
  | _ => none

/-- What stands after a parenthesis inside an argument, its closing parenthesis
included.  One more level of parentheses is allowed, `deep` inside it. -/
def innerLength? (deep : Bool) : Text → Option Nat
  | [] => none
  | '(' :: rest => if deep then none else (innerLength? true rest).map (· + 1)
  | ')' :: rest => if deep then (innerLength? false rest).map (· + 1) else some 1
  | _ :: rest => (innerLength? deep rest).map (· + 1)

/-- What stands after the opening parenthesis of an argument, its closing
parenthesis included.  Strings may hold parentheses. -/
def argumentLength? (s : Text) : Option Nat :=
  match s with
  | [] => none
  | c :: rest =>
      if c = ')' then some 1
      else if c = '(' then
        match innerLength? false rest with
        | some n => (argumentLength? (rest.drop n)).map (· + (n + 1))
        | none => none
      else if c = '"' ∨ c = apostrophe then
        match stringLength? c rest with
        | some n => (argumentLength? (rest.drop n)).map (· + (n + 1))
        | none => none
      else (argumentLength? rest).map (· + 1)
termination_by s.length
decreasing_by all_goals (simp_wf; try omega)

/-- An argument in parentheses, nothing if there is none that is closed. -/
def callLength (s : Text) : Nat :=
  match s with
  | '(' :: rest => match argumentLength? rest with
      | some n => n + 1
      | none => 0
  | _ => 0

/-- One or two colons, a name, and an argument if one follows. -/
def pseudoLength? (s : Text) : Option Nat :=
  match s with
  | ':' :: rest =>
      let colons := if rest.head? = some ':' then 2 else 1
      match nameLength (s.drop colons) with
      | 0 => none
      | n => some (colons + n + callLength (s.drop (colons + n)))
  | _ => none

/-- A comment with both its delimiters. -/
def commentLength? (s : Text) : Option Nat :=
  match s with
  | '/' :: '*' :: rest => (Text.endOfFirst? ['*', '/'] rest).map (· + 2)
  | _ => none

/-- A comma with the blanks around it. -/
def commaLength? (s : Text) : Option Nat :=
  let before := (Text.leading s).length
  match s.drop before with
  | ',' :: rest => some (before + 1 + (Text.leading rest).length)
  | _ => none

/-- The sign of a combinator: three angle brackets, or one of three signs. -/
def combinatorSignLength (s : Text) : Nat :=
  if ['>', '>', '>'].isPrefixOf s then 3
  else match s with
    | c :: _ => if c = '>' ∨ c = '+' ∨ c = '~' then 1 else 0
    | [] => 0

/-- A combinator sign with the blanks around it, or blanks alone. -/
def combinatorLength? (s : Text) : Option Nat :=
  let before := (Text.leading s).length
  match combinatorSignLength (s.drop before) with
  | 0 => if before = 0 then none else some before
  | n => some (before + n + (Text.leading (s.drop (before + n))).length)

/-- The length of a token of the given kind at the start of a text. -/
def TokenKind.length? (s : Text) : TokenKind → Option Nat
  | comma => commaLength? s
  | combinator => combinatorLength? s
  | pseudo => pseudoLength? s
  | typeName => typeLength? s
  | condition => conditionLength? s
  | className => classLength? s
  | comment => commentLength? s
  | identifier => identifierLength? s
  | nesting => nestingLength? s

theorem TokenKind.length?_pos {s : Text} {kind : TokenKind} {n : Nat}
    (h : kind.length? s = some n) : 0 < n := by
  cases kind with
  | comma =>
      simp only [length?, commaLength?] at h
      split at h <;> simp at h
      omega
  | combinator =>
      simp only [length?, combinatorLength?] at h
      split at h
      · split at h <;> simp at h
        omega
      · rename_i hn
        have hpos := Nat.pos_of_ne_zero hn
        simp only [Option.some.injEq] at h
        omega
  | pseudo =>
      simp only [length?, pseudoLength?] at h
      split at h
      · split at h
        · simp at h
        · rename_i hn
          have hpos := Nat.pos_of_ne_zero hn
          simp only [Option.some.injEq] at h
          omega
      · simp at h
  | typeName =>
      simp only [length?, typeLength?] at h
      repeat' split at h
      all_goals simp only [Option.some.injEq, reduceCtorEq] at h
      all_goals omega
  | condition =>
      simp only [length?, conditionLength?] at h
      split at h
      · obtain ⟨m, _, rfl⟩ := Option.map_eq_some_iff.mp h
        omega
      · simp at h
  | className =>
      simp only [length?, classLength?] at h
      split at h
      · split at h <;> simp at h
        omega
      · simp at h
  | comment =>
      simp only [length?, commentLength?] at h
      split at h
      · obtain ⟨m, _, rfl⟩ := Option.map_eq_some_iff.mp h
        omega
      · simp at h
  | identifier =>
      simp only [length?, identifierLength?] at h
      split at h
      · split at h <;> simp at h
        omega
      · simp at h
  | nesting =>
      simp only [length?, nestingLength?] at h
      split at h <;> simp at h
      omega

end ComponentCompiler.Selector
