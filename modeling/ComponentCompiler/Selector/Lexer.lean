import ComponentCompiler.Selector.Token

/-!
# Cutting a selector list into tokens

At each place the first kind of token that fits is taken, in a fixed order: the
comma before the combinator, so that blanks around a comma belong to the comma,
and the combinator before all simple selectors.  A comma is not looked for where
a selector has to begin.
-/

namespace ComponentCompiler.Selector

/-- Why a text is not a selector list, with the offset of the place. -/
inductive LexError
  /-- No token fits. -/
  | unexpectedCharacter (offset : Nat)
  /-- A comma where a selector has to begin. -/
  | unexpectedComma (offset : Nat) (comma : Text)
  /-- The text ends where a selector has to begin; the place is the last token's. -/
  | unexpectedEnd (offset : Nat)
  deriving DecidableEq, Repr

/-- The offset that an error points at. -/
def LexError.offset : LexError → Nat
  | unexpectedCharacter n => n
  | unexpectedComma n _ => n
  | unexpectedEnd n => n

/-- The kinds of token a selector is made of, the first that fits being taken. -/
def partKinds : List TokenKind :=
  [.combinator, .pseudo, .typeName, .condition, .className, .comment, .identifier, .nesting]

/-- The kinds of token tried at a place, in order. -/
def kindsAt (atStart : Bool) : List TokenKind :=
  if atStart then partKinds else .comma :: partKinds

/-- The kind and the length of the token at the start of a text. -/
def nextToken? (atStart : Bool) (s : Text) : Option (TokenKind × Nat) :=
  (kindsAt atStart).findSome? fun kind => (kind.length? s).map (kind, ·)

theorem nextToken?_pos {atStart : Bool} {s : Text} {kind : TokenKind} {n : Nat}
    (h : nextToken? atStart s = some (kind, n)) : 0 < n := by
  obtain ⟨k, _, hk⟩ := List.exists_of_findSome?_eq_some h
  obtain ⟨m, hm, heq⟩ := Option.map_eq_some_iff.mp hk
  obtain ⟨rfl, rfl⟩ := Prod.mk.inj heq
  exact TokenKind.length?_pos hm

/-- The tokens of a text that begins `offset` characters into the selector list;
`last` is where the token before it begins. -/
def tokensFrom (atStart : Bool) (offset last : Nat) (s : Text) : Except LexError (List Token) :=
  if s.isEmpty then
    if atStart then .error (.unexpectedEnd last) else .ok []
  else
    match _h : nextToken? atStart s with
    | some (kind, n) => do
        let rest ← tokensFrom (kind == .comma) (offset + n) offset (s.drop n)
        return ⟨kind, s.take n⟩ :: rest
    | none =>
        match commaLength? s with
        | some n => .error (.unexpectedComma offset (s.take n))
        | none => .error (.unexpectedCharacter offset)
termination_by s.length
decreasing_by
  have hpos := nextToken?_pos _h
  have hne : s.length ≠ 0 := by simp_all
  simp only [List.length_drop]
  omega

/-- The tokens of a selector list, commas included. -/
def tokens (s : Text) : Except LexError (List Token) := tokensFrom true 0 0 s

/-- A list of selectors: the first one, and each further one with the comma
before it. -/
structure SelectorList where
  first : List Token
  more : List (Text × List Token)
  deriving DecidableEq, Repr

namespace SelectorList

/-- Groups tokens into selectors at the commas. -/
def ofTokens : List Token → SelectorList
  | [] => ⟨[], []⟩
  | token :: rest =>
      let list := ofTokens rest
      if token.kind = .comma then ⟨[], (token.text, list.first) :: list.more⟩
      else ⟨token :: list.first, list.more⟩

/-- The selectors, each as its tokens. -/
def selectors (list : SelectorList) : List (List Token) :=
  list.first :: list.more.map (·.2)

/-- The commas between the selectors, with the blanks around them. -/
def separators (list : SelectorList) : List Text := list.more.map (·.1)

/-- Reads a selector list. -/
def parse (s : Text) : Except LexError SelectorList := do
  return ofTokens (← tokens s)

end SelectorList

end ComponentCompiler.Selector
