import ComponentCompiler.Diagnostic
import ComponentCompiler.Selector.Lexer
import ComponentCompiler.Text.Lines

/-!
# Scoping a selector

A selector is confined to the elements of one component by an attribute
condition on the element it styles.  The condition goes after the last simple
selector that is not a pseudo, so that trailing pseudos stay last; a selector of
pseudos alone gets it in front.  Nothing else changes: the result is the same
token list with at most one token more in each selector.
-/

namespace ComponentCompiler.Selector

/-- The characters of a token list. -/
def render (parts : List Token) : Text := parts.flatMap (·.text)

/-- The attribute condition that stands for a scope. -/
def scopeToken (scope : Text) : Token := ⟨.condition, '[' :: (scope ++ [']'])⟩

/-- Whether a scope condition may follow the token. -/
def TokenKind.isTarget : TokenKind → Bool
  | pseudo | comment | combinator => false
  | _ => true

/-- The tokens up to the last target, and those after it. -/
def splitAtTarget (parts : List Token) : List Token × List Token :=
  let after := (parts.reverse.takeWhile (!·.kind.isTarget)).reverse
  (parts.take (parts.length - after.length), after)

/-- The tokens of a selector with the scope condition in its place, unchanged if
its target is that condition already. -/
def scopeParts (scope : Text) (parts : List Token) : List Token :=
  let (upToTarget, after) := splitAtTarget parts
  match upToTarget.getLast? with
  | some target =>
      if target = scopeToken scope then parts else upToTarget ++ scopeToken scope :: after
  | none =>
      if parts.any (·.kind == .pseudo) then
        parts.takeWhile (·.kind != .pseudo) ++
          scopeToken scope :: parts.dropWhile (·.kind != .pseudo)
      else scopeToken scope :: parts

/-- Every selector of a list scoped, with the commas as they were. -/
def SelectorList.scope (scope : Text) (list : SelectorList) : Text :=
  render (scopeParts scope list.first) ++
    list.more.flatMap fun (separator, parts) => separator ++ render (scopeParts scope parts)

/-- A text that is not a selector list, without the blanks around it. -/
structure Invalid where
  selector : Text
  cause : LexError
  deriving DecidableEq, Repr

/-- The report on an invalid selector in a file.  The column is that of the
selector, not of the file, so no line is given. -/
def Invalid.diagnostic (fault : Invalid) (filePath : Option String) : Diagnostic where
  kind := .style
  message := "Invalid selector: " ++ String.ofList fault.selector
  column := some (Text.position fault.selector fault.cause.offset).2
  context := some (String.ofList fault.selector)
  suggestion := some "Check the selector syntax"
  filePath := filePath

/-- A selector list with every selector scoped.  Blanks around the list stay, and
a blank text is left alone. -/
def scopeSelector (scope selector : Text) : Except Invalid Text :=
  let stripped := Text.trim selector
  if stripped.isEmpty then .ok selector
  else
    match SelectorList.parse stripped with
    | .error cause => .error ⟨stripped, cause⟩
    | .ok list => .ok (Text.leading selector ++ list.scope scope ++ Text.trailing selector)

end ComponentCompiler.Selector
