import ComponentCompiler.Selector.Scope
import ComponentCompiler.Stylesheet.Basic

/-!
# Scoping a style sheet

The rules at the top of a sheet, and those inside media queries, are confined to
one component by scoping their selectors.  Other at-rules, such as key frames,
and rules inside rules stay as they are.
-/

namespace ComponentCompiler.Stylesheet

/-- Whether an at-rule is a media query; letter case does not matter. -/
def isMedia (name : Text) : Bool := Text.lower name == ['m', 'e', 'd', 'i', 'a']

mutual

/-- The statement with its rules scoped. -/
def Node.scope (id : Text) : Node → Except Selector.Invalid Node
  | .rule before selector between nodes after => do
      return .rule before (← Selector.scopeSelector id selector) between nodes after
  | .atBlock before name params between nodes after =>
      if isMedia name then do
        return .atBlock before name params between (← scopeNodes id nodes) after
      else .ok (.atBlock before name params between nodes after)
  | node => .ok node

/-- The statements with their rules scoped; the first selector that cannot be
read is reported. -/
def scopeNodes (id : Text) : List Node → Except Selector.Invalid (List Node)
  | [] => .ok []
  | node :: rest => do
      let first ← node.scope id
      return first :: (← scopeNodes id rest)

end

/-- The sheet confined to the scope. -/
def scope (id : Text) (sheet : Stylesheet) : Except Selector.Invalid Stylesheet := do
  return { sheet with nodes := ← scopeNodes id sheet.nodes }

end ComponentCompiler.Stylesheet
