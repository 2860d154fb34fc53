import ComponentCompiler.Digest
import ComponentCompiler.Text.Quoted

/-!
# Requests

A request says what is to be compiled and how.  A component has a scope of its
own, which keeps its styles apart from those of other components.  It is derived
from where the component is unless the request names it.  A request can also ask
for a scope without naming one; nothing can then be done that needs the name.
-/

namespace ComponentCompiler

/-- How the scope of a component is chosen. -/
inductive ScopeChoice
  /-- The scope is derived from the path or the content. -/
  | derived
  | named (scopeId : String)
  /-- A scope is asked for, but not named. -/
  | unnamed
  deriving DecidableEq, Repr

/-- The given scope, or else a derived one. -/
def ScopeChoice.ofName? : Option String → ScopeChoice
  | some scopeId => named scopeId
  | none => derived

/-- What is to be compiled, and how. -/
structure CompileRequest where
  content : String
  filePath : Option String := none
  scope : ScopeChoice := .derived
  /-- Whether a reference that cannot be read stops the compile. -/
  strict : Bool := false

/-- What a path is called when there is none. -/
def pathOrInput (filePath : Option String) : String :=
  match filePath with
  | some path => if path.isEmpty then "<stdin>" else path
  | none => "<stdin>"

/-- The scope of a document, derived from its path, or from its content if it has
no path. -/
def scopeIdFor (filePath : Option String) (content : String) : String :=
  let key := match filePath with
    | some path => if path.isEmpty then content else path
    | none => content
  let digest := (Digest.ofBytes key.toUTF8.toList).take 4
  "_v-" ++ String.ofList (digest.flatMap fun byte => Text.hexDigits 2 byte.toNat)

/-- The scope that a request is compiled under, if it has a name. -/
def CompileRequest.scopeId? (request : CompileRequest) : Option String :=
  match request.scope with
  | .derived => some (scopeIdFor request.filePath request.content)
  | .named scopeId => some scopeId
  | .unnamed => none

end ComponentCompiler
