import ComponentCompiler.Settings.Value

/-!
# Language compilers

The registry tells which function compiles blocks of which language.  Only
functions that can be called with a source, a tracker and a path are registered,
and only under tags that are not empty.
-/

namespace ComponentCompiler

/-- Language tags and the functions that compile the languages. -/
structure Registry where
  handlers : Entries Function := []
  deriving Repr, Inhabited

namespace Registry

/-- Why a compiler is not registered. -/
inductive Refusal
  | badTag (tag : Value)
  | notCallable (tag : String)
  | wrongArity (tag : String)
  deriving Repr

/-- Why a compiler is not registered, in words. -/
def Refusal.message : Refusal → String
  | badTag tag => "Language tag must be a non-empty string, got " ++ tag.inspect
  | notCallable tag => s!"Compiler for lang=\"{tag}\" must be callable"
  | wrongArity tag => s!"Compiler for lang=\"{tag}\" must accept (source, dependencies, file_path)"

/-- How many arguments a compiler is called with. -/
def compilerArity : Nat := 3

/-- Registers a function for a language, in the place of an earlier one. -/
def register (registry : Registry) (tag function : Value) : Except Refusal Registry :=
  match tag with
  | .text name =>
      if name.isEmpty then .error (.badTag tag)
      else
        match function with
        | .function f =>
            if f.accepts compilerArity then .ok ⟨Entries.set registry.handlers name f⟩
            else .error (.wrongArity name)
        | _ => .error (.notCallable name)
  | _ => .error (.badTag tag)

/-- Forgets the compiler of a language. -/
def unregister (registry : Registry) (tag : String) : Registry :=
  ⟨Entries.erase registry.handlers tag⟩

/-- The compiler of a language. -/
def get? (registry : Registry) (tag : String) : Option Function :=
  Entries.get? registry.handlers tag

/-- The compiler of a block's language, if the block names one. -/
def compiler? (registry : Registry) (tag : Option String) : Option Function :=
  tag.bind registry.get?

/-- The registered tags in alphabetical order. -/
def languages (registry : Registry) : List String :=
  (registry.handlers.map (·.1)).mergeSort fun a b => a ≤ b

end Registry

end ComponentCompiler
