import ComponentCompiler.Console
import ComponentCompiler.Disk
import ComponentCompiler.Registry
import ComponentCompiler.Settings.Options

/-!
# Applying a configuration

The entries of a configuration are applied one after the other: compilers are
registered, settings of the minifier are merged into the present ones when
building for production, options are set, and all else is kept for language
compilers.  An entry that is refused ends the application; what came before it
stays.
-/

namespace ComponentCompiler.Settings

/-- Why a configuration is refused. -/
inductive Refusal
  | invalid (problems : List Problem)
  | registration (refusal : Registry.Refusal)
  /-- A value that should have entries is of another type. -/
  | noEntries (typeName : String)
  /-- A value that should be a sequence of pairs is of another type. -/
  | notIterable (typeName : String)
  /-- An element that should be a pair is no sequence. -/
  | notAPair (index : Nat)
  /-- An element that should be a pair has another length. -/
  | wrongPairLength (index length : Nat)
  /-- A list or a record where a key should be. -/
  | badKey (typeName : String)
  /-- A module that defines no configuration. -/
  | noConfiguration (path : String)

/-- Why a configuration is refused, in words. -/
def Refusal.message : Refusal → String
  | invalid _ => "invalid value"
  | registration refusal => refusal.message
  | noEntries typeName => s!"'{typeName}' object has no attribute 'items'"
  | notIterable typeName => s!"'{typeName}' object is not iterable"
  | notAPair index =>
      s!"cannot convert dictionary update sequence element #{index} to a sequence"
  | wrongPairLength index length =>
      s!"dictionary update sequence element #{index} has length {length}; 2 is required"
  | badKey typeName => s!"unhashable type: '{typeName}'"
  | noConfiguration path => s!"{path} must define a 'config' dict"

/-- What a configuration changes. -/
structure Target where
  options : Options
  registry : Registry
  /-- The console lines written so far. -/
  console : String := ""

/-- A step of applying a configuration. -/
abbrev Applying (α : Type) := EStateM Refusal Target α

/-- The items of a value that is a sequence. -/
def sequence? : Value → Option (List Value)
  | .list items => some items
  | .text s => some (s.toList.map fun c => .text (String.singleton c))
  | .record entries => some (entries.map fun entry => .text entry.1)
  | _ => none

/-- A value that is to be a key, which a list or a record cannot be. -/
def checkKey (key : Value) : Except Refusal Value :=
  match key with
  | .list _ | .record _ => .error (.badKey key.typeName)
  | _ => .ok key

/-- A key and a value from an element of a sequence of pairs. -/
def pairOf (index : Nat) (element : Value) : Except Refusal (Value × Value) :=
  match sequence? element with
  | none => .error (.notAPair index)
  | some [key, value] => do return (← checkKey key, value)
  | some items => .error (.wrongPairLength index items.length)

/-- The pairs that a sequence of pairs holds. -/
def pairsOf : (index : Nat) → List Value → Except Refusal (List (Value × Value))
  | _, [] => .ok []
  | index, element :: rest => do
      let pair ← pairOf index element
      return pair :: (← pairsOf (index + 1) rest)

/-- The integer that a key is equal to: truth values count as zero and one, and a
decimal may be an integer. -/
def keyInteger? : Value → Option Int
  | .bool b => some (if b then 1 else 0)
  | .int n => some n
  | .decimal d => d.integer?
  | _ => none

/-- Whether two keys are one.  Numbers are compared by their value. -/
def isSameKey (a b : Value) : Bool :=
  match keyInteger? a, keyInteger? b with
  | some m, some n => m == n
  | none, none => a.typeName == b.typeName && a.inspect == b.inspect
  | _, _ => false

/-- The keys of pairs without those that came before. -/
def distinctKeys (pairs : List (Value × Value)) : List Value :=
  pairs.foldl (fun keys (key, _) => if keys.any (isSameKey key) then keys else keys ++ [key]) []

/-- Where a key that is no text stands in the settings of the minifier.  Truth values
and integers of 64 bits are places in a list, other keys are spelt out. -/
def badKeyPlace (key : Value) : List PlaceStep :=
  let step := match key with
    | .bool b => PlaceStep.index (if b then 1 else 0)
    | .int n => if isMachineInteger n then .index n else .field (toString n)
    | other => .field other.inspect
  [.field OptionName.minifierSettings.key, step, .field "[key]"]

/-- Settings with pairs merged in.  Only texts can be keys. -/
def mergePairs (settings : Entries Value) (pairs : List (Value × Value)) :
    Except Refusal (Entries Value) :=
  let problems := (distinctKeys pairs).filterMap fun
    | .text _ => none
    | other => some (Problem.mk .notText (badKeyPlace other))
  if problems.isEmpty then
    .ok (pairs.foldl (fun merged (key, value) => Entries.set merged key.display value) settings)
  else .error (.invalid problems)

/-- Settings with further ones merged in. -/
def mergeSettings (settings : Entries Value) (more : Value) : Except Refusal (Entries Value) :=
  match more with
  | .record entries =>
      .ok (entries.foldl (fun merged entry => Entries.set merged entry.1 entry.2) settings)
  | _ =>
      match sequence? more with
      | some elements => do mergePairs settings (← pairsOf 0 elements)
      | none => .error (.notIterable more.typeName)

/-- The entries of a value that is a record. -/
def entriesOf (value : Value) : Except Refusal (Entries Value) :=
  match value with
  | .record entries => .ok entries
  | other => .error (.noEntries other.typeName)

namespace Applying

/-- Writes a line for following the build, if such lines are wanted. -/
def debug (verbose : Bool) (message : String) : Applying Unit :=
  if verbose then modify fun t => { t with console := t.console ++ Console.debug message }
  else pure ()

/-- Registers one compiler. -/
def register (verbose : Bool) (tag : String) (function : Value) : Applying Unit := do
  match (← get).registry.register (.text tag) function with
  | .error refusal => throw (.registration refusal)
  | .ok registry => do
      modify fun t => { t with registry }
      debug verbose s!"Registered compiler for lang=\"{tag}\""

/-- Sets the option with a key. -/
def assign (name : OptionName) (value : Value) : Applying Unit := do
  match (← get).options.assign name value with
  | .error problems => throw (.invalid problems)
  | .ok options => modify fun t => { t with options }

/-- Applies one entry of a configuration. -/
def entry (verbose : Bool) (key : String) (value : Value) : Applying Unit := do
  if key == OptionName.minifierSettings.key then
    let options := (← get).options
    if options.production then
      match mergeSettings options.minifierSettings value with
      | .error refusal => throw refusal
      | .ok merged => assign .minifierSettings (.record merged)
  else if key == "custom_compilers" then
    match entriesOf value with
    | .error refusal => throw refusal
    | .ok compilers => compilers.forM fun (tag, function) => register verbose tag function
  else
    match OptionName.ofKey? key with
    | some name => assign name value
    | none =>
        modify fun t =>
          { t with options :=
              { t.options with
                compilerSettings := Entries.set t.options.compilerSettings key value } }

/-- Applies a configuration. -/
def config (verbose : Bool) (value : Value) : Applying Unit := do
  match entriesOf value with
  | .error refusal => throw refusal
  | .ok entries => entries.forM fun (key, value) => entry verbose key value

/-- The name of the configuration module that is looked for by default. -/
def defaultModule : String := "vue.config.py"

/-- Applies the configuration of a module on disk, if there is such a module.  The
answer tells whether there is. -/
def load (verbose : Bool) (disk : Disk) (path : Option String) : Applying Bool := do
  let named := match path with
    | some p => if p.isEmpty then defaultModule else p
    | none => defaultModule
  let absolute := Path.absolute disk.workingDirectory named
  if !disk.contains absolute then return false
  let defined := (Entries.get? disk.modules (disk.key absolute)).getD []
  match Entries.get? defined "config" with
  | some (.record entries) => do
      debug verbose s!"Loading config from {absolute}"
      config verbose (.record entries)
      return true
  | _ => throw (.noConfiguration absolute)

end Applying

end ComponentCompiler.Settings
