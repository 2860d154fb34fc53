import ComponentCompiler.Settings.Value
import ComponentCompiler.Text.DecimalDigit

/-!
# Reading arguments

A command is described by its options and by the one positional argument it
takes.  Options may be shortened as long as they stay unambiguous, may be given
their value after an equals sign, and short ones may be run together.  After two
hyphens everything is positional.  What is not understood is collected and left
to the caller.
-/

namespace ComponentCompiler.CommandLine

/-- What an option does. -/
inductive OptionAction
  /-- Shows the help text. -/
  | help
  /-- Switches something on. -/
  | switch
  /-- Takes a value. -/
  | value
  deriving DecidableEq, Repr

/-- An option with the flags it is called by. -/
structure OptionSpec where
  flags : List String
  action : OptionAction
  deriving DecidableEq, Repr

/-- How an option is called in messages, and the key of what it sets. -/
def OptionSpec.title (spec : OptionSpec) : String := "/".intercalate spec.flags

/-- The positional argument of a command. -/
inductive Positional
  /-- An argument that has to be there. -/
  | required (name : String)
  /-- An argument that may be left out. -/
  | optional
  /-- The name of a command, with all further arguments for it. -/
  | command (name : String) (choices : List String)
  deriving DecidableEq, Repr

/-- What a command takes. -/
structure Grammar where
  program : String
  usage : String
  /-- What the help text says after the usage. -/
  details : String
  options : List OptionSpec
  positional : Positional

/-- Why reading arguments ends early. -/
inductive Interruption
  | help (text : String)
  | misuse (usage program message : String)
  deriving DecidableEq, Repr

/-- The full help text of a command. -/
def Grammar.helpText (g : Grammar) : String := g.usage ++ "\n" ++ g.details

/-- Misuse of a command. -/
def Grammar.misuse (g : Grammar) (message : String) : Interruption :=
  .misuse g.usage g.program message

/-- Misuse of one option of a command. -/
def Grammar.optionMisuse (g : Grammar) (spec : OptionSpec) (message : String) : Interruption :=
  g.misuse s!"argument {spec.title}: {message}"

/-- A flag as it was found: its option, unless there is none, and the value given
along with it. -/
structure Flag where
  spec : Option OptionSpec
  flag : String
  explicit : Option String
  deriving DecidableEq, Repr

/-- How an argument is meant. -/
inductive Meaning
  | positional
  /-- The two hyphens after which everything is positional. -/
  | separator
  | flag (f : Flag)
  deriving DecidableEq, Repr

/-- An argument with its meaning. -/
structure Argument where
  text : String
  meaning : Meaning
  deriving DecidableEq, Repr

namespace Grammar

/-- All flags with their options, in order. -/
def allFlags (g : Grammar) : List (String × OptionSpec) :=
  g.options.flatMap fun spec => spec.flags.map fun flag => (flag, spec)

/-- The option with exactly this flag. -/
def withFlag? (g : Grammar) (flag : String) : Option OptionSpec := Entries.get? g.allFlags flag

/-- A text up to its first equals sign, and what follows the sign if there is one. -/
def splitEquals (s : String) : String × Option String :=
  let before := s.toList.takeWhile (· != '=')
  match s.toList.drop before.length with
  | [] => (s, none)
  | _ :: after => (String.ofList before, some (String.ofList after))

/-- The flags that an argument may be short for. -/
def candidates (g : Grammar) (argument : String) : List Flag :=
  if argument.startsWith "--" then
    let (start, explicit) := splitEquals argument
    (g.allFlags.filter fun (flag, _) => flag.startsWith start).map fun (flag, spec) =>
      ⟨some spec, flag, explicit⟩
  else
    let short := String.ofList (argument.toList.take 2)
    g.allFlags.filterMap fun (flag, spec) =>
      if flag == short then some ⟨some spec, flag, some (String.ofList (argument.toList.drop 2))⟩
      else if flag.startsWith argument then some ⟨some spec, flag, none⟩
      else none

/-- Whether an argument is a negative number, which is no flag.  Its digits may be of
any script, and a line feed may stand at its end. -/
def isNegativeNumber (argument : String) : Bool :=
  match argument.toList with
  | '-' :: rest =>
      let number := if rest.getLast? == some '\n' then rest.dropLast else rest
      let whole := number.takeWhile Text.isDecimalDigit
      match number.drop whole.length with
      | [] => whole ≠ []
      | '.' :: fraction => fraction ≠ [] && fraction.all Text.isDecimalDigit
      | _ => false
  | _ => false

/-- How an argument is meant that stands before any separator. -/
def meaning (g : Grammar) (argument : String) : Except Interruption Meaning :=
  if !argument.startsWith "-" then .ok .positional
  else
    match g.withFlag? argument with
    | some spec => .ok (.flag ⟨some spec, argument, none⟩)
    | none =>
        if argument == "-" then .ok .positional
        else
          let (start, explicit) := splitEquals argument
          match explicit, g.withFlag? start with
          | some value, some spec => .ok (.flag ⟨some spec, start, some value⟩)
          | _, _ =>
              match g.candidates argument with
              | [flag] => .ok (.flag flag)
              | [] =>
                  if isNegativeNumber argument || argument.toList.contains ' ' then .ok .positional
                  else .ok (.flag ⟨none, argument, none⟩)
              | several =>
                  let names := ", ".intercalate (several.map (·.flag))
                  .error (g.misuse s!"ambiguous option: {argument} could match {names}")

/-- The arguments with their meanings. -/
def classify (g : Grammar) : List String → Except Interruption (List Argument)
  | [] => .ok []
  | argument :: rest =>
      if argument == "--" then
        .ok (⟨argument, .separator⟩ :: rest.map fun text => ⟨text, .positional⟩)
      else do
        let meaning ← g.meaning argument
        return ⟨argument, meaning⟩ :: (← classify g rest)

end Grammar

/-- What an option was set to. -/
inductive OptionValue
  /-- It is switched on. -/
  | on
  | text (s : String)
  /-- The value is left out: two hyphens stand in its place. -/
  | empty
  deriving DecidableEq, Repr

/-- The value that an option takes from an argument. -/
def OptionValue.ofArgument (s : String) : OptionValue := if s == "--" then empty else text s

/-- What was read: the options that were given, the last of one flag counting, the
positional argument with what belongs to it, and what was not understood. -/
structure Reading where
  options : Entries OptionValue := []
  /-- None as long as the positional argument has not been met. -/
  positional : Option (List String) := none
  extras : List String := []
  deriving DecidableEq, Repr

namespace Grammar

/-- Whether an argument may stand for a value. -/
def isValue (a : Argument) : Bool := a.meaning == .positional

/-- How many arguments the positional one takes here, if it can be here at all. -/
def positionalLength? (g : Grammar) (args : List Argument) : Option Nat :=
  let separators := (args.takeWhile (·.meaning == .separator)).length
  match args.drop separators with
  | next :: after =>
      if isValue next then
        match g.positional with
        | .command _ _ => some args.length
        | _ => some (separators + 1 + (after.takeWhile (·.meaning == .separator)).length)
      else if g.positional == .optional then some separators
      else none
  | [] => if g.positional == .optional then some separators else none

/-- The reading after the positional argument was given these texts. -/
def takePositional (g : Grammar) (reading : Reading) (texts : List String) :
    Except Interruption Reading :=
  match g.positional with
  | .command name choices =>
      let chosen := texts.headD ""
      if choices.contains chosen then .ok { reading with positional := some texts }
      else
        let shown := ", ".intercalate (choices.map Value.inspectText)
        .error (g.misuse
          s!"argument {name}: invalid choice: {Value.inspectText chosen} (choose from {shown})")
  | _ => .ok { reading with positional := some (texts.erase "--") }

/-- The reading after as many arguments as the positional one takes, and how many
these are. -/
def consumePositional (g : Grammar) (reading : Reading) (args : List Argument) :
    Except Interruption (Reading × Nat) :=
  if reading.positional.isSome then .ok (reading, 0)
  else
    match g.positionalLength? args with
    | none => .ok (reading, 0)
    | some n => do
        let reading ← g.takePositional reading ((args.take n).map (·.text))
        return (reading, n)

/-- The switches in a run of short flags that a value was given to: the options
before the last one, and the last one with its value if it has any. -/
def unfoldFlags (g : Grammar) (spec : OptionSpec) (flag : String) : Text →
    Except Interruption (List OptionSpec × OptionSpec × Option String)
  | [] =>
      if spec.action == .value then .ok ([], spec, some "")
      else .error (g.optionMisuse spec "ignored explicit argument ''")
  | c :: rest =>
      let explicit := String.ofList (c :: rest)
      if spec.action == .value then .ok ([], spec, some explicit)
      else
        let next := String.ofList ['-', c]
        let shown := Value.inspectText explicit
        let refused := g.optionMisuse spec s!"ignored explicit argument {shown}"
        if flag.startsWith "--" then .error refused
        else
          match g.withFlag? next with
          | none => .error refused
          | some nextSpec =>
              if rest.isEmpty then .ok ([spec], nextSpec, none)
              else do
                let (earlier, last, value) ← unfoldFlags g nextSpec next rest
                return (spec :: earlier, last, value)

/-- The reading after an option without a value. -/
def applySwitch (g : Grammar) (reading : Reading) (spec : OptionSpec) :
    Except Interruption Reading :=
  if spec.action == .help then .error (.help g.helpText)
  else .ok { reading with options := Entries.set reading.options spec.title .on }

/-- The reading after an option, and how many of the arguments after its flag
belong to it. -/
def consumeFlag (g : Grammar) (reading : Reading) (text : String) (flag : Flag)
    (after : List Argument) : Except Interruption (Reading × Nat) :=
  match flag.spec with
  | none => .ok ({ reading with extras := reading.extras ++ [text] }, 0)
  | some spec => do
      let (switches, last, explicit) ← match flag.explicit with
        | none => pure ([], spec, none)
        | some value => g.unfoldFlags spec flag.flag value.toList
      let (value, used) ← match last.action, explicit, after with
        | .value, some value, _ => pure (some value, 0)
        | .value, none, next :: _ =>
            if isValue next then pure (some next.text, 1)
            else throw (g.optionMisuse last "expected one argument")
        | .value, none, [] => throw (g.optionMisuse last "expected one argument")
        | _, _, _ => pure (none, 0)
      let reading ← switches.foldlM g.applySwitch reading
      match value with
      | some value =>
          let options := Entries.set reading.options last.title (.ofArgument value)
          return ({ reading with options }, used)
      | none => do
          let reading ← g.applySwitch reading last
          return (reading, used)

/-- Reads classified arguments. -/
def readFrom (g : Grammar) (reading : Reading) (args : List Argument) :
    Except Interruption Reading :=
  match args with
  | [] => do
      let (reading, _) ← g.consumePositional reading []
      return reading
  | arg :: rest =>
      match arg.meaning with
      | .flag flag => do
          let (reading, used) ← g.consumeFlag reading arg.text flag rest
          readFrom g reading (rest.drop used)
      | _ => do
          let (reading, n) ← g.consumePositional reading (arg :: rest)
          match n with
          | 0 => readFrom g { reading with extras := reading.extras ++ [arg.text] } rest
          | n + 1 => readFrom g reading (rest.drop n)
termination_by args.length
decreasing_by all_goals (simp_wf; try omega)

/-- Reads the arguments of a command. -/
def read (g : Grammar) (args : List String) : Except Interruption Reading := do
  let classified ← g.classify args
  let reading ← g.readFrom {} classified
  match g.positional, reading.positional with
  | .required name, none =>
      throw (g.misuse s!"the following arguments are required: {name}")
  | _, _ => return reading

end Grammar

end ComponentCompiler.CommandLine
