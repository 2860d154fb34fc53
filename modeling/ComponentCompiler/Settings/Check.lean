import ComponentCompiler.Settings.Value
import ComponentCompiler.Text.Case

/-!
# Checking values

A value is checked against what is expected of it.  A check gives the value that
is meant, for some texts and numbers mean truth values and some texts integers,
or all the problems it finds, each with the place where it is.
-/

namespace ComponentCompiler.Settings

/-- What is wrong with a value. -/
inductive ProblemKind
  | missing
  | notText
  | notAChoice
  | notTruth
  | unreadableTruth
  | notInteger
  | unreadableInteger
  | fractionalInteger
  | oversizedInteger
  | tooSmall
  | notRecord
  | notList
  | notFunction
  | notModel
  | unknownField
  deriving DecidableEq, Repr

/-- A step towards a value inside another one. -/
inductive PlaceStep
  | field (name : String)
  | index (n : Int)
  deriving DecidableEq, Repr

/-- A value that is not as expected, and where it is. -/
structure Problem where
  kind : ProblemKind
  place : List PlaceStep
  deriving DecidableEq, Repr

/-- The outcome of a check. -/
abbrev Checked (α : Type) := Except (List Problem) α

namespace Checked

/-- A single problem. -/
def fail {α : Type} (kind : ProblemKind) : Checked α := .error [⟨kind, []⟩]

/-- The problems seen from outside the place where they are. -/
def inside {α : Type} (step : PlaceStep) : Checked α → Checked α
  | .ok a => .ok a
  | .error problems => .error (problems.map fun p => { p with place := step :: p.place })

/-- Both outcomes; the problems of both are kept. -/
def both {α β : Type} (first : Checked α) (second : Checked β) : Checked (α × β) :=
  match first, second with
  | .ok a, .ok b => .ok (a, b)
  | .error p, .ok _ => .error p
  | .ok _, .error q => .error q
  | .error p, .error q => .error (p ++ q)

/-- All outcomes in order; all problems are kept. -/
def all {α : Type} : List (Checked α) → Checked (List α)
  | [] => .ok []
  | first :: rest => (both first (all rest)).map fun (a, as) => a :: as

end Checked

open Checked

/-- A text. -/
def checkText : Value → Checked String
  | .text s => .ok s
  | _ => fail .notText

/-- A text that may be missing. -/
def checkOptionalText : Value → Checked (Option String)
  | .null => .ok none
  | value => (checkText value).map some

/-- The truth value that a text means, in any letter case. -/
def truthOfText? (s : String) : Option Bool :=
  let word := Text.lowerName s
  if ["1", "on", "t", "true", "y", "yes"].contains word then some true
  else if ["0", "off", "f", "false", "n", "no"].contains word then some false
  else none

/-- Whether an integer fits into 64 bits, one of which is the sign. -/
def isMachineInteger (n : Int) : Bool := -9223372036854775808 ≤ n && n ≤ 9223372036854775807

/-- The value of a decimal that is an integer well within 64 bits. -/
def machineInteger? (d : Decimal) : Option Int :=
  d.integer?.filter fun n => isMachineInteger n && n != -9223372036854775808

/-- The truth value that an integer means. -/
def truthOfInteger (n : Int) : Checked Bool :=
  if n = 0 then .ok false else if n = 1 then .ok true else fail .unreadableTruth

/-- A truth value, or a text or number that means one.  Only integers of 64 bits are
taken for numbers that could mean one. -/
def checkTruth : Value → Checked Bool
  | .bool b => .ok b
  | .int n => if isMachineInteger n then truthOfInteger n else fail .notTruth
  | .decimal d =>
      match machineInteger? d with
      | some n => truthOfInteger n
      | none => fail .notTruth
  | .text s =>
      match truthOfText? s with
      | some b => .ok b
      | none => fail .unreadableTruth
  | _ => fail .notTruth

/-- White space that may stand around the integer that a text means. -/
def isMargin (c : Char) : Bool := Text.isBlank c && !(0x1C ≤ c.toNat && c.toNat ≤ 0x1F)

/-- A text without white space around it. -/
def trimMargins (s : Text) : Text := ((s.dropWhile isMargin).reverse.dropWhile isMargin).reverse

/-- What is left of a number without the zeros before its first digit, among which
underscores may stand.  One zero is left if no digit follows. -/
def dropLeadingZeros? (s : Text) : Option Text :=
  match s with
  | '0' :: _ =>
      let zeros := s.takeWhile fun c => c == '0' || c == '_'
      match s.drop zeros.length with
      | [] => zeros.getLast?.map fun c => [c]
      | c :: rest =>
          if c = '.' then zeros.getLast?.map fun d => d :: c :: rest
          else if c.isDigit then some (c :: rest)
          else none
  | c :: _ => if c.isDigit || c == '-' then some s else none
  | [] => none

/-- A number without the point and zeros that it ends with. -/
def dropZeroFraction (s : Text) : Text :=
  let whole := s.takeWhile (· != '.')
  match s.drop whole.length with
  | '.' :: '0' :: zeros => if zeros.all (· == '0') then whole else s
  | _ => s

/-- A number without underscores, provided that each of them stands alone inside it. -/
def dropUnderscores (s : Text) : Text :=
  let isDouble := (s.zip (s.drop 1)).any fun (a, b) => a == '_' && b == '_'
  if s.head? == some '_' || s.getLast? == some '_' || isDouble then s else s.filter (· != '_')

/-- How many characters a plain integer may have. -/
def maxIntegerLength : Nat := 4300

/-- A plain integer: a hyphen or none, then digits that do not begin with a zero
unless it is the only one. -/
def plainInteger (s : Text) : Checked Int :=
  let (isNegative, digits) := match s with
    | '-' :: rest => (true, rest)
    | rest => (false, rest)
  let signLength := s.length - digits.length
  if digits.head? ≠ some '0' ∧
      maxIntegerLength < signLength + (digits.takeWhile Char.isDigit).length then
    fail .oversizedInteger
  else if digits.isEmpty || !digits.all Char.isDigit ||
      (digits.head? == some '0' && digits.length != 1) then
    fail .unreadableInteger
  else
    let n : Int := Decimal.numberOf digits
    .ok (if isNegative then -n else n)

/-- The integer that a text means.  White space around it, a plus sign, zeros before
it, a point with zeros after it and single underscores in it do not count. -/
def integerOfText (s : Text) : Checked Int :=
  let unsigned := match trimMargins s with
    | '+' :: '-' :: _ => none
    | '+' :: rest => some rest
    | rest => some rest
  match unsigned.bind dropLeadingZeros? with
  | some digits => plainInteger (dropUnderscores (dropZeroFraction digits))
  | none => fail .unreadableInteger

/-- An integer, or a value that means one. -/
def checkInteger : Value → Checked Int
  | .bool b => .ok (if b then 1 else 0)
  | .int n => .ok n
  | .decimal d =>
      match d.integer?, machineInteger? d with
      | none, _ => fail .fractionalInteger
      | some _, some n => .ok n
      | some _, none => fail .oversizedInteger
  | .text s => integerOfText s.toList
  | _ => fail .notInteger

/-- An integer that is at least one. -/
def checkPositive (value : Value) : Checked Nat :=
  match checkInteger value with
  | .ok n => if 1 ≤ n then .ok n.toNat else fail .tooSmall
  | .error problems => .error problems

/-- A record of any values. -/
def checkRecord : Value → Checked (Entries Value)
  | .record entries => .ok entries
  | _ => fail .notRecord

/-- A function. -/
def checkFunction : Value → Checked Function
  | .function f => .ok f
  | _ => fail .notFunction

/-- A function that may be missing. -/
def checkOptionalFunction : Value → Checked (Option Function)
  | .null => .ok none
  | value => (checkFunction value).map some

/-- A list whose items pass a check. -/
def checkList {α : Type} (item : Value → Checked α) : Value → Checked (List α)
  | .list items => Checked.all (items.mapIdx fun n value => inside (.index n) (item value))
  | _ => fail .notList

/-- A record whose values pass a check. -/
def checkRecordOf {α : Type} (item : Value → Checked α) : Value → Checked (Entries α)
  | .record entries =>
      Checked.all (entries.map fun (key, value) =>
        (inside (.field key) (item value)).map fun a => (key, a))
  | _ => fail .notRecord

/-- A field that has to be there. -/
def checkField {α : Type} (entries : Entries Value) (name : String) (item : Value → Checked α) :
    Checked α :=
  inside (.field name) (match Entries.get? entries name with
    | some value => item value
    | none => fail .missing)

/-- A field with a value for when it is not there. -/
def checkFieldD {α : Type} (entries : Entries Value) (name : String) (default : α)
    (item : Value → Checked α) : Checked α :=
  match Entries.get? entries name with
  | some value => inside (.field name) (item value)
  | none => .ok default

/-- A record with fields of its own. -/
def checkModel {α : Type} (fields : Entries Value → Checked α) : Value → Checked α
  | .record entries => fields entries
  | _ => fail .notModel

end ComponentCompiler.Settings
