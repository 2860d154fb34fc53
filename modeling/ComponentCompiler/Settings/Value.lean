import ComponentCompiler.Settings.Decimal
import ComponentCompiler.Text.Quoted

/-!
# Values of a configuration

A configuration is data with functions in it.  A function is known by its name
and by how it may be called; what it does is the business of whoever supplies
it.  `inspect` spells a value for a message.
-/

namespace ComponentCompiler

/-- How a function takes its arguments. -/
structure Signature where
  /-- How many positional arguments it needs. -/
  required : Nat
  /-- How many positional arguments it takes at most; any number if none. -/
  limit : Option Nat
  /-- Whether it also needs arguments by name. -/
  needsNamed : Bool := false
  deriving DecidableEq, Repr

/-- Whether a call with so many positional arguments alone is possible. -/
def Signature.accepts (s : Signature) (count : Nat) : Bool :=
  s.required ≤ count && s.limit.all (count ≤ ·) && !s.needsNamed

/-- A function from outside.  Not every function tells its signature. -/
structure Function where
  name : String
  signature : Option Signature := none
  deriving DecidableEq, Repr

/-- Whether the function may be called with so many positional arguments, as far
as its signature is known. -/
def Function.accepts (f : Function) (count : Nat) : Bool := f.signature.all (·.accepts count)

/-- A value of a configuration. -/
inductive Value
  | null
  | bool (b : Bool)
  | int (n : Int)
  | decimal (d : Decimal)
  | text (s : String)
  | list (items : List Value)
  | record (entries : List (String × Value))
  | function (f : Function)
  deriving Repr, Inhabited

namespace Value

/-- The name of a value's type. -/
def typeName : Value → String
  | null => "NoneType"
  | bool _ => "bool"
  | int _ => "int"
  | decimal _ => "float"
  | text _ => "str"
  | list _ => "list"
  | record _ => "dict"
  | function _ => "function"

/-- A quoted text, as messages show it. -/
def inspectText (s : String) : String := String.ofList (Text.Quoted.inspect s.toList)

mutual

/-- The spelling of a value in a message. -/
def inspect : Value → String
  | null => "None"
  | bool b => if b then "True" else "False"
  | int n => toString n
  | decimal d => d.text
  | text s => inspectText s
  | list items => "[" ++ ", ".intercalate (inspectItems items) ++ "]"
  | record entries => "\x7b" ++ ", ".intercalate (inspectEntries entries) ++ "\x7d"
  | function f => "<function " ++ f.name ++ ">"

/-- The spellings of several values. -/
def inspectItems : List Value → List String
  | [] => []
  | item :: rest => item.inspect :: inspectItems rest

/-- The spellings of the entries of a record. -/
def inspectEntries : List (String × Value) → List String
  | [] => []
  | (key, value) :: rest => (inspectText key ++ ": " ++ value.inspect) :: inspectEntries rest

end

/-- The text that a value stands for: texts stand for themselves. -/
def display : Value → String
  | text s => s
  | value => value.inspect

/-- Whether a value is missing or an empty text. -/
def isBlank : Value → Bool
  | null => true
  | text s => s.isEmpty
  | _ => false

end Value

/-- Entries by key, in the order in which the keys were first set. -/
abbrev Entries (α : Type) := List (String × α)

namespace Entries

variable {α : Type}

/-- The value under a key. -/
def get? (entries : Entries α) (key : String) : Option α :=
  (entries.find? (·.1 == key)).map (·.2)

/-- Sets the value under a key; a new key comes last. -/
def set (entries : Entries α) (key : String) (value : α) : Entries α :=
  if entries.any (·.1 == key) then
    entries.map fun entry => if entry.1 = key then (key, value) else entry
  else entries ++ [(key, value)]

/-- Removes a key. -/
def erase (entries : Entries α) (key : String) : Entries α := entries.filter (·.1 != key)

@[simp] theorem get?_nil (key : String) : get? ([] : Entries α) key = none := rfl

theorem get?_cons (k : String) (v : α) (rest : Entries α) (key : String) :
    get? ((k, v) :: rest) key = if k = key then some v else get? rest key := by
  by_cases h : k = key <;> simp [get?, h]

theorem get?_append (first second : Entries α) (key : String) :
    get? (first ++ second) key = (get? first key).or (get? second key) := by
  induction first with
  | nil => simp
  | cons entry rest ih =>
      obtain ⟨k, v⟩ := entry
      by_cases h : k = key <;> simp [get?_cons, h, ih]

/-- A key has a value if and only if some entry is for it. -/
theorem isSome_get? (entries : Entries α) (key : String) :
    (get? entries key).isSome = entries.any (·.1 == key) := by
  induction entries with
  | nil => rfl
  | cons entry rest ih =>
      obtain ⟨k, v⟩ := entry
      by_cases h : k = key <;> simp [get?_cons, h, ih]

theorem get?_replace_self (entries : Entries α) (key : String) (value : α) :
    get? (entries.map fun entry => if entry.1 = key then (key, value) else entry) key =
      (get? entries key).map fun _ => value := by
  induction entries with
  | nil => rfl
  | cons entry rest ih =>
      obtain ⟨k, v⟩ := entry
      by_cases h : k = key
      · simp [get?_cons, h]
      · simp only [List.map_cons, h, if_false, get?_cons, ih]

theorem get?_replace_of_ne (entries : Entries α) {key other : String} (value : α)
    (hne : key ≠ other) :
    get? (entries.map fun entry => if entry.1 = key then (key, value) else entry) other =
      get? entries other := by
  induction entries with
  | nil => rfl
  | cons entry rest ih =>
      obtain ⟨k, v⟩ := entry
      by_cases h : k = key
      · subst h
        simp only [List.map_cons, if_true, get?_cons, hne, if_false, ih]
      · simp only [List.map_cons, h, if_false, get?_cons, ih]

/-- A set key has its new value, and every other key what it had. -/
theorem get?_set (entries : Entries α) (key : String) (value : α) (other : String) :
    get? (set entries key value) other =
      if key = other then some value else get? entries other := by
  have hsome := isSome_get? entries key
  by_cases hne : key = other
  · subst hne
    unfold set
    split
    · rename_i h
      rw [h] at hsome
      obtain ⟨old, hold⟩ := Option.isSome_iff_exists.mp hsome
      simp only [get?_replace_self, hold, Option.map_some, if_true]
    · rename_i h
      rw [Bool.eq_false_iff.mpr h] at hsome
      have hnone : get? entries key = none := by simpa using hsome
      simp [get?_append, get?_cons, hnone]
  · unfold set
    split
    · rw [get?_replace_of_ne entries value hne]
    · simp [get?_append, get?_cons, hne]

end Entries

end ComponentCompiler
