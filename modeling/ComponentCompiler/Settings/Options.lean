import ComponentCompiler.Settings.Check

/-!
# Compiler options

The options of a compile, their defaults, and how single options are set from
the values of a configuration.  A value that does not pass the option's check
leaves the options as they were.
-/

namespace ComponentCompiler.Settings

open Checked

/-- Properties with the prefixes they need, by property name. -/
abbrev PrefixedProperties := Entries (List String)

/-- The properties that common browsers still know under prefixed names only. -/
def defaultPrefixedProperties : PrefixedProperties :=
  [("appearance", ["-webkit-", "-moz-"]), ("backdrop-filter", ["-webkit-"]),
   ("box-decoration-break", ["-webkit-"]), ("hyphens", ["-webkit-", "-ms-"]),
   ("mask", ["-webkit-"]), ("mask-image", ["-webkit-"]), ("mask-size", ["-webkit-"]),
   ("print-color-adjust", ["-webkit-"]), ("tab-size", ["-moz-"]),
   ("text-size-adjust", ["-webkit-", "-moz-", "-ms-"]),
   ("user-select", ["-webkit-", "-moz-", "-ms-"])]

/-- Whether and for which properties prefixed copies are made. -/
inductive Autoprefixer
  | off
  /-- The default properties. -/
  | standard
  | custom (properties : PrefixedProperties)
  deriving DecidableEq, Repr

/-- The properties that prefixed copies are made for. -/
def Autoprefixer.properties? : Autoprefixer → Option PrefixedProperties
  | off => none
  | standard => some defaultPrefixedProperties
  | custom properties => some properties

/-- What the minifier of production templates is told unless configured. -/
def defaultMinifierSettings : Entries Value :=
  [("collapse_whitespace", .bool true), ("remove_comments", .bool true),
   ("collapse_boolean_attributes", .bool true), ("remove_attribute_quotes", .bool true),
   ("remove_redundant_attributes", .bool false), ("use_short_doctype", .bool true),
   ("remove_empty_attributes", .bool true), ("remove_optional_tags", .bool true)]

/-- The options of a compile. -/
structure Options where
  /-- Style stages that run before the built-in ones. -/
  styleStages : List Function := []
  autoprefixer : Autoprefixer := .standard
  minifierSettings : Entries Value := defaultMinifierSettings
  minifier : Option Function := none
  validator : Option Function := none
  /-- Whether scoped components get the scope on their template's elements too. -/
  scopeTemplate : Bool := false
  production : Bool := false
  cacheSize : Nat := 100
  /-- Settings for language compilers, which this library does not look at. -/
  compilerSettings : Entries Value := []
  deriving Repr, Inhabited

/-- Whether environment variables ask for production: the first one that is set
and not empty decides. -/
def productionFromEnvironment (specific general : Option String) : Bool :=
  let chosen := match specific with
    | some s => if s.isEmpty then general else some s
    | none => general
  chosen == some "production"

/-- A switch for prefixed copies, or a record with the properties. -/
def checkAutoprefixer (value : Value) : Checked Autoprefixer :=
  let table (entries : Entries Value) : Checked Autoprefixer :=
    (checkFieldD entries "properties" defaultPrefixedProperties
      (checkRecordOf (checkList checkText))).map .custom
  match inside (.field "bool") (checkTruth value),
      inside (.field "AutoprefixerOptions") (checkModel table value) with
  | .ok b, _ => .ok (if b then .standard else .off)
  | .error _, .ok autoprefixer => .ok autoprefixer
  | .error p, .error q => .error (p ++ q)

/-- The options that a configuration can set. -/
inductive OptionName
  | styleStages
  | autoprefixer
  | minifierSettings
  | minifier
  | validator
  | scopeTemplate
  | production
  | cacheSize
  | compilerSettings
  deriving DecidableEq, Repr

namespace OptionName

/-- All options, in the order in which they are checked. -/
def all : List OptionName :=
  [styleStages, autoprefixer, minifierSettings, minifier, validator, scopeTemplate, production,
    cacheSize, compilerSettings]

/-- The key of an option in a configuration. -/
def key : OptionName → String
  | styleStages => "style_stages"
  | autoprefixer => "autoprefixer"
  | minifierSettings => "html_minifier"
  | minifier => "minify_html"
  | validator => "template_validator"
  | scopeTemplate => "scope_template"
  | production => "production"
  | cacheSize => "style_cache_size"
  | compilerSettings => "compiler_settings"

/-- The option with a key. -/
def ofKey? (key : String) : Option OptionName := all.find? (·.key == key)

end OptionName

namespace Options

/-- The options with one of them set to what a value means. -/
def assign (options : Options) (name : OptionName) (value : Value) : Checked Options :=
  inside (.field name.key) <| match name with
    | .styleStages =>
        (checkList checkFunction value).map fun v => { options with styleStages := v }
    | .autoprefixer => (checkAutoprefixer value).map fun v => { options with autoprefixer := v }
    | .minifierSettings =>
        (checkRecord value).map fun v => { options with minifierSettings := v }
    | .minifier => (checkOptionalFunction value).map fun v => { options with minifier := v }
    | .validator => (checkOptionalFunction value).map fun v => { options with validator := v }
    | .scopeTemplate => (checkTruth value).map fun v => { options with scopeTemplate := v }
    | .production => (checkTruth value).map fun v => { options with production := v }
    | .cacheSize => (checkPositive value).map fun v => { options with cacheSize := v }
    | .compilerSettings =>
        (checkRecord value).map fun v => { options with compilerSettings := v }

/-- Whether a key is private to whoever sets it: it begins with an underscore. -/
def isPrivateKey (key : String) : Bool := key.toList.head? == some '_'

/-- The options with the option of the given key set.  A private key takes any value
and changes no option. -/
def set (options : Options) (key : String) (value : Value) : Checked Options :=
  match OptionName.ofKey? key with
  | some name => options.assign name value
  | none =>
      if isPrivateKey key then .ok options else inside (.field key) (fail .unknownField)

/-- Sets the given options one after the other and keeps the problems of all. -/
def assignAll (given : Entries Value) (options : Options) : List OptionName → Checked Options
  | [] => .ok options
  | name :: rest =>
      match Entries.get? given name.key with
      | none => assignAll given options rest
      | some value =>
          match options.assign name value with
          | .ok options => assignAll given options rest
          | .error problems =>
              match assignAll given options rest with
              | .ok _ => .error problems
              | .error more => .error (problems ++ more)

/-- Options from a record of values; other keys are left out of account. -/
def ofEntries (given : Entries Value) (base : Options) : Checked Options :=
  assignAll given base OptionName.all

end Options

end ComponentCompiler.Settings
