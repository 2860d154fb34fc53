import ComponentCompiler.Proofs.Settings.Entries
import ComponentCompiler.Settings.Configure

/-!
# What the entries of a configuration do

An entry that is not refused has one of five effects, after the kind of its key.  It changes
at most one option, or else the registry, and leaves all others as they were; so does a run
over entries of other kinds.
-/

namespace ComponentCompiler.Settings

open Checked

variable {verbose : Bool} {t t' : Target} {key : String} {value : Value}
  {name other : OptionName} {options result : Options} {entries : Entries Value}

/-! ## Keys and options -/

/-- The key whose value lists language compilers. -/
def compilersKey : String := "custom_compilers"

/-- Whether the value of a key is kept for language compilers. -/
def IsKept (key : String) : Prop := OptionName.ofKey? key = none ∧ key ≠ compilersKey

instance (key : String) : Decidable (IsKept key) := inferInstanceAs (Decidable (_ ∧ _))

namespace OptionName

theorem ofKey?_key (name : OptionName) : ofKey? name.key = some name := by
  cases name <;> decide

theorem key_of_ofKey? (h : ofKey? key = some name) : name.key = key := by
  simpa using List.find?_some h

theorem key_injective {a b : OptionName} (h : a.key = b.key) : a = b := by
  have hkeys := congrArg ofKey? h
  rwa [ofKey?_key, ofKey?_key, Option.some.injEq] at hkeys

theorem not_isKept_key (name : OptionName) : ¬IsKept name.key := by
  rw [IsKept, ofKey?_key]
  exact fun h => nomatch h.1

theorem key_ne_compilersKey (name : OptionName) : name.key ≠ compilersKey := by
  cases name <;> decide

/-- The option that an entry with this key may change. -/
def written? (key : String) : Option OptionName :=
  if key = compilersKey then none else some ((ofKey? key).getD .compilerSettings)

theorem written?_key (name : OptionName) : written? name.key = some name := by
  rw [written?, if_neg name.key_ne_compilersKey, ofKey?_key, Option.getD_some]

theorem written?_of_isKept (h : IsKept key) : written? key = some .compilerSettings := by
  rw [written?, if_neg h.2, h.1, Option.getD_none]

/-- Only the key of an option changes it, unless it is the settings of compilers. -/
theorem key_of_written? (hname : name ≠ .compilerSettings) (h : written? key = some name) :
    key = name.key := by
  rw [written?] at h
  split at h
  · exact nomatch h
  · cases hkey : ofKey? key with
    | none =>
        rw [hkey] at h
        exact absurd (Option.some.inj h).symm hname
    | some found =>
        rw [hkey] at h
        obtain rfl : found = name := Option.some.inj h
        exact (key_of_ofKey? hkey).symm

theorem written?_eq_compilerSettings_iff :
    written? key = some .compilerSettings ↔ key = compilerSettings.key ∨ IsKept key := by
  constructor
  · intro h
    rw [written?] at h
    split at h
    case isTrue => exact nomatch h
    case isFalse hkey =>
      cases hname : ofKey? key with
      | none => exact Or.inr ⟨hname, hkey⟩
      | some name =>
          rw [hname] at h
          obtain rfl : name = compilerSettings := Option.some.inj h
          exact Or.inl (key_of_ofKey? hname).symm
  · rintro (rfl | hkept)
    · exact written?_key _
    · exact written?_of_isKept hkept

/-- Both options have the same value. -/
def Same (a b : Options) : OptionName → Prop
  | styleStages => a.styleStages = b.styleStages
  | autoprefixer => a.autoprefixer = b.autoprefixer
  | minifierSettings => a.minifierSettings = b.minifierSettings
  | minifier => a.minifier = b.minifier
  | validator => a.validator = b.validator
  | scopeTemplate => a.scopeTemplate = b.scopeTemplate
  | production => a.production = b.production
  | cacheSize => a.cacheSize = b.cacheSize
  | compilerSettings => a.compilerSettings = b.compilerSettings

theorem Same.refl (options : Options) (name : OptionName) : Same options options name := by
  cases name <;> rfl

theorem Same.symm {a b : Options} (h : Same a b name) : Same b a name := by
  cases name <;> exact Eq.symm h

theorem Same.trans {a b c : Options} (h : Same a b name) (h' : Same b c name) :
    Same a c name := by
  cases name <;> exact Eq.trans h h'

end OptionName

open OptionName (Same)

/-! ## Setting an option -/

theorem exists_of_inside_map {α β : Type} {step : PlaceStep} {checked : Checked α} {f : α → β}
    {b : β} (h : inside step (checked.map f) = .ok b) : ∃ a, checked = .ok a ∧ f a = b := by
  cases checked with
  | ok a => exact ⟨a, rfl, Except.ok.inj h⟩
  | error problems => exact nomatch h

/-- Setting an option leaves the others, and gives it a value that does not depend on them. -/
theorem same_of_assign (h : options.assign name value = .ok result) :
    (∀ other, other ≠ name → Same options result other) ∧
      ∀ base : Options, ∃ final, base.assign name value = .ok final ∧ Same result final name := by
  cases name
  all_goals
    obtain ⟨v, hv, rfl⟩ := exists_of_inside_map h
    refine ⟨fun other hother => ?_, fun base => ?_⟩
    · cases other <;> first | rfl | exact absurd rfl hother
    · rw [Options.assign, hv]
      exact ⟨_, rfl, rfl⟩

/-! ## Effects of one entry -/

namespace Applying

theorem exists_of_bind_ok {α β : Type} {first : Applying α} {next : α → Applying β} {b : β}
    (h : (first >>= next) t = .ok b t') : ∃ a mid, first t = .ok a mid ∧ next a mid = .ok b t' := by
  change EStateM.bind first next t = _ at h
  rw [EStateM.bind] at h
  cases hfirst : first t with
  | ok a mid =>
      rw [hfirst] at h
      exact ⟨a, mid, rfl, h⟩
  | error refusal mid =>
      rw [hfirst] at h
      exact nomatch h

theorem debug_ok {message : String} (h : debug verbose message t = .ok () t') :
    t'.options = t.options ∧ t'.registry = t.registry := by
  rw [debug] at h
  split at h
  all_goals
    obtain rfl := (EStateM.Result.ok.inj h).2
    exact ⟨rfl, rfl⟩

theorem assign_ok (h : assign name value t = .ok () t') :
    t.options.assign name value = .ok t'.options ∧ t'.registry = t.registry := by
  obtain ⟨_, _, hget, h⟩ := exists_of_bind_ok h
  obtain ⟨rfl, rfl⟩ := EStateM.Result.ok.inj hget
  cases hoptions : t.options.assign name value with
  | error problems =>
      rw [hoptions] at h
      exact nomatch h
  | ok options =>
      rw [hoptions] at h
      obtain rfl := (EStateM.Result.ok.inj h).2
      exact ⟨rfl, rfl⟩

/-- The compilers of a record registered one after the other. -/
def registerAll (registry : Registry) : Entries Value → Except Registry.Refusal Registry
  | [] => .ok registry
  | (tag, function) :: rest => do registerAll (← registry.register (.text tag) function) rest

theorem register_ok {tag : String} (h : register verbose tag value t = .ok () t') :
    t.registry.register (.text tag) value = .ok t'.registry ∧ t'.options = t.options := by
  obtain ⟨_, _, hget, h⟩ := exists_of_bind_ok h
  obtain ⟨rfl, rfl⟩ := EStateM.Result.ok.inj hget
  cases hregistry : t.registry.register (.text tag) value with
  | error refusal =>
      rw [hregistry] at h
      exact nomatch h
  | ok registry =>
      rw [hregistry] at h
      obtain ⟨_, mid, hmodify, hdebug⟩ := exists_of_bind_ok h
      obtain rfl := (EStateM.Result.ok.inj hmodify).2
      obtain ⟨hoptions, hkept⟩ := debug_ok hdebug
      exact ⟨congrArg Except.ok hkept.symm, hoptions⟩

theorem forM_register_ok {compilers : Entries Value}
    (h : (compilers.forM fun (tag, function) => register verbose tag function) t = .ok () t') :
    registerAll t.registry compilers = .ok t'.registry ∧ t'.options = t.options := by
  induction compilers generalizing t with
  | nil =>
      obtain rfl := (EStateM.Result.ok.inj h).2
      exact ⟨rfl, rfl⟩
  | cons compiler rest ih =>
      obtain ⟨_, mid, hfirst, hrest⟩ := exists_of_bind_ok h
      obtain ⟨hregistry, hoptions⟩ := register_ok hfirst
      obtain ⟨hall, hsame⟩ := ih hrest
      refine ⟨?_, hsame.trans hoptions⟩
      rw [registerAll, hregistry]
      exact hall

end Applying

open Applying (registerAll)

/-- What an entry that is not refused does to options and registry. -/
inductive EntryEffect (t t' : Target) : String → Value → Prop
  /-- Settings of the minifier do not count outside production. -/
  | passed {value : Value} (hmode : t.options.production = false)
      (hoptions : t'.options = t.options) (hregistry : t'.registry = t.registry) :
      EntryEffect t t' OptionName.minifierSettings.key value
  | merged {value : Value} {settings : Entries Value} (hmode : t.options.production = true)
      (hsettings : mergeSettings t.options.minifierSettings value = .ok settings)
      (hoptions : t'.options = { t.options with minifierSettings := settings })
      (hregistry : t'.registry = t.registry) :
      EntryEffect t t' OptionName.minifierSettings.key value
  | registered {compilers : Entries Value} (hoptions : t'.options = t.options)
      (hregistry : registerAll t.registry compilers = .ok t'.registry) :
      EntryEffect t t' compilersKey (.record compilers)
  | assigned {name : OptionName} {value : Value} (hname : name ≠ .minifierSettings)
      (hoptions : t.options.assign name value = .ok t'.options)
      (hregistry : t'.registry = t.registry) : EntryEffect t t' name.key value
  | kept {key : String} {value : Value} (hkey : IsKept key)
      (hoptions : t'.options =
        { t.options with compilerSettings := t.options.compilerSettings.set key value })
      (hregistry : t'.registry = t.registry) : EntryEffect t t' key value

theorem entriesOf_ok (h : entriesOf value = .ok entries) : value = .record entries := by
  cases value <;> first | exact congrArg Value.record (Except.ok.inj h) | exact nomatch h

/-- Every entry that is not refused has one of the effects. -/
theorem Applying.entry_ok (h : Applying.entry verbose key value t = .ok () t') :
    EntryEffect t t' key value := by
  unfold Applying.entry at h
  split at h
  case isTrue hkey =>
    obtain rfl := eq_of_beq hkey
    obtain ⟨_, _, hget, h⟩ := exists_of_bind_ok h
    obtain ⟨rfl, rfl⟩ := EStateM.Result.ok.inj hget
    dsimp only at h
    split at h
    case isTrue hmode =>
      cases hsettings : mergeSettings t.options.minifierSettings value with
      | error refusal =>
          rw [hsettings] at h
          exact nomatch h
      | ok settings =>
          rw [hsettings] at h
          obtain ⟨hoptions, hregistry⟩ := assign_ok h
          exact .merged hmode hsettings (Except.ok.inj hoptions).symm hregistry
    case isFalse hmode =>
      obtain rfl := (EStateM.Result.ok.inj h).2
      exact .passed (Bool.eq_false_iff.mpr hmode) rfl rfl
  case isFalse hminifier =>
    split at h
    case isTrue hkey =>
      obtain rfl : key = compilersKey := eq_of_beq hkey
      cases hvalue : entriesOf value with
      | error refusal =>
          rw [hvalue] at h
          exact nomatch h
      | ok compilers =>
          rw [hvalue] at h
          obtain rfl := entriesOf_ok hvalue
          obtain ⟨hregistry, hoptions⟩ := forM_register_ok h
          exact .registered hoptions hregistry
    case isFalse hcompilers =>
      cases hname : OptionName.ofKey? key with
      | some name =>
          rw [hname] at h
          obtain rfl := OptionName.key_of_ofKey? hname
          obtain ⟨hoptions, hregistry⟩ := assign_ok h
          refine .assigned ?_ hoptions hregistry
          rintro rfl
          exact hminifier (beq_self_eq_true _)
      | none =>
          rw [hname] at h
          obtain rfl := (EStateM.Result.ok.inj h).2
          refine .kept ⟨hname, ?_⟩ rfl rfl
          rintro rfl
          exact hcompilers (beq_self_eq_true _)

/-- An entry leaves every option but the one of its key. -/
theorem EntryEffect.same (h : EntryEffect t t' key value) (name : OptionName)
    (hother : OptionName.written? key ≠ some name) : Same t.options t'.options name := by
  cases h with
  | passed _ hoptions _ => exact hoptions ▸ Same.refl _ _
  | merged _ _ hoptions _ =>
      rw [OptionName.written?_key] at hother
      rw [hoptions]
      cases name <;> first | rfl | exact absurd rfl hother
  | registered hoptions _ => exact hoptions ▸ Same.refl _ _
  | assigned _ hoptions _ =>
      rw [OptionName.written?_key] at hother
      exact (same_of_assign hoptions).1 name fun heq => hother (congrArg some heq.symm)
  | kept hkey hoptions _ =>
      rw [OptionName.written?_of_isKept hkey] at hother
      rw [hoptions]
      cases name <;> first | rfl | exact absurd rfl hother

/-- Only the compilers change the registry. -/
theorem EntryEffect.registry_eq (h : EntryEffect t t' key value) (hother : key ≠ compilersKey) :
    t'.registry = t.registry := by
  cases h with
  | passed _ _ hregistry => exact hregistry
  | merged _ _ _ hregistry => exact hregistry
  | registered _ _ => exact absurd rfl hother
  | assigned _ _ hregistry => exact hregistry
  | kept _ _ hregistry => exact hregistry

theorem EntryEffect.mergeSettings_ok (h : EntryEffect t t' key value)
    (hkey : key = OptionName.minifierSettings.key) :
    if t.options.production then
      mergeSettings t.options.minifierSettings value = .ok t'.options.minifierSettings
    else t'.options.minifierSettings = t.options.minifierSettings := by
  cases h with
  | passed hmode hoptions _ =>
      rw [hmode, hoptions]
      exact rfl
  | merged hmode hsettings hoptions _ =>
      rw [hmode, hsettings, hoptions]
      exact rfl
  | registered _ _ => exact absurd hkey.symm (OptionName.key_ne_compilersKey _)
  | assigned hname _ _ => exact absurd (OptionName.key_injective hkey) hname
  | kept hkept _ _ => exact absurd hkept (hkey ▸ OptionName.not_isKept_key _)

theorem EntryEffect.registerAll_ok (h : EntryEffect t t' key value) (hkey : key = compilersKey) :
    ∃ compilers, value = .record compilers ∧
      registerAll t.registry compilers = .ok t'.registry := by
  cases h with
  | passed _ _ _ => exact absurd hkey (OptionName.key_ne_compilersKey _)
  | merged _ _ _ _ => exact absurd hkey (OptionName.key_ne_compilersKey _)
  | registered _ hregistry => exact ⟨_, rfl, hregistry⟩
  | assigned _ _ _ => exact absurd hkey (OptionName.key_ne_compilersKey _)
  | kept hkept _ _ => exact absurd hkey hkept.2

theorem EntryEffect.assign_ok (h : EntryEffect t t' key value) (hkey : key = name.key)
    (hname : name ≠ .minifierSettings) : t.options.assign name value = .ok t'.options := by
  cases h with
  | passed _ _ _ => exact absurd (OptionName.key_injective hkey).symm hname
  | merged _ _ _ _ => exact absurd (OptionName.key_injective hkey).symm hname
  | registered _ _ => exact absurd hkey.symm (OptionName.key_ne_compilersKey _)
  | assigned _ hoptions _ => exact OptionName.key_injective hkey ▸ hoptions
  | kept hkept _ _ => exact absurd hkept (hkey ▸ OptionName.not_isKept_key _)

theorem EntryEffect.compilerSettings_eq (h : EntryEffect t t' key value) (hkey : IsKept key) :
    t'.options.compilerSettings = t.options.compilerSettings.set key value := by
  cases h with
  | passed _ _ _ => exact absurd hkey (OptionName.not_isKept_key _)
  | merged _ _ _ _ => exact absurd hkey (OptionName.not_isKept_key _)
  | registered _ _ => exact absurd rfl hkey.2
  | assigned _ _ _ => exact absurd hkey (OptionName.not_isKept_key _)
  | kept _ hoptions _ => rw [hoptions]

/-! ## Effects of a run -/

/-- What entries that are applied one after the other do. -/
inductive Effects : Entries Value → Target → Target → Prop
  | nil (t : Target) : Effects [] t t
  | cons {key : String} {value : Value} {entries : Entries Value} {t mid t' : Target}
      (hfirst : EntryEffect t mid key value) (hrest : Effects entries mid t') :
      Effects ((key, value) :: entries) t t'

theorem Applying.forM_entry_ok
    (h : (entries.forM fun (key, value) => entry verbose key value) t = .ok () t') :
    Effects entries t t' := by
  induction entries generalizing t with
  | nil =>
      obtain rfl := (EStateM.Result.ok.inj h).2
      exact .nil _
  | cons _ rest ih =>
      obtain ⟨_, mid, hfirst, hrest⟩ := exists_of_bind_ok h
      exact .cons (entry_ok hfirst) (ih hrest)

theorem Applying.config_ok (h : config verbose (.record entries) t = .ok () t') :
    Effects entries t t' :=
  forM_entry_ok h

theorem Effects.exists_of_append {front back : Entries Value} (h : Effects (front ++ back) t t') :
    ∃ mid, Effects front t mid ∧ Effects back mid t' := by
  induction front generalizing t with
  | nil => exact ⟨t, .nil t, h⟩
  | cons _ front ih =>
      cases h with
      | cons hfirst hrest =>
          obtain ⟨mid, hfront, hback⟩ := ih hrest
          exact ⟨mid, .cons hfirst hfront, hback⟩

/-- A run leaves every option that none of its keys writes. -/
theorem Effects.same (h : Effects entries t t')
    (hother : ∀ key ∈ Entries.keys entries, OptionName.written? key ≠ some name) :
    Same t.options t'.options name := by
  induction h with
  | nil => exact Same.refl _ _
  | cons hfirst _ ih =>
      obtain ⟨hkey, hkeys⟩ := List.forall_mem_cons.mp hother
      exact (hfirst.same name hkey).trans (ih hkeys)

theorem Effects.registry_eq (h : Effects entries t t')
    (hother : compilersKey ∉ Entries.keys entries) : t'.registry = t.registry := by
  induction h with
  | nil => rfl
  | cons hfirst _ ih =>
      have hrest := ih (List.not_mem_of_not_mem_cons hother)
      exact hrest.trans (hfirst.registry_eq (Ne.symm (List.ne_of_not_mem_cons hother)))

/-- A run cut at one of its keys. -/
theorem Effects.exists_cut (h : Effects entries t t')
    (hget : Entries.get? entries key = some value) :
    ∃ front back before behind, entries = front ++ (key, value) :: back ∧
      Effects front t before ∧ EntryEffect before behind key value ∧ Effects back behind t' := by
  obtain ⟨front, back, rfl⟩ := List.append_of_mem (Entries.mem_of_get? hget)
  obtain ⟨before, hfront, hrest⟩ := h.exists_of_append
  cases hrest with
  | cons heffect hback => exact ⟨front, back, before, _, rfl, hfront, heffect, hback⟩

end ComponentCompiler.Settings
