import ComponentCompiler.Proofs.Result
import ComponentCompiler.Proofs.Settings.Refused

/-!
# What holds in every state

Options are valid if each of them passes its own check, and a registry is sound if every tag
in it is a text that is not empty and no compiler tells a signature that does not fit.  Whatever
is configured, registered and forgotten, and whatever of it is refused, this stays so.
-/

namespace ComponentCompiler

/-- The registered tags are not empty, and a compiler that tells its signature can be called as
compilers are.  A compiler that does not tell it is registered unseen. -/
def Registry.IsSound (registry : Registry) : Prop :=
  ∀ entry ∈ registry.handlers, entry.1 ≠ "" ∧
    ∀ s, entry.2.signature = some s → s.accepts Registry.compilerArity

namespace Registry

variable {registry result : Registry} {tag function : Value}

theorem isSound_empty : IsSound {} := fun _ h => nomatch h

theorem register_ok (h : registry.register tag function = .ok result) :
    ∃ name f, tag = .text name ∧ function = .function f ∧ name ≠ "" ∧
      f.accepts compilerArity = true ∧ result = ⟨Entries.set registry.handlers name f⟩ := by
  unfold register at h
  split at h
  · rename_i name
    split at h
    · exact nomatch h
    · rename_i hname
      split at h
      · rename_i f
        split at h
        · rename_i haccepts
          exact ⟨name, f, rfl, rfl, by simpa using hname, haccepts, (Except.ok.inj h).symm⟩
        · exact nomatch h
      · exact nomatch h
  · exact nomatch h

theorem IsSound.register (hsound : registry.IsSound)
    (h : registry.register tag function = .ok result) : result.IsSound := by
  obtain ⟨name, f, rfl, rfl, hname, haccepts, rfl⟩ := register_ok h
  intro entry hentry
  rcases Entries.eq_or_mem_of_mem_set hentry with rfl | hold
  · refine ⟨hname, fun s hs => ?_⟩
    rw [Function.accepts, hs] at haccepts
    exact haccepts
  · exact hsound entry hold

theorem IsSound.unregister (hsound : registry.IsSound) (tag : String) :
    (registry.unregister tag).IsSound := fun entry hentry =>
  hsound entry (List.mem_filter.mp hentry).1

end Registry

namespace Settings

open Checked

variable {verbose : Bool} {t t' : Target} {key : String} {value : Value} {refusal : Refusal}
  {options result : Options} {entries : Entries Value}

/-! ## Valid options -/

/-- A table of prefixed properties as a value. -/
def propertiesValue (properties : PrefixedProperties) : Value :=
  .record (properties.map fun entry => (entry.1, .list (entry.2.map .text)))

/-- What the switch for prefixed copies holds, as a value. -/
def Autoprefixer.held : Autoprefixer → Value
  | off => .bool false
  | standard => .bool true
  | custom properties => .record [("properties", propertiesValue properties)]

/-- What an option holds, as the value that a configuration would set it with. -/
def Options.held (options : Options) : OptionName → Value
  | .styleStages => .list (options.styleStages.map .function)
  | .autoprefixer => options.autoprefixer.held
  | .minifierSettings => .record options.minifierSettings
  | .minifier => options.minifier.elim .null .function
  | .validator => options.validator.elim .null .function
  | .scopeTemplate => .bool options.scopeTemplate
  | .production => .bool options.production
  | .cacheSize => .int options.cacheSize
  | .compilerSettings => .record options.compilerSettings

/-- Whether every option holds a value that passes the check of the option and means itself. -/
def Options.IsValid (options : Options) : Prop :=
  ∀ name, options.assign name (options.held name) = .ok options

theorem all_map_ok {α : Type} (as : List α) : Checked.all (as.map .ok) = .ok as := by
  induction as with
  | nil => rfl
  | cons a as ih =>
      rw [List.map_cons, Checked.all, ih]
      rfl

theorem checkList_of_ok {α : Type} {item : Value → Checked α} (write : α → Value)
    (hitem : ∀ a, item (write a) = .ok a) (as : List α) :
    checkList item (.list (as.map write)) = .ok as := by
  have hitems : (as.map write).mapIdx (fun n value => inside (.index n) (item value)) =
      as.map .ok := by
    refine List.ext_getElem (by simp) fun n h h' => ?_
    simp [hitem, inside]
  rw [checkList, hitems, all_map_ok]

theorem checkRecordOf_of_ok {α : Type} {item : Value → Checked α} (write : α → Value)
    (hitem : ∀ a, item (write a) = .ok a) (as : Entries α) :
    checkRecordOf item (.record (as.map fun entry => (entry.1, write entry.2))) = .ok as := by
  rw [checkRecordOf, List.map_map]
  refine (congrArg Checked.all (List.map_congr_left fun entry _ => ?_)).trans (all_map_ok as)
  simp [hitem, inside, Except.map]

theorem checkAutoprefixer_held (autoprefixer : Autoprefixer) :
    checkAutoprefixer autoprefixer.held = .ok autoprefixer := by
  cases autoprefixer with
  | off | standard => rfl
  | custom properties =>
      have htable : checkRecordOf (checkList checkText) (propertiesValue properties) =
          .ok properties :=
        checkRecordOf_of_ok _ (checkList_of_ok .text fun _ => rfl) properties
      simp [Autoprefixer.held, checkAutoprefixer, checkTruth, fail, inside, checkModel,
        checkFieldD, Entries.get?_cons, htable, Except.map]

theorem checkOptionalFunction_of_ok (f : Option Function) :
    checkOptionalFunction (f.elim .null .function) = .ok f := by
  cases f <;> rfl

theorem checkPositive_held (n : Nat) :
    checkPositive (.int n) = if 1 ≤ n then .ok n else fail .tooSmall := by
  have hcast : (1 : Int) ≤ n ↔ 1 ≤ n := by omega
  simp [checkPositive, checkInteger, hcast]

/-- The size of the cache is the only option whose type is wider than its check. -/
theorem Options.isValid_iff : options.IsValid ↔ 1 ≤ options.cacheSize := by
  constructor
  · intro h
    obtain ⟨size, hsize, -⟩ := exists_of_inside_map (h .cacheSize)
    rw [Options.held, checkPositive_held] at hsize
    split at hsize
    · assumption
    · exact nomatch hsize
  · intro h name
    cases name
    all_goals rw [Options.assign, Options.held]
    case styleStages => rw [checkList_of_ok .function fun _ => rfl]; rfl
    case autoprefixer => rw [checkAutoprefixer_held]; rfl
    case minifierSettings => rfl
    case minifier => rw [checkOptionalFunction_of_ok]; rfl
    case validator => rw [checkOptionalFunction_of_ok]; rfl
    case scopeTemplate => rfl
    case production => rfl
    case cacheSize => rw [checkPositive_held, if_pos h]; rfl
    case compilerSettings => rfl

/-! ## Sound states -/

/-- Every option is valid, the cache holds at least one style, and the registry is sound. -/
structure Target.IsSound (t : Target) : Prop where
  options : t.options.IsValid
  cacheSize : 1 ≤ t.options.cacheSize
  registry : t.registry.IsSound

theorem Target.isSound_iff : t.IsSound ↔ 1 ≤ t.options.cacheSize ∧ t.registry.IsSound :=
  ⟨fun h => ⟨h.cacheSize, h.registry⟩, fun h => ⟨Options.isValid_iff.mpr h.1, h.1, h.2⟩⟩

theorem one_le_of_assign (h : options.assign .cacheSize value = .ok result) :
    1 ≤ result.cacheSize := by
  obtain ⟨size, hsize, rfl⟩ := exists_of_inside_map h
  rw [checkPositive] at hsize
  split at hsize
  · rename_i n _
    split at hsize
    · obtain rfl := Except.ok.inj hsize
      dsimp only
      omega
    · exact nomatch hsize
  · exact nomatch hsize

theorem isSound_of_registerAll {registry registry' : Registry}
    (h : Applying.registerAll registry entries = .ok registry') (hsound : registry.IsSound) :
    registry'.IsSound := by
  induction entries generalizing registry with
  | nil =>
      obtain rfl := Except.ok.inj h
      exact hsound
  | cons entry rest ih =>
      obtain ⟨between, hfirst, hrest⟩ := Result.exists_of_bind_eq_ok h
      exact ih hrest (hsound.register hfirst)

/-- An entry that is not refused leaves a sound state sound. -/
theorem EntryEffect.isSound (h : EntryEffect t t' key value) (hsound : t.IsSound) :
    t'.IsSound := by
  refine Target.isSound_iff.mpr ⟨?_, ?_⟩
  · by_cases hkey : OptionName.written? key = some .cacheSize
    · have hname := OptionName.key_of_written? (by decide) hkey
      exact one_le_of_assign (h.assign_ok hname (by decide))
    · have hsame : t.options.cacheSize = t'.options.cacheSize := h.same .cacheSize hkey
      rw [← hsame]
      exact hsound.cacheSize
  · by_cases hkey : key = compilersKey
    · obtain ⟨compilers, -, hall⟩ := h.registerAll_ok hkey
      exact isSound_of_registerAll hall hsound.registry
    · rw [h.registry_eq hkey]
      exact hsound.registry

theorem Effects.isSound (h : Effects entries t t') (hsound : t.IsSound) : t'.IsSound := by
  induction h with
  | nil => exact hsound
  | cons hfirst _ ih => exact ih (hfirst.isSound hsound)

/-- So does a configuration that is refused. -/
theorem Stops.isSound (h : Stops verbose t value refusal t') (hsound : t.IsSound) :
    t'.IsSound := by
  cases h with
  | noEntries => exact hsound
  | atEntry hfront | atCompiler hfront => exact (Applying.config_ok hfront).isSound hsound

/-! ## Reachable states -/

/-- A call that changes the options or the registry. -/
inductive Change
  | configure (verbose : Bool) (config : Value)
  | register (tag function : Value)
  | unregister (tag : String)

/-- What a call leaves, whether or not it fails. -/
def Change.perform (t : Target) : Change → Target
  | configure verbose config =>
      match Applying.config verbose config t with
      | .ok _ t' | .error _ t' => t'
  | register tag function =>
      match t.registry.register tag function with
      | .ok registry => { t with registry }
      | .error _ => t
  | unregister tag => { t with registry := t.registry.unregister tag }

/-- What calls one after the other leave. -/
def performAll (t : Target) (changes : List Change) : Target := changes.foldl Change.perform t

theorem Change.isSound_configure (hsound : t.IsSound) (verbose : Bool) (config : Value) :
    (perform t (.configure verbose config)).IsSound := by
  rw [perform]
  split
  · rename_i hconfig
    cases hentries : entriesOf config with
    | error cause =>
        rw [Applying.config, hentries] at hconfig
        cases hconfig
    | ok entries =>
        obtain rfl := entriesOf_ok hentries
        exact (Applying.config_ok hconfig).isSound hsound
  · rename_i hconfig
    exact (Applying.config_error_iff_stops.mp hconfig).isSound hsound

/-- Every call leaves a sound state sound. -/
theorem Change.isSound_perform (hsound : t.IsSound) (change : Change) :
    (change.perform t).IsSound := by
  cases change with
  | configure verbose config => exact isSound_configure hsound verbose config
  | register tag function =>
      rw [Change.perform]
      split
      · rename_i hregister
        exact ⟨hsound.options, hsound.cacheSize, hsound.registry.register hregister⟩
      · exact hsound
  | unregister tag =>
      exact ⟨hsound.options, hsound.cacheSize, hsound.registry.unregister tag⟩

theorem isSound_performAll (hsound : t.IsSound) (changes : List Change) :
    (performAll t changes).IsSound := by
  induction changes generalizing t with
  | nil => exact hsound
  | cons change changes ih => exact ih (change.isSound_perform hsound)

/-- A refused configuration leaves what the entries in front of the one that stops it do alone,
with the compilers listed before a refused one.  From a sound state only sound states are
reached, whatever is refused on the way. -/
theorem stops_and_isSound (t : Target) :
    (∀ verbose config refusal t',
      Applying.config verbose config t = .error refusal t' ↔
        Stops verbose t config refusal t') ∧
      (t.IsSound → ∀ changes, (performAll t changes).IsSound) :=
  ⟨fun _ _ _ _ => Applying.config_error_iff_stops, isSound_performAll⟩

/-- A compiler with too few parameters stops a configuration between two that are accepted, after
an option has been set; a later call is refused as a whole. -/
theorem stops_and_isSound_of_middle_compiler :
    let fits : Function := ⟨"fits", some ⟨3, some 3, false⟩⟩
    let short : Function := ⟨"short", some ⟨1, some 1, false⟩⟩
    let listed : Entries Value := [("a", .function fits)]
    let config : Value := .record
      [("scope_template", .bool true),
        (compilersKey, .record (listed ++ ("b", .function short) :: [("c", .function fits)])),
        ("production", .bool true)]
    let start : Target := { options := {}, registry := {} }
    let left : Target :=
      { options := { scopeTemplate := true }, registry := ⟨[("a", fits)]⟩ }
    let changes : List Change :=
      [.configure false config, .configure false (.record [("style_cache_size", .int 0)]),
        .register (.text "") (.function fits), .unregister "a"]
    Stops false start config (.registration (.wrongArity "b")) left ∧
      Applying.config false config start = .error (.registration (.wrongArity "b")) left ∧
      start.IsSound ∧ (performAll start changes).IsSound ∧
      performAll start changes = { left with registry := {} } := by
  intro fits short listed config start left changes
  have hfront : Applying.config false
      (.record ([("scope_template", .bool true)] ++ [(compilersKey, .record listed)])) start =
        .ok () left := rfl
  have hstops : Stops false start config (.registration (.wrongArity "b")) left :=
    .atCompiler hfront rfl
  have hstart : start.IsSound := Target.isSound_iff.mpr ⟨by decide, Registry.isSound_empty⟩
  obtain ⟨hrefused, hreached⟩ := stops_and_isSound start
  exact ⟨hstops, (hrefused _ _ _ _).mpr hstops, hstart, hreached hstart changes, rfl⟩

/-- A compiler that does not tell its signature is registered, however few arguments it takes. -/
theorem registered_of_untold_signature :
    let takes : Function → Nat → Bool := fun f count =>
      (f.signature.getD ⟨0, some 2, false⟩).accepts count
    let start : Target := { options := {}, registry := {} }
    let untold : Function := ⟨"nosig", none⟩
    (∀ f s, f.signature = some s → ∀ count, takes f count = s.accepts count) ∧
      start.IsSound ∧
      (performAll start [.register (.text "x") (.function untold)]).registry.get? "x" =
        some untold ∧
      takes untold Registry.compilerArity = false := by
  intro takes start untold
  refine ⟨fun f s hs count => ?_, ?_, rfl, rfl⟩
  · simp only [takes, hs, Option.getD_some]
  · exact Target.isSound_iff.mpr ⟨by decide, Registry.isSound_empty⟩

end Settings

end ComponentCompiler
