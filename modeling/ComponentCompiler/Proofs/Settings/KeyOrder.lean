import ComponentCompiler.Proofs.Settings.Applied

/-!
# The order of the keys of a configuration

Two orders of the same entries set the same options and register the same compilers, with
two exceptions.  Settings of the minifier are merged only if production is in force when
their turn comes.  The settings of compilers, set as a whole, take the place of what other
keys have put there before.
-/

namespace ComponentCompiler.Settings

open Checked
open OptionName (Same)

variable {verbose : Bool} {t t' t₁ t₂ : Target} {key : String} {value : Value}
  {name : OptionName} {entries first second : Entries Value}

namespace OptionName

/-- Both options have the same value, in which the order of entries does not matter. -/
def Agrees (a b : Options) : OptionName → Prop
  | minifierSettings => a.minifierSettings.Same b.minifierSettings
  | compilerSettings => a.compilerSettings.Same b.compilerSettings
  | name => Same a b name

theorem agrees_iff {a b : Options} (hminifier : name ≠ minifierSettings)
    (hcompilers : name ≠ compilerSettings) : Agrees a b name ↔ Same a b name := by
  cases name <;> first | exact Iff.rfl | contradiction

end OptionName

/-- The same options, in which the order of entries does not matter. -/
def Options.Agree (a b : Options) : Prop := ∀ name, OptionName.Agrees a b name

/-! ## Options of their own -/

theorem Effects.unassigned (h : Effects entries t t') (name : OptionName)
    (hname : name ≠ .compilerSettings)
    (hget : entries.get? name.key = none) : Same t.options t'.options name := by
  refine h.same fun key hkey hwritten => ?_
  obtain rfl := OptionName.key_of_written? hname hwritten
  exact Entries.get?_eq_none_iff.mp hget hkey

theorem Effects.assigned (h : Effects entries t t') (name : OptionName)
    (hkeys : entries.keys.Nodup)
    (hminifier : name ≠ .minifierSettings) (hcompilers : name ≠ .compilerSettings)
    (hget : entries.get? name.key = some value) :
    ∃ result, t.options.assign name value = .ok result ∧ Same result t'.options name := by
  obtain ⟨front, back, before, behind, rfl, -, heffect, hback⟩ := h.exists_cut hget
  obtain ⟨-, hbase⟩ := same_of_assign (heffect.assign_ok rfl hminifier)
  obtain ⟨result, hresult, hsame⟩ := hbase t.options
  have habsent := Entries.get?_eq_none_iff.mpr (Entries.notMem_keys_of_nodup hkeys).2
  exact ⟨result, hresult, hsame.symm.trans (hback.unassigned name hcompilers habsent)⟩

/-- The order does not matter to an option that only its own entry changes. -/
theorem Effects.same_of_perm (h₁ : Effects first t t₁) (h₂ : Effects second t t₂)
    (hkeys : first.keys.Nodup) (hperm : second.Perm first)
    (hminifier : name ≠ .minifierSettings) (hcompilers : name ≠ .compilerSettings) :
    Same t₁.options t₂.options name := by
  have hkeys₂ := Entries.nodup_keys_of_perm hkeys hperm
  obtain ⟨hfirst, hsecond⟩ | ⟨value, hfirst, hsecond⟩ :=
    Entries.get?_cases_of_perm hkeys hperm name.key
  · have hsame := h₁.unassigned name hcompilers hfirst
    exact hsame.symm.trans (h₂.unassigned name hcompilers hsecond)
  · obtain ⟨result, hresult, hsame⟩ := h₁.assigned name hkeys hminifier hcompilers hfirst
    obtain ⟨result₂, hresult₂, hsame₂⟩ := h₂.assigned name hkeys₂ hminifier hcompilers hsecond
    obtain rfl := Except.ok.inj (hresult.symm.trans hresult₂)
    exact hsame.symm.trans hsame₂

/-! ## The registry -/

theorem Effects.registerAll_ok (h : Effects entries t t') (hkeys : entries.keys.Nodup)
    (hget : entries.get? compilersKey = some value) :
    ∃ compilers, value = .record compilers ∧
      Applying.registerAll t.registry compilers = .ok t'.registry := by
  obtain ⟨front, back, before, behind, rfl, hfront, heffect, hback⟩ := h.exists_cut hget
  obtain ⟨hnotFront, hnotBack⟩ := Entries.notMem_keys_of_nodup hkeys
  obtain ⟨compilers, hvalue, hregistry⟩ := heffect.registerAll_ok rfl
  rw [hfront.registry_eq hnotFront, ← hback.registry_eq hnotBack] at hregistry
  exact ⟨compilers, hvalue, hregistry⟩

/-- The order does not matter to the registry. -/
theorem Effects.registry_eq_of_perm (h₁ : Effects first t t₁) (h₂ : Effects second t t₂)
    (hkeys : first.keys.Nodup) (hperm : second.Perm first) : t₁.registry = t₂.registry := by
  have hkeys₂ := Entries.nodup_keys_of_perm hkeys hperm
  obtain ⟨hfirst, hsecond⟩ | ⟨value, hfirst, hsecond⟩ :=
    Entries.get?_cases_of_perm hkeys hperm compilersKey
  · rw [h₁.registry_eq (Entries.get?_eq_none_iff.mp hfirst),
      h₂.registry_eq (Entries.get?_eq_none_iff.mp hsecond)]
  · obtain ⟨compilers, rfl, hregistry⟩ := h₁.registerAll_ok hkeys hfirst
    obtain ⟨_, hsame, hregistry₂⟩ := h₂.registerAll_ok hkeys₂ hsecond
    obtain rfl := Value.record.inj hsame
    exact Except.ok.inj (hregistry.symm.trans hregistry₂)

/-! ## Settings of the minifier -/

/-- Whether the value of a configuration asks for production; if there is none, `mode` stays. -/
def productionOf (entries : Entries Value) (mode : Bool) : Bool :=
  ((entries.get? OptionName.production.key).bind fun value => (checkTruth value).toOption).getD
    mode

/-- Whether production is in force when settings of the minifier have their turn. -/
def modeAtMerge (options : Options) (entries : Entries Value) : Bool :=
  if entries.Precedes OptionName.production.key OptionName.minifierSettings.key then
    productionOf entries options.production
  else options.production

/-- In both orders the settings of the minifier are merged or not, or they change nothing. -/
def MergesAlike (options : Options) (first second : Entries Value) : Prop :=
  modeAtMerge options first = modeAtMerge options second ∨
    ∀ value merged, first.get? OptionName.minifierSettings.key = some value →
      mergeSettings options.minifierSettings value = .ok merged →
        merged.Same options.minifierSettings

theorem Effects.production_eq (h : Effects entries t t') (hkeys : entries.keys.Nodup) :
    t'.options.production = productionOf entries t.options.production := by
  rw [productionOf]
  cases hget : entries.get? OptionName.production.key with
  | none => exact (h.unassigned .production nofun hget).symm
  | some value =>
      obtain ⟨result, hresult, hsame⟩ := h.assigned .production hkeys nofun nofun hget
      obtain ⟨mode, hmode, rfl⟩ := exists_of_inside_map hresult
      rw [Option.bind_some, hmode]
      exact Eq.symm hsame

/-- The settings of the minifier are merged into what they were if production is in force. -/
theorem Effects.mergeSettings_ok (h : Effects entries t t') (hkeys : entries.keys.Nodup)
    (hget : entries.get? OptionName.minifierSettings.key = some value) :
    if modeAtMerge t.options entries then
      mergeSettings t.options.minifierSettings value = .ok t'.options.minifierSettings
    else t'.options.minifierSettings = t.options.minifierSettings := by
  obtain ⟨front, back, before, behind, rfl, hfront, heffect, hback⟩ := h.exists_cut hget
  obtain ⟨hnotFront, hnotBack⟩ := Entries.notMem_keys_of_nodup hkeys
  have hbefore : before.options.minifierSettings = t.options.minifierSettings :=
    (hfront.unassigned .minifierSettings nofun
      (Entries.get?_eq_none_iff.mpr hnotFront)).symm
  have hbehind : behind.options.minifierSettings = t'.options.minifierSettings :=
    hback.unassigned .minifierSettings nofun (Entries.get?_eq_none_iff.mpr hnotBack)
  have hmode : before.options.production =
      modeAtMerge t.options (front ++ (OptionName.minifierSettings.key, value) :: back) := by
    rw [hfront.production_eq (Entries.nodup_keys_of_append hkeys).1, modeAtMerge]
    split
    case isTrue hprecedes =>
      have hmem := (Entries.precedes_iff_mem_front hkeys).mp hprecedes
      rw [productionOf, productionOf, Entries.get?_append_of_mem hmem]
    case isFalse hnot =>
      have hmem := mt (Entries.precedes_iff_mem_front hkeys).mpr hnot
      rw [productionOf, Entries.get?_eq_none_iff.mpr hmem]
      rfl
  have hmerge := heffect.mergeSettings_ok rfl
  rwa [hmode, hbefore, hbehind] at hmerge

theorem Effects.minifierSettings_unmerged (h : Effects entries t t')
    (hget : entries.get? OptionName.minifierSettings.key = none) :
    t'.options.minifierSettings = t.options.minifierSettings :=
  Eq.symm (h.unassigned .minifierSettings nofun hget)

theorem mergesAlike_iff_of_ne {options : Options} {merged : Entries Value}
    (hmodes : modeAtMerge options first ≠ modeAtMerge options second)
    (hget : first.get? OptionName.minifierSettings.key = some value)
    (hmerged : mergeSettings options.minifierSettings value = .ok merged) :
    MergesAlike options first second ↔ merged.Same options.minifierSettings := by
  constructor
  · rintro (hsame | hidle)
    · exact absurd hsame hmodes
    · exact hidle value merged hget hmerged
  · refine fun hsame => Or.inr fun other result hother hresult => ?_
    obtain rfl := Option.some.inj (hget.symm.trans hother)
    obtain rfl := Except.ok.inj (hmerged.symm.trans hresult)
    exact hsame

/-- Both orders leave the minifier the same settings if and only if they merge alike. -/
theorem Effects.minifierSettings_same_iff (h₁ : Effects first t t₁) (h₂ : Effects second t t₂)
    (hkeys : first.keys.Nodup) (hperm : second.Perm first) :
    t₁.options.minifierSettings.Same t₂.options.minifierSettings ↔
      MergesAlike t.options first second := by
  have hkeys₂ := Entries.nodup_keys_of_perm hkeys hperm
  obtain ⟨hfirst, hsecond⟩ | ⟨value, hfirst, hsecond⟩ :=
    Entries.get?_cases_of_perm hkeys hperm OptionName.minifierSettings.key
  · rw [h₁.minifierSettings_unmerged hfirst, h₂.minifierSettings_unmerged hsecond]
    exact iff_of_true (Entries.Same.refl _) (Or.inr fun _ _ h => nomatch hfirst.symm.trans h)
  · have hmerge₁ := h₁.mergeSettings_ok hkeys hfirst
    have hmerge₂ := h₂.mergeSettings_ok hkeys₂ hsecond
    cases hmode₁ : modeAtMerge t.options first <;>
      cases hmode₂ : modeAtMerge t.options second <;>
      simp only [hmode₁, hmode₂, if_true, if_false, Bool.false_eq_true] at hmerge₁ hmerge₂
    case false.false =>
      rw [hmerge₁, hmerge₂]
      exact iff_of_true (Entries.Same.refl _) (Or.inl (hmode₁.trans hmode₂.symm))
    case true.true =>
      obtain heq := Except.ok.inj (hmerge₁.symm.trans hmerge₂)
      rw [heq]
      exact iff_of_true (Entries.Same.refl _) (Or.inl (hmode₁.trans hmode₂.symm))
    -- If one order alone merges, the merge must change nothing.
    case false.true =>
      rw [mergesAlike_iff_of_ne (by simp [hmode₁, hmode₂]) hfirst hmerge₂, hmerge₁]
      exact ⟨Entries.Same.symm, Entries.Same.symm⟩
    case true.false =>
      rw [mergesAlike_iff_of_ne (by simp [hmode₁, hmode₂]) hfirst hmerge₁, hmerge₂]

/-! ## Settings of compilers -/

/-- Keys that are kept for compilers stand on the same side of the settings as a whole, or
those have the same value for them. -/
def KeepsAlike (first second : Entries Value) : Prop :=
  ∀ (key : String) (value : Value) (settings : Entries Value), IsKept key →
    first.get? key = some value →
    first.get? OptionName.compilerSettings.key = some (.record settings) →
      (first.Precedes key OptionName.compilerSettings.key ↔
        second.Precedes key OptionName.compilerSettings.key) ∨
      settings.get? key = some value

/-- Kept keys are added to the settings of compilers that a run finds. -/
theorem Effects.get?_compilerSettings_of_absent (h : Effects entries t t')
    (hkeys : entries.keys.Nodup) (habsent : OptionName.compilerSettings.key ∉ entries.keys)
    (key : String) :
    t'.options.compilerSettings.get? key =
      if IsKept key then (entries.get? key).or (t.options.compilerSettings.get? key)
      else t.options.compilerSettings.get? key := by
  induction h with
  | nil t => simp
  | @cons added value rest t mid t' hfirst hrest ih =>
      obtain ⟨hadded, hrestKeys⟩ := List.nodup_cons.mp hkeys
      rw [ih hrestKeys (List.not_mem_of_not_mem_cons habsent)]
      by_cases hkept : IsKept added
      · rw [hfirst.compilerSettings_eq hkept, Entries.get?_set, Entries.get?_cons]
        by_cases hkey : added = key
        · subst hkey
          rw [if_pos hkept, if_pos hkept, if_pos rfl, if_pos rfl,
            Entries.get?_eq_none_iff.mpr hadded, Option.none_or, Option.some_or]
        · rw [if_neg hkey, if_neg hkey]
      · have hsame : t.options.compilerSettings = mid.options.compilerSettings := by
          refine hfirst.same .compilerSettings fun hwritten => ?_
          rcases OptionName.written?_eq_compilerSettings_iff.mp hwritten with rfl | h
          · exact habsent List.mem_cons_self
          · exact hkept h
        rw [hsame, Entries.get?_cons]
        by_cases hkey : added = key
        · subst hkey
          rw [if_neg hkept, if_neg hkept]
        · rw [if_neg hkey]

theorem checkRecord_ok {settings : Entries Value} (h : checkRecord value = .ok settings) :
    value = .record settings := by
  cases value <;> first | exact congrArg Value.record (Except.ok.inj h) | exact nomatch h

/-- Settings of compilers that are set as a whole keep nothing of what was there, and only
the keys behind them are added. -/
theorem Effects.get?_compilerSettings_of_present (h : Effects entries t t')
    (hkeys : entries.keys.Nodup)
    (hget : entries.get? OptionName.compilerSettings.key = some value) :
    ∃ settings : Entries Value, value = .record settings ∧ ∀ key,
      t'.options.compilerSettings.get? key =
        if IsKept key ∧ ¬entries.Precedes key OptionName.compilerSettings.key then
          (entries.get? key).or (settings.get? key)
        else settings.get? key := by
  obtain ⟨front, back, before, behind, rfl, -, heffect, hback⟩ := h.exists_cut hget
  obtain ⟨-, hnotBack⟩ := Entries.notMem_keys_of_nodup hkeys
  have hbackKeys := (List.nodup_cons.mp (Entries.nodup_keys_of_append hkeys).2).2
  obtain ⟨settings, hsettings, hbehind⟩ :=
    exists_of_inside_map (heffect.assign_ok rfl nofun)
  obtain rfl := checkRecord_ok hsettings
  refine ⟨settings, rfl, fun key => ?_⟩
  have hset : behind.options.compilerSettings = settings := by rw [← hbehind]
  have hprecedes := Entries.precedes_iff_mem_front (a := key) hkeys
  rw [hback.get?_compilerSettings_of_absent hbackKeys hnotBack, hset]
  by_cases hkept : IsKept key
  · by_cases hfront : key ∈ front.keys
    · have hnone := Entries.get?_eq_none_iff.mpr
        (List.not_mem_of_not_mem_cons (Entries.notMem_keys_of_append hkeys hfront))
      rw [if_pos hkept, if_neg fun h => h.2 (hprecedes.mpr hfront), hnone, Option.none_or]
    · have hne : OptionName.compilerSettings.key ≠ key := by
        rintro rfl
        exact OptionName.not_isKept_key _ hkept
      rw [if_pos hkept, if_pos ⟨hkept, mt hprecedes.mp hfront⟩,
        Entries.get?_append_of_notMem hfront, Entries.get?_cons, if_neg hne]
  · rw [if_neg hkept, if_neg fun h => hkept h.1]

/-- Both orders leave compilers the same settings if and only if they keep them alike. -/
theorem Effects.compilerSettings_same_iff (h₁ : Effects first t t₁) (h₂ : Effects second t t₂)
    (hkeys : first.keys.Nodup) (hperm : second.Perm first) :
    t₁.options.compilerSettings.Same t₂.options.compilerSettings ↔ KeepsAlike first second := by
  have hkeys₂ := Entries.nodup_keys_of_perm hkeys hperm
  have hsame := Entries.get?_of_perm hkeys hperm
  have hget := hsame OptionName.compilerSettings.key
  cases hfirst : first.get? OptionName.compilerSettings.key with
  | none =>
      rw [hfirst] at hget
      refine iff_of_true (fun key => ?_) fun _ _ _ _ _ h => nomatch hfirst.symm.trans h
      rw [h₁.get?_compilerSettings_of_absent hkeys (Entries.get?_eq_none_iff.mp hfirst),
        h₂.get?_compilerSettings_of_absent hkeys₂ (Entries.get?_eq_none_iff.mp hget), hsame key]
  | some value =>
      rw [hfirst] at hget
      obtain ⟨settings, rfl, hvalues₁⟩ := h₁.get?_compilerSettings_of_present hkeys hfirst
      obtain ⟨_, heq, hvalues₂⟩ := h₂.get?_compilerSettings_of_present hkeys₂ hget
      obtain rfl := Value.record.inj heq
      constructor
      · intro hall key value other hkept hvalue hother
        obtain rfl := Value.record.inj (Option.some.inj (hfirst.symm.trans hother))
        have hkey := hall key
        rw [hvalues₁, hvalues₂, hsame key, hvalue, Option.some_or] at hkey
        by_cases hprecedes₁ : first.Precedes key OptionName.compilerSettings.key <;>
          by_cases hprecedes₂ : second.Precedes key OptionName.compilerSettings.key <;>
          simp_all
      · intro hkeeps key
        rw [hvalues₁, hvalues₂, hsame key]
        cases hvalue : first.get? key with
        | none => simp only [Option.none_or, ite_self]
        | some value =>
            rw [Option.some_or]
            by_cases hkept : IsKept key
            · rcases hkeeps key value settings hkept hvalue hfirst with hprecedes | hsettings
              · simp only [hprecedes]
              · simp only [hsettings, ite_self]
            · simp only [hkept, false_and]

/-! ## Whole configurations -/

/-- Options agree if their two mappings do and all else is the same. -/
theorem Options.agree_iff {a b : Options}
    (hsame : ∀ name, name ≠ .minifierSettings → name ≠ .compilerSettings → Same a b name) :
    a.Agree b ↔ a.minifierSettings.Same b.minifierSettings ∧
      a.compilerSettings.Same b.compilerSettings := by
  refine ⟨fun h => ⟨h .minifierSettings, h .compilerSettings⟩, fun ⟨hminifier, hcompilers⟩ => ?_⟩
  intro name
  by_cases hname : name = .minifierSettings
  · exact hname ▸ hminifier
  by_cases hname' : name = .compilerSettings
  · exact hname' ▸ hcompilers
  exact (OptionName.agrees_iff hname hname').mpr (hsame name hname hname')

/-- Two orders of a configuration that are both accepted register the same compilers and
give all options the same values, except for two: the settings of the minifier, which are
the same if and only if the orders merge them alike, and the settings of compilers, which
are the same if and only if the orders keep them alike. -/
theorem Applying.config_agree_iff {options : Options} {registry : Registry} {console : String}
    (hkeys : first.keys.Nodup) (hperm : second.Perm first)
    (h₁ : config verbose (.record first) ⟨options, registry, console⟩ = .ok () t₁)
    (h₂ : config verbose (.record second) ⟨options, registry, console⟩ = .ok () t₂) :
    (t₁.options.Agree t₂.options ↔
      MergesAlike options first second ∧ KeepsAlike first second) ∧
    (∀ tag, t₁.registry.get? tag = t₂.registry.get? tag) ∧
    ∀ name, name ≠ .minifierSettings → name ≠ .compilerSettings →
      Same t₁.options t₂.options name := by
  have heffects₁ := config_ok h₁
  have heffects₂ := config_ok h₂
  have hsame : ∀ name, name ≠ .minifierSettings → name ≠ .compilerSettings →
      Same t₁.options t₂.options name := fun name hminifier hcompilers =>
    heffects₁.same_of_perm heffects₂ hkeys hperm hminifier hcompilers
  refine ⟨?_, fun tag => ?_, hsame⟩
  · rw [Options.agree_iff hsame, heffects₁.minifierSettings_same_iff heffects₂ hkeys hperm,
      heffects₁.compilerSettings_same_iff heffects₂ hkeys hperm]
  · rw [heffects₁.registry_eq_of_perm heffects₂ hkeys hperm]

/-- Production stands before the settings of the minifier in both orders, and those of
compilers before a key that is kept for them. -/
theorem Applying.config_agree_of_kept_places :
    let scss : Function := ⟨"scss", none⟩
    let merging : Entries Value :=
      [("production", .text "yes"), ("html_minifier", .record [("q", .int 1)])]
    let keeping : Entries Value :=
      [("custom_compilers", .record [("scss", .function scss)]),
        ("compiler_settings", .record [("sass", .null)]), ("sass", .int 2)]
    ∃ t₁ t₂ : Target,
      config true (.record (merging ++ keeping)) ⟨{}, {}, ""⟩ = .ok () t₁ ∧
        config true (.record (keeping ++ merging)) ⟨{}, {}, ""⟩ = .ok () t₂ ∧
        t₁.options.Agree t₂.options ∧ t₁.registry.get? "scss" = some scss ∧
        t₂.registry.get? "scss" = some scss := by
  intro scss merging keeping
  have hkeys : (Entries.keys (merging ++ keeping)).Nodup := by decide
  obtain ⟨t₁, h₁⟩ : ∃ t₁, config true (.record (merging ++ keeping)) ⟨{}, {}, ""⟩ = .ok () t₁ :=
    ⟨_, rfl⟩
  obtain ⟨t₂, h₂⟩ : ∃ t₂, config true (.record (keeping ++ merging)) ⟨{}, {}, ""⟩ = .ok () t₂ :=
    ⟨_, rfl⟩
  obtain ⟨hagree, hregistry, -⟩ := config_agree_iff hkeys List.perm_append_comm h₁ h₂
  have hmerges : MergesAlike {} (merging ++ keeping) (keeping ++ merging) := Or.inl (by decide)
  have hplaces : ∀ key ∈ Entries.keys (merging ++ keeping), IsKept key →
      ((merging ++ keeping).Precedes key OptionName.compilerSettings.key ↔
        (keeping ++ merging).Precedes key OptionName.compilerSettings.key) := by decide
  have hkeeps : KeepsAlike (merging ++ keeping) (keeping ++ merging) :=
    fun key _ _ hkept hvalue _ => Or.inl (hplaces key (Entries.mem_keys_of_get? hvalue) hkept)
  have hscss : t₁.registry.get? "scss" = some scss := by
    obtain rfl := (EStateM.Result.ok.inj h₁).2
    rfl
  exact ⟨t₁, t₂, h₁, h₂, hagree.mpr ⟨hmerges, hkeeps⟩, hscss, hregistry "scss" ▸ hscss⟩

/-- Production that is asked for behind the settings of the minifier comes too late for
them, and settings of compilers that are set as a whole drop what stood before them. -/
theorem Applying.config_not_agree_of_reversed :
    let merging : Entries Value :=
      [("production", .bool true), ("html_minifier", .record [("q", .int 1)])]
    let keeping : Entries Value := [("compiler_settings", .record []), ("babel", .int 2)]
    (∃ t₁ t₂ : Target,
      config false (.record merging) ⟨{}, {}, ""⟩ = .ok () t₁ ∧
        config false (.record merging.reverse) ⟨{}, {}, ""⟩ = .ok () t₂ ∧
        ¬t₁.options.Agree t₂.options) ∧
    ∃ t₁ t₂ : Target,
      config false (.record keeping) ⟨{}, {}, ""⟩ = .ok () t₁ ∧
        config false (.record keeping.reverse) ⟨{}, {}, ""⟩ = .ok () t₂ ∧
        ¬t₁.options.Agree t₂.options := by
  intro merging keeping
  exact ⟨⟨_, _, rfl, rfl, fun hagree => nomatch hagree .minifierSettings "q"⟩,
    ⟨_, _, rfl, rfl, fun hagree => nomatch hagree .compilerSettings "babel"⟩⟩

end ComponentCompiler.Settings
