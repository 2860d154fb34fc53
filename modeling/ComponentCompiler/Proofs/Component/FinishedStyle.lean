import ComponentCompiler.Component.Compile
import ComponentCompiler.Proofs.Component.Outcome
import ComponentCompiler.Proofs.StyleCache.Entries

/-!
# Finished styles

What a style block is finished to without a cache depends on the options, the
scope, the source and whether it is scoped; the path of the document shows only
in the report on a failure, unless a configured stage looks at it.  A lookup
gives either the recorded block or this one, so a cache that records nothing
else cannot be noticed.
-/

namespace ComponentCompiler

open Build

variable {around : Surroundings} {options : Settings.Options}

theorem StyleStage.onlyNotes_apply (context : StageContext) (sheet : Stylesheet)
    (stage : StyleStage) : OnlyNotes (stage.apply around context sheet) := by
  cases stage with
  | custom function => exact OnlyNotes.ofRun _
  | scope =>
      rw [StyleStage.apply]
      cases sheet.scope context.scopeId.toList with
      | ok confined => exact OnlyNotes.pure confined
      | error invalid => exact OnlyNotes.throw _
  | prefixes properties => exact OnlyNotes.pure _

theorem StyleStage.onlyNotes_applyAll (context : StageContext) (sheet : Stylesheet)
    (stages : List StyleStage) :
    OnlyNotes (StyleStage.applyAll around context sheet stages) := by
  induction stages generalizing sheet with
  | nil => exact OnlyNotes.pure sheet
  | cons stage rest ih => exact (onlyNotes_apply context sheet stage).bind ih

/-- Finishing a style afresh has no effect besides what the stages note down. -/
theorem onlyNotes_finishAfresh (around : Surroundings) (options : Settings.Options)
    (key : StyleKey) (filePath : Option String) :
    OnlyNotes (finishAfresh around options key filePath) := by
  unfold finishAfresh
  dsimp only
  split
  · exact OnlyNotes.pure _
  · split
    · exact OnlyNotes.throw _
    · exact (StyleStage.onlyNotes_applyAll _ _ _).bind fun _ => OnlyNotes.pure _

/-- What a style block is finished to when nothing is cached. -/
def finishedBlock (around : Surroundings) (options : Settings.Options) (key : StyleKey)
    (filePath : Option String) : Except Failure CompiledBlock :=
  ((finishAfresh around options key filePath).outcome {}).map (CompiledBlock.mk .style)

/-! ## The path of the document -/

/-- What the function makes of a sheet does not depend on the path of the document. -/
def IgnoresPath (around : Surroundings) (function : Function) : Prop :=
  ∀ sheet scopeId path other options,
    (around.extensions.stage function sheet ⟨scopeId, path, options⟩).outcome =
      (around.extensions.stage function sheet ⟨scopeId, other, options⟩).outcome

section Path

variable {scopeId : String} {path : Option String} {sheet result : Stylesheet}

theorem StyleStage.outcome_apply_of_ignoresPath {stage : StyleStage} {s : BuildState}
    (hignores : ∀ function, stage = .custom function → IgnoresPath around function)
    (hresult : (stage.apply around ⟨scopeId, path, options⟩ sheet).outcome s = .ok result)
    (other : Option String) (t : BuildState) :
    (stage.apply around ⟨scopeId, other, options⟩ sheet).outcome t = .ok result := by
  cases stage with
  | custom function =>
      rw [StyleStage.apply, outcome_ofRun] at hresult ⊢
      rwa [hignores function rfl sheet scopeId other path options]
  | scope =>
      rw [StyleStage.apply] at hresult ⊢
      dsimp only at hresult ⊢
      cases hscope : sheet.scope scopeId.toList with
      | ok confined =>
          rw [hscope] at hresult
          exact hresult
      | error invalid =>
          rw [hscope] at hresult
          simp at hresult
  | prefixes properties => exact hresult

theorem StyleStage.outcome_applyAll_of_ignoresPath {stages : List StyleStage}
    {s : BuildState}
    (hignores : ∀ function, StyleStage.custom function ∈ stages → IgnoresPath around function)
    (hresult : (applyAll around ⟨scopeId, path, options⟩ sheet stages).outcome s = .ok result)
    (other : Option String) (t : BuildState) :
    (applyAll around ⟨scopeId, other, options⟩ sheet stages).outcome t = .ok result := by
  induction stages generalizing sheet s t with
  | nil => exact hresult
  | cons stage rest ih =>
      rw [applyAll] at hresult ⊢
      cases hfirst : (stage.apply around ⟨scopeId, path, options⟩ sheet).outcome s with
      | error e =>
          rw [outcome_bind_of_error hfirst] at hresult
          simp at hresult
      | ok changed =>
          have hother := outcome_apply_of_ignoresPath
            (fun function heq => hignores function (heq ▸ List.mem_cons_self))
            hfirst other t
          rw [outcome_bind_of_ok hfirst] at hresult
          rw [outcome_bind_of_ok hother]
          exact ih (fun function hmem => hignores function (List.mem_cons_of_mem stage hmem))
            hresult _

theorem StyleStage.mem_styleStages_of_custom_mem {function : Function} {isScoped : Bool}
    (hmem : StyleStage.custom function ∈ stages options isScoped) :
    function ∈ options.styleStages := by
  rw [stages] at hmem
  rcases List.mem_append.mp hmem with hfirst | hprefixes
  · rcases List.mem_append.mp hfirst with hcustom | hscope
    · obtain ⟨_, hfunction, heq⟩ := List.mem_map.mp hcustom
      rwa [← StyleStage.custom.inj heq]
    · split at hscope <;> simp at hscope
  · split at hprefixes <;> simp at hprefixes

/-- A style that can be finished for one document is finished alike for any other
with the same scope, if no configured stage looks at the path. -/
theorem finishedBlock_of_ignoresPath {key : StyleKey} {block : CompiledBlock}
    (hignores : ∀ function ∈ options.styleStages, IgnoresPath around function)
    (hblock : finishedBlock around options key path = .ok block) (other : Option String) :
    finishedBlock around options key other = .ok block := by
  unfold finishedBlock finishAfresh at hblock ⊢
  dsimp only at hblock ⊢
  split at hblock
  · rename_i hstages
    rwa [if_pos hstages]
  · rename_i hstages
    rw [if_neg hstages]
    cases hparse : Stylesheet.parse key.css.toList with
    | error fault =>
        rw [hparse] at hblock
        simp [Except.map] at hblock
    | ok sheet =>
        rw [hparse] at hblock
        dsimp only at hblock ⊢
        cases hall : (StyleStage.applyAll around ⟨key.scopeId, path, options⟩ sheet
            (StyleStage.stages options key.isScoped)).outcome {} with
        | error e =>
            rw [outcome_bind_of_error hall] at hblock
            simp [Except.map] at hblock
        | ok result =>
            have hother := StyleStage.outcome_applyAll_of_ignoresPath
              (fun function hmem =>
                hignores function (StyleStage.mem_styleStages_of_custom_mem hmem))
              hall other {}
            rw [outcome_bind_of_ok hall] at hblock
            rw [outcome_bind_of_ok hother]
            exact hblock

end Path

/-! ## Lookups -/

section Lookup

variable (around : Surroundings) (options : Settings.Options)
variable {key : StyleKey} (filePath : Option String) {s : BuildState}

theorem outcome_finishStyle_of_found {block : CompiledBlock}
    (hfound : s.cache.peek? key = some block) :
    (finishStyle around options key filePath).outcome s = .ok block := by
  rw [finishStyle, outcome_bind_of_ok (outcome_get s)]
  dsimp only
  rw [outcome_bind_of_ok (outcome_modify _ _), StyleCache.get_fst, hfound]
  dsimp only [Build.debug]
  split <;> rfl

theorem final_finishStyle_of_found {block : CompiledBlock}
    (hfound : s.cache.peek? key = some block) :
    ∃ console, (finishStyle around options key filePath).final s =
      { s with cache := (s.cache.get key).2, console } := by
  rw [finishStyle, final_bind_of_ok (outcome_get s)]
  dsimp only
  rw [final_bind_of_ok (outcome_modify _ _), StyleCache.get_fst, hfound]
  dsimp only [Build.debug]
  split
  · exact ⟨_, rfl⟩
  · exact ⟨s.console, rfl⟩

/-- What is recorded after a style was finished afresh, if it could be finished. -/
theorem finishStyle_of_missing (hmissing : s.cache.peek? key = none) :
    (finishStyle around options key filePath).outcome s =
        ((finishedBlock around options key filePath).bind fun block =>
          if s.cache.isOverdrawn then .error .cacheOverdrawn else .ok block) ∧
      ∃ notes, (finishStyle around options key filePath).final s =
        { s with
          notes
          cache := match finishedBlock around options key filePath with
            | .ok block => s.cache.set key (some block)
            | .error _ => s.cache } := by
  have hafresh := onlyNotes_finishAfresh around options key filePath
  obtain ⟨notes, hnotes⟩ := hafresh.final_eq s
  have hcache : { s with cache := (s.cache.get key).2 } = s := by
    rw [StyleCache.get_of_peek?_eq_none hmissing]
  rw [finishStyle, finishedBlock]
  rw [outcome_bind_of_ok (outcome_get s), final_bind_of_ok (outcome_get s)]
  dsimp only
  rw [outcome_bind_of_ok (outcome_modify _ _), final_bind_of_ok (outcome_modify _ _),
    StyleCache.get_fst, hmissing, final_get, final_modify, hcache]
  dsimp only
  rw [hafresh.outcome_eq {} s]
  cases hsource : (finishAfresh around options key filePath).outcome s with
  | ok source =>
      rw [outcome_bind_of_ok hsource, final_bind_of_ok hsource, hnotes,
        outcome_bind_of_ok (outcome_modify _ _), final_bind_of_ok (outcome_modify _ _),
        outcome_bind_of_ok (outcome_get _), final_bind_of_ok (outcome_get _), final_get,
        final_modify]
      refine ⟨?_, notes, ?_⟩
      · change outcome (ite (s.cache.isOverdrawn = true) _ _) _ = ite _ _ _
        split <;> rfl
      · split <;> rfl
  | error e =>
      rw [outcome_bind_of_error hsource, final_bind_of_error hsource, hnotes]
      exact ⟨rfl, notes, rfl⟩

/-- What a lookup may do to the cache: find a block, fail, or record a new one. -/
theorem cache_final_finishStyle (key : StyleKey) (s : BuildState) :
    ((finishStyle around options key filePath).final s).cache = (s.cache.get key).2 ∨
      ((finishStyle around options key filePath).final s).cache = s.cache ∨
      ∃ block, finishedBlock around options key filePath = .ok block ∧
        ((finishStyle around options key filePath).final s).cache =
          s.cache.set key (some block) := by
  cases hlookup : s.cache.peek? key with
  | some block =>
      obtain ⟨console, hfinal⟩ := final_finishStyle_of_found around options filePath hlookup
      exact Or.inl (by rw [hfinal])
  | none =>
      obtain ⟨_, notes, hfinal⟩ := finishStyle_of_missing around options filePath hlookup
      rw [hfinal]
      cases hblock : finishedBlock around options key filePath with
      | error e => exact Or.inr (Or.inl rfl)
      | ok block => exact Or.inr (Or.inr ⟨block, rfl, rfl⟩)

@[simp]
theorem maxSize_cache_final_finishStyle (key : StyleKey) (s : BuildState) :
    ((finishStyle around options key filePath).final s).cache.maxSize = s.cache.maxSize := by
  rcases cache_final_finishStyle around options filePath key s with
    hcache | hcache | ⟨block, _, hcache⟩ <;> simp [hcache]

theorem isBounded_cache_final_finishStyle (key : StyleKey)
    (hbounded : s.cache.IsBounded) :
    ((finishStyle around options key filePath).final s).cache.IsBounded := by
  rcases cache_final_finishStyle around options filePath key s with
    hcache | hcache | ⟨block, _, hcache⟩ <;> rw [hcache]
  · exact hbounded.get key
  · exact hbounded
  · exact StyleCache.isBounded_set s.cache key (some block)

/-- What holds of the blocks recorded before and of what styles are finished to holds
of the blocks recorded after a lookup. -/
theorem of_mem_cache_final_finishStyle {P : StyleKey → CompiledBlock → Prop}
    (hold : ∀ key block, (key, some block) ∈ s.cache.entries → P key block)
    (hnew : ∀ key block, finishedBlock around options key filePath = .ok block → P key block)
    {other : StyleKey} {block : CompiledBlock}
    (hentry : (other, some block) ∈
      ((finishStyle around options key filePath).final s).cache.entries) :
    P other block := by
  rcases cache_final_finishStyle around options filePath key s with
    hcache | hcache | ⟨new, hblock, hcache⟩ <;> rw [hcache] at hentry
  · exact hold other block (StyleCache.mem_entries_of_mem_get hentry)
  · exact hold other block hentry
  · rcases StyleCache.eq_or_mem_entries_of_mem_set hentry with heq | hbefore
    · obtain ⟨rfl, hsome⟩ := Prod.mk.inj heq
      obtain rfl := Option.some.inj hsome
      exact hnew other block hblock
    · exact hold other block hbefore

end Lookup

/-! ## Caches that record nothing else -/

/-- A cache of bounded size that records only what is known. -/
structure Recorded (Known : StyleKey → CompiledBlock → Prop) (cache : FinishedStyles) :
    Prop where
  bounded : cache.IsBounded
  known : ∀ key block, (key, some block) ∈ cache.entries → Known key block

theorem Recorded.of_entries_eq_nil {Known : StyleKey → CompiledBlock → Prop}
    {cache : FinishedStyles} (hempty : cache.entries = []) : Recorded Known cache where
  bounded := StyleCache.isBounded_of_entries_eq_nil hempty
  known key block hentry := by simp [hempty] at hentry

theorem Recorded.finishStyle {Known : StyleKey → CompiledBlock → Prop}
    {filePath : Option String} {s : BuildState} (h : Recorded Known s.cache)
    (hnew : ∀ key block, finishedBlock around options key filePath = .ok block →
      Known key block) (key : StyleKey) :
    Recorded Known
      ((ComponentCompiler.finishStyle around options key filePath).final s).cache where
  bounded := isBounded_cache_final_finishStyle around options filePath key h.bounded
  known _ _ hentry := of_mem_cache_final_finishStyle around options filePath h.known hnew hentry

/-- Every recorded block is the one its key is finished to, with these options and
for a document at this path. -/
def IsCurrent (around : Surroundings) (options : Settings.Options)
    (filePath : Option String) (cache : FinishedStyles) : Prop :=
  ∀ key block, (key, some block) ∈ cache.entries →
    finishedBlock around options key filePath = .ok block

section Current

variable {key : StyleKey} {filePath : Option String} {s : BuildState}

theorem isCurrent_of_entries_eq_nil {cache : FinishedStyles} (hempty : cache.entries = []) :
    IsCurrent around options filePath cache := by
  intro key block hentry
  simp [hempty] at hentry

/-- With a current cache a lookup cannot be told from finishing the style afresh. -/
theorem outcome_finishStyle_of_isCurrent
    (hcurrent : IsCurrent around options filePath s.cache)
    (hsize : s.cache.isOverdrawn = false) :
    (finishStyle around options key filePath).outcome s =
      finishedBlock around options key filePath := by
  cases hlookup : s.cache.peek? key with
  | some block =>
      rw [outcome_finishStyle_of_found around options filePath hlookup]
      exact (hcurrent key block (StyleCache.mem_entries_of_peek? hlookup)).symm
  | none =>
      rw [(finishStyle_of_missing around options filePath hlookup).1, hsize]
      cases finishedBlock around options key filePath <;> rfl

theorem isCurrent_cache_final_finishStyle (key : StyleKey)
    (hcurrent : IsCurrent around options filePath s.cache) :
    IsCurrent around options filePath
      ((finishStyle around options key filePath).final s).cache := by
  intro other block hentry
  exact of_mem_cache_final_finishStyle around options filePath hcurrent
    (fun _ _ hblock => hblock) hentry

end Current

end ComponentCompiler
