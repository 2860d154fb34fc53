import ComponentCompiler.Proofs.Component.Accounts
import ComponentCompiler.Proofs.Component.StyleHits

/-!
# What compiling a block reports and warns of

Compiling a block emits what the compiler of its language emits, and nothing
else does.  It warns of what the validator says about a template in the default
language.  Neither depends on what the cache of styles holds.
-/

namespace ComponentCompiler

open Build

variable {around : Surroundings} {setup : Setup}

namespace Setup

/-- The paths that the compiler of a block's language emits for it. -/
def reports (setup : Setup) (around : Surroundings) (filePath : Option String)
    (block : Block) : List String :=
  match setup.registry.compiler? block.lang with
  | some function => (around.extensions.compile function block.source filePath).reports
  | none => []

/-- The warnings for what the validator says about a template. -/
def objections (setup : Setup) (around : Surroundings) (request : CompileRequest)
    (part : Section) : List Warning :=
  match setup.options.validator with
  | some validator =>
      match (around.extensions.validate validator (some part) request.content).outcome with
      | .ok messages =>
          messages.map fun message =>
            { kind := .validation, message := message.display, path := request.filePath }
      | .error _ => []
  | none => []

/-- The warnings for a block. -/
def blockObjections (setup : Setup) (around : Surroundings) (request : CompileRequest)
    (doc : Document) (block : Block) : List Warning :=
  match block.kind, block.lang, doc.template? with
  | .template, none, some part => setup.objections around request part
  | _, _, _ => []

end Setup

theorem Build.accounts_compileBlock (around : Surroundings) (setup : Setup) (kind : BlockKind)
    (block : Block) (filePath : Option String) :
    Accounts (compileBlock around setup.registry kind block.source block.lang filePath)
      (setup.reports around filePath block) [] := by
  rw [Setup.reports]
  unfold compileBlock
  cases hlang : block.lang with
  | none => exact Accounts.pure _
  | some tag =>
      cases setup.registry.compiler? (some tag) with
      | none => exact Accounts.pure _
      | some function =>
          dsimp only
          refine (Accounts.debug around _).silent_bind (fun s e => ?_) fun _ => ?_
          · rw [outcome_debug]
            simp
          · refine (Accounts.reports _).bind_silent fun _ => ?_
            split
            · exact Accounts.throw _ []
            · exact Accounts.throw _ []
            · exact Accounts.pure _

theorem Build.accounts_validateTemplate (around : Surroundings) (setup : Setup)
    (request : CompileRequest) (part : Section) :
    Accounts (validateTemplate around setup.options (some part) request.content request.filePath)
      [] (setup.objections around request part) := by
  rw [Setup.objections, validateTemplate]
  cases setup.options.validator with
  | none => exact Accounts.pure _
  | some validator =>
      dsimp only
      refine (Accounts.of_onlyNotes (OnlyNotes.ofRun _)).bind_quiet fun s messages h => ?_
      rw [outcome_ofRun] at h
      cases hrun : (around.extensions.validate validator (some part) request.content).outcome with
      | error failure => simp [hrun] at h
      | ok said =>
          obtain rfl : said = messages := by simpa [hrun] using h
          refine Accounts.bind_silent ?_ fun _ => Accounts.pure said
          dsimp only
          rw [List.map_eq_flatMap]
          refine Accounts.forM_quiet (fun message => ?_) said
          exact (Accounts.say _).bind_quiet fun _ _ _ => Accounts.addWarning _

theorem Setup.accounts_finishStyle (key : StyleKey) (filePath : Option String) :
    Accounts (setup.finishStyle around key filePath) [] [] :=
  Accounts.of_unchanged fun s => by
    rw [final_finishStyle]
    exact tracker_warnings_final_finishStyle around setup.options filePath key _

theorem Setup.accounts_adjustCache : Accounts setup.adjustCache [] [] :=
  Accounts.of_unchanged fun s => by
    rw [(adjustCache_eq s).2]
    exact ⟨rfl, rfl⟩

theorem Setup.accounts_compileStyle (filePath scopeId? : Option String) (block : Block) :
    Accounts (setup.compileStyle around filePath scopeId? block)
      (setup.reports around filePath block) [] := by
  rw [compileStyle]
  refine (accounts_compileBlock around setup .style block filePath).bind_silent fun compiled => ?_
  split
  · exact accounts_finishStyle _ _
  · exact accounts_adjustCache.bind_silent fun _ => Accounts.throw _ []

/-! ## Templates -/

namespace Setup

/-- What is done to a template after it was compiled. -/
def finishTemplate (setup : Setup) (around : Surroundings) (doc : Document)
    (scopeId? : Option String) (compiled : CompiledBlock) : Build Module.Part := do
  let marked ←
    if doc.hasScopedStyle && setup.options.scopeTemplate then
      Build.markTemplate compiled.source scopeId?
    else pure compiled.source
  let final ←
    if setup.options.production then Build.minifyTemplate around setup.options marked
    else pure (some marked)
  match final with
  | some source => return .block ⟨.template, source⟩
  | none => return .missingTemplate

variable {request : CompileRequest} {doc : Document} {scopeId? : Option String} {block : Block}

/-- What is done to a template after it was checked. -/
def compileChecked (setup : Setup) (around : Surroundings) (request : CompileRequest)
    (doc : Document) (scopeId? : Option String) (block : Block) : Build Module.Part :=
  Build.compileBlock around setup.registry .template block.source block.lang request.filePath
    >>= setup.finishTemplate around doc scopeId?

theorem compileTemplate_of_template {part : Section} (hlang : block.lang = none)
    (hpart : doc.template? = some part) :
    setup.compileTemplate around request doc scopeId? block =
      (discard <| Build.validateTemplate around setup.options (some part) request.content
        request.filePath) >>= fun _ => setup.compileChecked around request doc scopeId? block := by
  rw [compileTemplate, compileChecked, hlang, hpart]
  rfl

theorem compileTemplate_of_lang {lang : String} (hlang : block.lang = some lang) :
    setup.compileTemplate around request doc scopeId? block =
      setup.compileChecked around request doc scopeId? block := by
  rw [compileTemplate, compileChecked, hlang]
  rfl

theorem compileTemplate_of_missing (hpart : doc.template? = none) :
    setup.compileTemplate around request doc scopeId? block =
      setup.compileChecked around request doc scopeId? block := by
  rw [compileTemplate, compileChecked, hpart]
  cases block.lang <;> rfl

theorem onlyNotes_markTemplate (template : String) (scopeId? : Option String) :
    OnlyNotes (Build.markTemplate template scopeId?) := by
  unfold Build.markTemplate
  split
  · exact OnlyNotes.throw _
  · exact OnlyNotes.pure _
  · split
    · exact OnlyNotes.throw _
    · exact OnlyNotes.pure _

theorem onlyNotes_minifyTemplate (options : Settings.Options) (template : String) :
    OnlyNotes (Build.minifyTemplate around options template) := by
  rw [Build.minifyTemplate]
  split
  · exact OnlyNotes.pure _
  · exact OnlyNotes.ofRun _

theorem onlyNotes_finishTemplate (compiled : CompiledBlock) :
    OnlyNotes (setup.finishTemplate around doc scopeId? compiled) := by
  have hshrink (marked : String) {next : Option String → Build Module.Part}
      (hnext : ∀ final, OnlyNotes (next final)) :
      OnlyNotes
        (if setup.options.production then
          Build.minifyTemplate around setup.options marked >>= next
        else pure (some marked) >>= next) := by
    split
    · exact (onlyNotes_minifyTemplate _ marked).bind hnext
    · exact (OnlyNotes.pure _).bind hnext
  rw [finishTemplate]
  dsimp only
  split
  · refine (onlyNotes_markTemplate _ _).bind fun marked => hshrink marked fun final => ?_
    cases final <;> exact OnlyNotes.pure _
  · refine (OnlyNotes.pure _).bind fun marked => hshrink marked fun final => ?_
    cases final <;> exact OnlyNotes.pure _

/-- A compiled template emits what its compiler emits, and warns of what the validator says
if it names no language. -/
theorem accounts_compileTemplate (setup : Setup) (around : Surroundings)
    (request : CompileRequest) (doc : Document) (scopeId? : Option String) (block : Block) :
    Accounts (setup.compileTemplate around request doc scopeId? block)
      (setup.reports around request.filePath block)
      (match block.lang, doc.template? with
        | none, some part => setup.objections around request part
        | _, _ => []) := by
  have hchecked : Accounts (setup.compileChecked around request doc scopeId? block)
      (setup.reports around request.filePath block) [] :=
    (accounts_compileBlock around setup .template block request.filePath).bind_silent fun _ =>
      Accounts.of_onlyNotes (onlyNotes_finishTemplate _)
  cases hlang : block.lang with
  | some lang =>
      rw [compileTemplate_of_lang hlang]
      exact hchecked
  | none =>
      cases hpart : doc.template? with
      | none =>
          rw [compileTemplate_of_missing hpart]
          exact hchecked
      | some part =>
          have hreports : setup.reports around request.filePath block = [] := by
            rw [reports, hlang]
            rfl
          rw [hreports] at hchecked ⊢
          rw [compileTemplate_of_template hlang hpart, discard_eq_bind, bind_assoc]
          refine (accounts_validateTemplate around setup request part).bind_silent fun _ => ?_
          exact hchecked

/-- What compiling a block emits and warns of. -/
theorem accounts_compilePart (setup : Setup) (around : Surroundings) (request : CompileRequest)
    (doc : Document) (scopeId? : Option String) (block : Block) :
    Accounts (setup.compilePart around request doc scopeId? block)
      (setup.reports around request.filePath block)
      (setup.blockObjections around request doc block) := by
  rw [compilePart, blockObjections]
  cases hkind : block.kind with
  | template =>
      have h := accounts_compileTemplate setup around request doc scopeId? block
      cases hlang : block.lang <;> cases hpart : doc.template? <;>
        simpa only [hlang, hpart] using h
  | style =>
      exact (accounts_compileStyle request.filePath scopeId? block).bind_silent fun _ =>
        Accounts.pure _
  | script =>
      exact (accounts_compileBlock around setup .script block request.filePath).bind_silent
        fun _ => Accounts.pure _

end Setup

end ComponentCompiler
