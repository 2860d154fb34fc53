import ComponentCompiler.Proofs.Component.PartAccounts
import ComponentCompiler.Proofs.Component.References

/-!
# Dependencies and warnings of a compile

A compile emits the paths that the document refers to, in the order of the
document, and then what the compilers of its blocks emit, block by block.  What
is cached makes no difference.  A compile that fails has emitted a beginning of
this.  The warnings are those about references, followed by those of the
validator.
-/

namespace ComponentCompiler

open Build

namespace CompileRequest

/-- The blocks that the sections give, in the order of the document. -/
def blocks (request : CompileRequest) (around : Surroundings) : List Block :=
  request.sections.map (Block.extracted around request.content request.filePath)

/-- The warnings for the references that cannot be read, in the order of the document. -/
def referenceWarnings (request : CompileRequest) (around : Surroundings) : List Warning :=
  request.sections.filterMap (Block.sectionWarning? around request.filePath)

/-- The number of templates. -/
def templateCount (request : CompileRequest) : Nat :=
  request.sections.countP (·.kind == .template)

end CompileRequest

namespace Setup

/-- The warnings for what the validator says about the template, if that is in the default
language. -/
def validationWarnings (setup : Setup) (around : Surroundings) (request : CompileRequest) :
    List Warning :=
  match request.sections.find? (·.kind == .template) with
  | some part => if part.lang?.isNone then setup.objections around request part else []
  | none => []

/-- The paths that the compilers of these blocks emit. -/
def reportsOf (setup : Setup) (around : Surroundings) (request : CompileRequest)
    (blocks : List Block) : List String :=
  blocks.flatMap (setup.reports around request.filePath)

/-- The blocks that a compile comes to: those that it compiles and the first that it fails
at.  Without all blocks being extracted it comes to none. -/
def begunBlocks (setup : Setup) (around : Surroundings) (request : CompileRequest)
    (s : BuildState) : List Block :=
  match Document.parse request.content with
  | .error _ => []
  | .ok doc =>
      let start := (announce around request).final s
      let extracting := doc.blocks around request.content request.filePath request.strict
      match extracting.outcome start with
      | .ok blocks =>
          begun (setup.compilePart around request doc request.scopeId?) blocks
            (extracting.final start)
      | .error _ => []

end Setup

/-! ## Extracting all blocks -/

section

variable {around : Surroundings} {doc : Document} {content : String} {filePath : Option String}
variable {strict : Bool} {s : BuildState}

/-- Whether or not it fails, an extraction has emitted the paths of the sections that it came
to; and it comes to none of a document with more than one template. -/
theorem Document.exists_tracker_final_blocks (around : Surroundings) (doc : Document)
    (content : String) (filePath : Option String) (strict : Bool) (s : BuildState) :
    ∃ front, front <+: doc.sections ∧
      ((doc.blocks around content filePath strict).final s).tracker =
        s.tracker.after (front.filterMap (Block.sectionPath? around filePath)) ∧
      (2 ≤ doc.sections.countP (·.kind == .template) → front = []) := by
  cases hcount : doc.countFault? filePath with
  | some fault =>
      refine ⟨[], List.nil_prefix, ?_, fun _ => rfl⟩
      rw [blocks_of_countFault hcount]
      rfl
  | none =>
      refine ⟨_, begun_prefix (Block.extract around content filePath strict) _ s, ?_, ?_⟩
      · rw [blocks_of_sound hcount, List.filterMap_eq_flatMap_toList]
        exact Accounts.tracker_final_mapM (Block.accounts_extract around content filePath strict) _ s
      · intro hmany
        exact absurd (countFault?_eq_none_iff.mp hcount) (Nat.not_le.mpr hmany)

theorem Document.countFault?_eq_none_of_ok {blocks : List Block}
    (h : (doc.blocks around content filePath strict).outcome s = .ok blocks) :
    doc.countFault? filePath = none := by
  cases hcount : doc.countFault? filePath with
  | none => rfl
  | some fault =>
      rw [blocks_of_countFault hcount] at h
      exact nomatch h

/-- An extraction that succeeds has emitted and warned of what belongs to all sections. -/
theorem Document.blocks_of_ok {blocks : List Block}
    (h : (doc.blocks around content filePath strict).outcome s = .ok blocks) :
    blocks = doc.sections.map (Block.extracted around content filePath) ∧
      s.tracker.Takes (doc.sections.filterMap (Block.sectionPath? around filePath)) ∧
      ((doc.blocks around content filePath strict).final s).tracker =
        s.tracker.after (doc.sections.filterMap (Block.sectionPath? around filePath)) ∧
      ((doc.blocks around content filePath strict).final s).warnings =
        s.warnings ++ doc.sections.filterMap (Block.sectionWarning? around filePath) := by
  have haccounts := Block.accounts_extract around content filePath strict
  have hcount := countFault?_eq_none_of_ok h
  rw [blocks_of_sound hcount] at h ⊢
  rw [List.filterMap_eq_flatMap_toList, List.filterMap_eq_flatMap_toList]
  refine ⟨?_, ?_, ?_, ?_⟩
  · exact eq_map_of_outcome_mapM (fun _ _ _ => Block.outcome_extract_of_ok) h
  · exact Accounts.takes_of_mapM haccounts h
  · rw [Accounts.tracker_final_mapM haccounts, begun_eq_of_ok h]
  · exact Accounts.warnings_final_mapM haccounts h

end

/-! ## Compiling all blocks -/

namespace Setup

section

variable {around : Surroundings} {setup : Setup} {request : CompileRequest} {doc : Document}
variable {s start : BuildState}

theorem final_compile (around : Surroundings) (setup : Setup) (request : CompileRequest)
    (s : BuildState) :
    (setup.compile around request).final s = (setup.moduleParts around request).final s := by
  have hresult (parts : List Module.Part) (t : BuildState) :
      (resultOf request parts).final t = t := by
    rw [resultOf]
    cases request.scopeId? <;> rfl
  rw [compile_eq]
  cases hparts : (setup.moduleParts around request).outcome s with
  | ok parts => rw [final_bind_of_ok hparts, hresult]
  | error e => rw [final_bind_of_error hparts]

theorem outcome_moduleParts (hdoc : Document.parse request.content = .ok doc)
    (hstart : announce around request s = .ok () start) :
    (setup.moduleParts around request).outcome s =
      (doc.blocks around request.content request.filePath request.strict >>= fun blocks =>
        blocks.mapM (setup.compilePart around request doc request.scopeId?)).outcome start := by
  rw [moduleParts, hdoc, outcome, bind_apply_of_ok hstart]
  rfl

theorem final_moduleParts (hdoc : Document.parse request.content = .ok doc)
    (hstart : announce around request s = .ok () start) :
    (setup.moduleParts around request).final s =
      (doc.blocks around request.content request.filePath request.strict >>= fun blocks =>
        blocks.mapM (setup.compilePart around request doc request.scopeId?)).final start := by
  rw [moduleParts, hdoc, final, bind_apply_of_ok hstart]
  rfl

theorem moduleParts_of_rejected {reason : Markup.Rejection}
    (hdoc : Document.parse request.content = .error reason)
    (hstart : announce around request s = .ok () start) :
    setup.moduleParts around request s = .error (.rejectedMarkup reason) start := by
  rw [moduleParts, hdoc, bind_apply_of_ok hstart]
  rfl

/-! ### Warnings -/

theorem flatMap_of_countP_le_one {γ δ : Type} {p : γ → Bool} {g : γ → List δ} {items : List γ}
    (hg : ∀ c, p c = false → g c = []) (h : items.countP p ≤ 1) :
    items.flatMap g = (items.find? p).elim [] g := by
  induction items with
  | nil => rfl
  | cons c rest ih =>
      cases hc : p c with
      | true =>
          have hrest : rest.countP p = 0 := by
            rw [List.countP_cons_of_pos hc] at h
            omega
          have hnil : rest.flatMap g = [] := by
            refine List.flatMap_eq_nil_iff.mpr fun d hd => hg d ?_
            exact Bool.eq_false_iff.mpr (List.countP_eq_zero.mp hrest d hd)
          rw [List.flatMap_cons, hnil, List.append_nil, List.find?_cons_of_pos hc]
          rfl
      | false =>
          have hnot : ¬ p c = true := Bool.eq_false_iff.mp hc
          rw [List.countP_cons_of_neg hnot] at h
          rw [List.flatMap_cons, hg c hc, List.nil_append, ih h, List.find?_cons_of_neg hnot]

theorem blockObjections_of_ne_template {block : Block} (h : block.kind ≠ .template) :
    setup.blockObjections around request doc block = [] := by
  rw [blockObjections]
  cases hkind : block.kind with
  | template => exact absurd hkind h
  | style => rfl
  | script => rfl

/-- The validator is asked about one template at most. -/
theorem flatMap_blockObjections (around : Surroundings) (setup : Setup)
    (hdoc : Document.parse request.content = .ok doc)
    (hcount : doc.sections.countP (·.kind == .template) ≤ 1) :
    (request.blocks around).flatMap (setup.blockObjections around request doc) =
      setup.validationWarnings around request := by
  rw [CompileRequest.blocks, List.flatMap_map, validationWarnings,
    CompileRequest.sections_of_parse hdoc]
  rw [flatMap_of_countP_le_one (fun c hc => ?_) hcount]
  · cases hfound : doc.sections.find? (·.kind == .template) with
    | none => rfl
    | some part =>
        have hkind : part.kind = .template := by simpa using List.find?_some hfound
        dsimp only [Option.elim_some, blockObjections, Block.extracted, Block.ofSource]
        rw [Document.template?, hfound, hkind]
        cases part.lang? <;> rfl
  · exact blockObjections_of_ne_template (by simpa [Block.extracted, Block.ofSource] using hc)

/-! ### The whole compile -/

theorem references_eq (hdoc : Document.parse request.content = .ok doc) (around : Surroundings) :
    request.references around =
      doc.sections.filterMap (Block.sectionPath? around request.filePath) := by
  rw [CompileRequest.references, CompileRequest.srcs, CompileRequest.map_pathOf_srcs,
    CompileRequest.sections_of_parse hdoc]

theorem blocks_eq (hdoc : Document.parse request.content = .ok doc) (around : Surroundings) :
    request.blocks around =
      doc.sections.map (Block.extracted around request.content request.filePath) := by
  rw [CompileRequest.blocks, CompileRequest.sections_of_parse hdoc]

/-- A compile that puts together a module has emitted and warned of all that it should. -/
theorem moduleParts_of_ok {parts : List Module.Part}
    (h : (setup.moduleParts around request).outcome s = .ok parts) :
    s.tracker.Takes (request.references around ++
        setup.reportsOf around request (request.blocks around)) ∧
      ((setup.moduleParts around request).final s).tracker =
        s.tracker.after (request.references around ++
          setup.reportsOf around request (request.blocks around)) ∧
      ((setup.moduleParts around request).final s).warnings =
        request.referenceWarnings around ++ setup.validationWarnings around request := by
  obtain ⟨start, hstart, htracker, -, hwarnings⟩ := exists_announced around request s
  cases hdoc : Document.parse request.content with
  | error reason =>
      rw [outcome, moduleParts_of_rejected hdoc hstart] at h
      simp at h
  | ok doc =>
      rw [outcome_moduleParts hdoc hstart, outcome_bind] at h
      obtain ⟨blocks, hblocks, hparts⟩ := Result.exists_of_bind_eq_ok h
      obtain ⟨hall, htakes, hemitted, hwarned⟩ := Document.blocks_of_ok hblocks
      -- The blocks are compiled from the tracker and the warnings that the extraction leaves.
      have haccounts := accounts_compilePart setup around request doc request.scopeId?
      have hcount :=
        Document.countFault?_eq_none_iff.mp (Document.countFault?_eq_none_of_ok hblocks)
      rw [← blocks_eq hdoc] at hall
      rw [← references_eq hdoc, htracker] at htakes hemitted
      rw [final_moduleParts hdoc hstart, final_bind_of_ok hblocks, ← hall]
      refine ⟨htakes.append ?_, ?_, ?_⟩
      · rw [← hemitted]
        exact Accounts.takes_of_mapM haccounts hparts
      · rw [Accounts.tracker_final_mapM haccounts, begun_eq_of_ok hparts, hemitted,
          Tracker.after_append htakes]
        rfl
      · rw [Accounts.warnings_final_mapM haccounts hparts, hwarned, hwarnings, List.nil_append,
          hall, flatMap_blockObjections around setup hdoc hcount,
          CompileRequest.referenceWarnings, CompileRequest.sections_of_parse hdoc]

theorem begunBlocks_eq (hdoc : Document.parse request.content = .ok doc)
    (hstart : announce around request s = .ok () start) :
    setup.begunBlocks around request s =
      let extracting := doc.blocks around request.content request.filePath request.strict
      match extracting.outcome start with
      | .ok blocks =>
          begun (setup.compilePart around request doc request.scopeId?) blocks
            (extracting.final start)
      | .error _ => [] := by
  rw [begunBlocks, hdoc, final, hstart]

/-- However a compile ends, it has emitted some of the paths that the document refers to, or
all of them and what the compilers emit for the blocks that it came to. -/
theorem exists_emitted (setup : Setup) (around : Surroundings) (request : CompileRequest)
    (s : BuildState) :
    ∃ emitted, ((setup.compile around request).final s).tracker = s.tracker.after emitted ∧
      (emitted <+: request.references around ∧ setup.begunBlocks around request s = [] ∨
        emitted = request.references around ++
          setup.reportsOf around request (setup.begunBlocks around request s)) ∧
      (2 ≤ request.templateCount → emitted = []) := by
  obtain ⟨start, hstart, htracker, -, -⟩ := exists_announced around request s
  rw [final_compile]
  cases hdoc : Document.parse request.content with
  | error reason =>
      refine ⟨[], ?_, Or.inl ⟨List.nil_prefix, ?_⟩, fun _ => rfl⟩
      · rw [final, moduleParts_of_rejected hdoc hstart]
        exact htracker
      · rw [begunBlocks, hdoc]
  | ok doc =>
      rw [final_moduleParts hdoc hstart, CompileRequest.templateCount,
        CompileRequest.sections_of_parse hdoc]
      cases hblocks :
          (doc.blocks around request.content request.filePath request.strict).outcome start with
      | error e =>
          -- A failed extraction is all that the compile does.
          obtain ⟨front, hfront, hemitted, hcount⟩ := Document.exists_tracker_final_blocks around
            doc request.content request.filePath request.strict start
          refine ⟨front.filterMap (Block.sectionPath? around request.filePath), ?_,
            Or.inl ⟨?_, ?_⟩, ?_⟩
          · rw [final_bind_of_error hblocks, hemitted, htracker]
          · rw [references_eq hdoc]
            exact hfront.filterMap _
          · rw [begunBlocks_eq hdoc hstart]
            dsimp only
            rw [hblocks]
          · intro hmany
            rw [hcount hmany]
            rfl
      | ok blocks =>
          obtain ⟨-, htakes, hemitted, -⟩ := Document.blocks_of_ok hblocks
          rw [← references_eq hdoc, htracker] at htakes hemitted
          refine ⟨_, ?_, Or.inr rfl, fun hmany => ?_⟩
          · rw [final_bind_of_ok hblocks, begunBlocks_eq hdoc hstart, Tracker.after_append htakes,
              ← hemitted]
            dsimp only
            rw [hblocks]
            exact Accounts.tracker_final_mapM
              (accounts_compilePart setup around request doc request.scopeId?) blocks _
          · have hcount := Document.countFault?_eq_none_of_ok hblocks
            exact absurd (Document.countFault?_eq_none_iff.mp hcount) (Nat.not_le.mpr hmany)

theorem begunBlocks_prefix (setup : Setup) (around : Surroundings) (request : CompileRequest)
    (s : BuildState) : setup.begunBlocks around request s <+: request.blocks around := by
  obtain ⟨start, hstart, -, -, -⟩ := exists_announced around request s
  cases hdoc : Document.parse request.content with
  | error reason =>
      rw [begunBlocks, hdoc]
      exact List.nil_prefix
  | ok doc =>
      rw [begunBlocks_eq hdoc hstart]
      dsimp only
      cases hblocks :
          (doc.blocks around request.content request.filePath request.strict).outcome start with
      | error e => exact List.nil_prefix
      | ok blocks =>
          rw [blocks_eq hdoc, ← (Document.blocks_of_ok hblocks).1]
          exact begun_prefix _ blocks _

theorem resultOf_of_ok {parts : List Module.Part} {result : CompileResult}
    (h : (resultOf request parts).outcome s = .ok result) :
    result.dependencies = s.tracker.paths ∧ result.warnings = s.warnings := by
  rw [resultOf] at h
  cases hscope : request.scopeId? with
  | none =>
      rw [hscope] at h
      simp at h
  | some scopeId =>
      rw [hscope] at h
      obtain rfl := Except.ok.inj h
      exact ⟨rfl, rfl⟩

/-- No dependency and no warning is lost, doubled or moved.  A compile that succeeds has
emitted the paths that the document refers to, in its order, and then what the compilers emit,
block by block; it warns of the references that cannot be read and then of what the validator
says.  A compile that fails has emitted a beginning of this.  The tracker holds the emitted
paths behind those it held before, and between them only what its own listeners emit. -/
theorem dependencies_of_compile (setup : Setup) (around : Surroundings)
    (request : CompileRequest) (s : BuildState) :
    (∀ result, (setup.compile around request).outcome s = .ok result →
      let emitted :=
        request.references around ++ setup.reportsOf around request (request.blocks around)
      result.dependencies = (s.tracker.after emitted).paths ∧
        (s.tracker.IsMute → result.dependencies = s.tracker.paths ++ emitted) ∧
        result.warnings =
          request.referenceWarnings around ++ setup.validationWarnings around request) ∧
    (∀ failure, (setup.compile around request).outcome s = .error failure →
      ∃ emitted, ((setup.compile around request).final s).tracker = s.tracker.after emitted ∧
        (emitted <+: request.references around ∧ setup.begunBlocks around request s = [] ∨
          emitted = request.references around ++
            setup.reportsOf around request (setup.begunBlocks around request s)) ∧
        setup.begunBlocks around request s <+: request.blocks around ∧
        (2 ≤ request.templateCount → emitted = []) ∧
        (s.tracker.IsMute → ∃ heard, heard <+: emitted ∧
          (s.tracker.after emitted).paths = s.tracker.paths ++ heard ∧
          (s.tracker.IsPassive → heard = emitted))) := by
  constructor
  · intro result hresult emitted
    rw [compile_eq, outcome_bind] at hresult
    obtain ⟨parts, hparts, hresult⟩ := Result.exists_of_bind_eq_ok hresult
    obtain ⟨htakes, htracker, hwarnings⟩ := moduleParts_of_ok hparts
    obtain ⟨hdependencies, hsame⟩ := resultOf_of_ok hresult
    rw [htracker] at hdependencies
    refine ⟨hdependencies, fun hmute => ?_, hsame.trans hwarnings⟩
    rw [hdependencies]
    exact Tracker.paths_after_of_takes hmute htakes
  · intro failure _
    obtain ⟨emitted, htracker, hemitted, hcount⟩ := exists_emitted setup around request s
    refine ⟨emitted, htracker, hemitted, begunBlocks_prefix setup around request s, hcount, ?_⟩
    intro hmute
    obtain ⟨heard, hprefix, hpaths, hall⟩ := Tracker.exists_heard_of_isMute hmute emitted
    exact ⟨heard, hprefix, hpaths, fun hpassive =>
      hall (Tracker.takes_of_isPassive hpassive emitted)⟩

/-- A missing style, a style in another language and a checked template, and then a document
whose first compiler fails after it emitted a path. -/
theorem dependencies_of_mixed_documents :
    let around : Surroundings :=
      { disk := { workingDirectory := "/work" }
        extensions :=
          { Extensions.none with
            compile := fun function _ _ =>
              if function.name = "broken" then
                { reports := ["/lib/c.scss"], outcome := .error (.raised "syntax") }
              else { reports := ["/lib/a.scss", "/lib/b.scss"], outcome := .ok (.text "") }
            validate := fun _ _ _ => { outcome := .ok [.text "no alt", .text "no key"] } } }
    let setup : Setup :=
      { options := { validator := some ⟨"check", none⟩ }
        registry := ⟨[("scss", ⟨"scss", none⟩), ("sass", ⟨"broken", none⟩)]⟩ }
    let request : CompileRequest :=
      { content := "<style src=gone.css></style><template><p></p></template><style lang=scss>"
        scope := .named "v" }
    let broken : CompileRequest :=
      { content := "<style src=gone.css></style><style lang=sass></style><style lang=scss>"
        scope := .named "v" }
    let s : BuildState := { tracker := { paths := ["/old.css"] } }
    (∃ result, (setup.compile around request).outcome s = .ok result ∧
      result.dependencies = ["/old.css", "/work/gone.css", "/lib/a.scss", "/lib/b.scss"] ∧
      result.warnings.map (·.kind) = [.reference, .validation, .validation]) ∧
    ∃ failure emitted, (setup.compile around broken).outcome s = .error failure ∧
      (emitted <+: ["/work/gone.css"] ∨ emitted = ["/work/gone.css", "/lib/c.scss"]) ∧
      ((setup.compile around broken).final s).tracker.paths = "/old.css" :: emitted := by
  intro around setup request broken s
  have hpassive : s.tracker.IsPassive := fun _ h => absurd h List.not_mem_nil
  constructor
  · cases houtcome : (setup.compile around request).outcome s with
    | error failure =>
        have hok : ((setup.compile around request).outcome s).isOk = true := by decide +kernel
        rw [houtcome] at hok
        exact nomatch hok
    | ok result =>
        obtain ⟨-, hdependencies, hwarnings⟩ :=
          (dependencies_of_compile setup around request s).1 result houtcome
        refine ⟨result, rfl, (hdependencies hpassive.isMute).trans ?_, ?_⟩
        · decide +kernel
        · rw [hwarnings]
          decide +kernel
  · cases houtcome : (setup.compile around broken).outcome s with
    | ok result =>
        have hfails : ((setup.compile around broken).outcome s).isOk = false := by decide +kernel
        rw [houtcome] at hfails
        exact nomatch hfails
    | error failure =>
        obtain ⟨emitted, htracker, hemitted, -, -, hheard⟩ :=
          (dependencies_of_compile setup around broken s).2 failure houtcome
        obtain ⟨heard, -, hpaths, hall⟩ := hheard hpassive.isMute
        have hreferences : broken.references around = ["/work/gone.css"] := by decide +kernel
        have hbegun : broken.references around ++
            setup.reportsOf around broken (setup.begunBlocks around broken s) =
              ["/work/gone.css", "/lib/c.scss"] := by decide +kernel
        rw [hbegun, hreferences] at hemitted
        rw [hall hpassive] at hpaths
        refine ⟨failure, emitted, rfl, hemitted.imp_left And.left, ?_⟩
        rw [htracker, hpaths]
        rfl

/-- A listener that emits a path itself when it hears of one adds to the dependencies. -/
theorem dependencies_of_emitting_listener :
    let around : Surroundings :=
      { disk := { workingDirectory := "/work", files := [("/work/a.css", ".a \x7b\x7d".toUTF8)] }
        extensions := Extensions.none }
    let setup : Setup := { options := {}, registry := {} }
    let request : CompileRequest :=
      { content := "<style src=a.css></style>", scope := .named "v" }
    let listener : Listener :=
      { name := "chain"
        react := fun path => if path = "/work/a.css" then [.report "/work/a.css.dep"] else [] }
    let s : BuildState := { tracker := { listeners := [listener] } }
    ∃ result, (setup.compile around request).outcome s = .ok result ∧
      result.dependencies ≠ s.tracker.paths ++
        (request.references around ++
          setup.reportsOf around request (request.blocks around)) := by
  intro around setup request listener s
  have hdependencies : ((setup.compile around request).outcome s).toOption.map
      (·.dependencies) = some ["/work/a.css", "/work/a.css.dep"] := by decide +kernel
  have hexpected : s.tracker.paths ++ (request.references around ++
      setup.reportsOf around request (request.blocks around)) = ["/work/a.css"] := by
    decide +kernel
  obtain ⟨result, hresult, heq⟩ := Option.map_eq_some_iff.mp hdependencies
  refine ⟨result, ?_, ?_⟩
  · cases houtcome : (setup.compile around request).outcome s with
    | error failure => simp [houtcome, Except.toOption] at hresult
    | ok other =>
        rw [houtcome] at hresult
        rw [Option.some.inj hresult]
  · rw [heq, hexpected]
    decide

end

end Setup

end ComponentCompiler
