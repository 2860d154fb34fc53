import ComponentCompiler.Proofs.Component.CacheTransparency
import ComponentCompiler.Proofs.Component.Lockstep
import ComponentCompiler.Proofs.Component.ModuleText

/-!
# What a compile takes from the cache

A compile looks each style up once.  The styles that it finds are all that it
takes from the cache, so they alone decide whether its module is the one that it
would emit with an empty cache.
-/

namespace ComponentCompiler

open Build

variable {around : Surroundings} {setup : Setup}

/-! ## Found styles -/

/-- A finished style that was found in the cache. -/
structure StyleHit where
  key : StyleKey
  block : CompiledBlock

/-- The block is what its key is finished to. -/
def StyleHit.IsCurrent (around : Surroundings) (options : Settings.Options)
    (filePath : Option String) (hit : StyleHit) : Prop :=
  finishedBlock around options hit.key filePath = .ok hit.block

namespace Setup

/-- What is found for a compiled style. -/
def styleHit? (setup : Setup) (key : StyleKey) (s : BuildState) : Option StyleHit :=
  ((setup.adjusted s.cache).peek? key).map (StyleHit.mk key)

/-- What is found for a block, if it is a style. -/
def partHit? (setup : Setup) (around : Surroundings) (filePath scopeId? : Option String)
    (block : Block) (s : BuildState) : Option StyleHit :=
  let compiling := Build.compileBlock around setup.registry .style block.source block.lang filePath
  match block.kind, compiling.outcome s, scopeId? with
  | .style, .ok compiled, some scopeId =>
      setup.styleHit? ⟨scopeId, compiled.source, block.isScoped⟩ (compiling.final s)
  | _, _, _ => none

/-- What is found while blocks are compiled one after the other. -/
def partHits (setup : Setup) (around : Surroundings) (request : CompileRequest)
    (doc : Document) (scopeId? : Option String) : List Block → BuildState → List StyleHit
  | [], _ => []
  | block :: rest, s =>
      let compiling := setup.compilePart around request doc scopeId? block
      (setup.partHit? around request.filePath scopeId? block s).toList ++
        match compiling.outcome s with
        | .ok _ => partHits setup around request doc scopeId? rest (compiling.final s)
        | .error _ => []

end Setup

/-! ## Two caches -/

/-- The second cache has the size of the first and holds only blocks that are
current; the first one holds any styles. -/
structure Refreshed (around : Surroundings) (options : Settings.Options)
    (filePath : Option String) (c d : FinishedStyles) : Prop where
  maxSize : c.maxSize = d.maxSize
  recorded : Recorded (fun _ block => block.kind = .style) c
  refreshed : Recorded (fun key block => finishedBlock around options key filePath = .ok block) d

theorem Refreshed.adjusted {filePath : Option String} {c d : FinishedStyles}
    (h : Refreshed around setup.options filePath c d) :
    Refreshed around setup.options filePath (setup.adjusted c) (setup.adjusted d) where
  maxSize := by
    rw [Setup.adjusted, Setup.adjusted, h.maxSize]
    split
    · rfl
    · exact h.maxSize
  recorded := h.recorded.adjusted
  refreshed := h.refreshed.adjusted

theorem kind_of_finishedBlock {options : Settings.Options} {key : StyleKey}
    {filePath : Option String} {block : CompiledBlock}
    (hblock : finishedBlock around options key filePath = .ok block) :
    block.kind = .style := by
  obtain ⟨source, _, rfl⟩ := Result.exists_of_map_eq_ok hblock
  rfl

section Finish

variable {options : Settings.Options} {filePath : Option String} {s t : BuildState}

theorem tracker_warnings_final_finishStyle (around : Surroundings)
    (options : Settings.Options) (filePath : Option String) (key : StyleKey) (s : BuildState) :
    ((finishStyle around options key filePath).final s).tracker = s.tracker ∧
      ((finishStyle around options key filePath).final s).warnings = s.warnings := by
  cases hlookup : s.cache.peek? key with
  | some block =>
      obtain ⟨console, hfinal⟩ := final_finishStyle_of_found around options filePath hlookup
      rw [hfinal]
      exact ⟨rfl, rfl⟩
  | none =>
      obtain ⟨_, notes, hfinal⟩ := finishStyle_of_missing around options filePath hlookup
      rw [hfinal]
      exact ⟨rfl, rfl⟩

/-- Two lookups of one style keep the second cache refreshed. -/
theorem Refreshed.finishStyle (h : Refreshed around options filePath s.cache t.cache)
    (key : StyleKey) :
    Refreshed around options filePath
      ((ComponentCompiler.finishStyle around options key filePath).final s).cache
      ((ComponentCompiler.finishStyle around options key filePath).final t).cache where
  maxSize := by simpa using h.maxSize
  recorded := h.recorded.finishStyle (fun _ _ => kind_of_finishedBlock) key
  refreshed := h.refreshed.finishStyle (fun _ _ hblock => hblock) key

/-- A bounded cache that may hold no entries fails the lookup in any case. -/
theorem outcome_finishStyle_of_bounded {key : StyleKey} (hbounded : s.cache.IsBounded)
    (hcurrent : IsCurrent around options filePath s.cache) :
    (finishStyle around options key filePath).outcome s =
      (finishedBlock around options key filePath).bind fun block =>
        if s.cache.isOverdrawn then .error .cacheOverdrawn else .ok block := by
  cases hoverdrawn : s.cache.isOverdrawn with
  | true =>
      have hempty := StyleCache.entries_eq_nil_of_isOverdrawn hbounded hoverdrawn
      have hmissing := StyleCache.peek?_of_entries_eq_nil hempty key
      rw [(finishStyle_of_missing around options filePath hmissing).1, hoverdrawn]
  | false =>
      rw [outcome_finishStyle_of_isCurrent hcurrent hoverdrawn]
      cases finishedBlock around options key filePath <;> rfl

/-- What two lookups of one style give: the same, unless the first one finds it. -/
theorem finishStyle_cases (h : Refreshed around options filePath s.cache t.cache)
    (key : StyleKey) :
    (s.cache.peek? key = none ∧
        (finishStyle around options key filePath).outcome s =
          (finishStyle around options key filePath).outcome t) ∨
      ∃ block, s.cache.peek? key = some block ∧ block.kind = .style ∧
        (finishStyle around options key filePath).outcome s = .ok block ∧
        (finishStyle around options key filePath).outcome t =
          finishedBlock around options key filePath := by
  have hsame : s.cache.isOverdrawn = t.cache.isOverdrawn := by
    rw [StyleCache.isOverdrawn, StyleCache.isOverdrawn, h.maxSize]
  cases hlookup : s.cache.peek? key with
  | none =>
      refine Or.inl ⟨rfl, ?_⟩
      rw [(finishStyle_of_missing around options filePath hlookup).1, hsame,
        outcome_finishStyle_of_bounded h.refreshed.bounded h.refreshed.known]
  | some block =>
      have hentry := StyleCache.mem_entries_of_peek? hlookup
      refine Or.inr ⟨block, rfl, h.recorded.known key block hentry, ?_, ?_⟩
      · exact outcome_finishStyle_of_found around options filePath hlookup
      · apply outcome_finishStyle_of_isCurrent h.refreshed.known
        rw [← hsame]
        by_contra hoverdrawn
        have hempty := StyleCache.entries_eq_nil_of_isOverdrawn h.recorded.bounded
          (by simpa using hoverdrawn)
        simp [hempty] at hentry

end Finish

/-! ## Two compiles of a block -/

/-- States of two compiles that differ in their caches, of which the second one holds
only blocks that are current. -/
abbrev AlikeRefreshed (around : Surroundings) (options : Settings.Options)
    (filePath : Option String) : BuildState → BuildState → Prop :=
  Alike (Refreshed around options filePath)

section Part

variable {filePath : Option String} {s t : BuildState}

theorem Setup.alike_adjustCache (h : AlikeRefreshed around setup.options filePath s t) :
    AlikeRefreshed around setup.options filePath (setup.adjustCache.final s)
      (setup.adjustCache.final t) := by
  rw [(adjustCache_eq s).2, (adjustCache_eq t).2]
  exact ⟨h.tracker, h.warnings, h.cache.adjusted⟩

theorem Setup.alike_finishStyle (h : AlikeRefreshed around setup.options filePath s t)
    (key : StyleKey) :
    AlikeRefreshed around setup.options filePath
      ((setup.finishStyle around key filePath).final s)
      ((setup.finishStyle around key filePath).final t) := by
  rw [final_finishStyle, final_finishStyle]
  have hs := tracker_warnings_final_finishStyle around setup.options filePath key
    { s with cache := setup.adjusted s.cache }
  have ht := tracker_warnings_final_finishStyle around setup.options filePath key
    { t with cache := setup.adjusted t.cache }
  constructor
  · rw [hs.1, ht.1]
    exact h.tracker
  · rw [hs.2, ht.2]
    exact h.warnings
  · exact Refreshed.finishStyle h.cache.adjusted key

theorem Setup.finishStyle_cases (h : AlikeRefreshed around setup.options filePath s t)
    (key : StyleKey) :
    (setup.styleHit? key s = none ∧
        (setup.finishStyle around key filePath).outcome s =
          (setup.finishStyle around key filePath).outcome t) ∨
      ∃ block, setup.styleHit? key s = some ⟨key, block⟩ ∧ block.kind = .style ∧
        (setup.finishStyle around key filePath).outcome s = .ok block ∧
        (setup.finishStyle around key filePath).outcome t =
          finishedBlock around setup.options key filePath := by
  rw [outcome_finishStyle, outcome_finishStyle, styleHit?]
  rcases ComponentCompiler.finishStyle_cases
      (s := { s with cache := setup.adjusted s.cache })
      (t := { t with cache := setup.adjusted t.cache }) h.cache.adjusted key with
    ⟨hlookup, hsame⟩ | ⟨block, hlookup, hstyle, hfound, hanew⟩
  · exact Or.inl ⟨congrArg (Option.map _) hlookup, hsame⟩
  · exact Or.inr ⟨block, congrArg (Option.map _) hlookup, hstyle, hfound, hanew⟩

/-- What two compiles of a style block give: the same, unless the first one finds the
finished style. -/
theorem Setup.compileStyle_cases (h : AlikeRefreshed around setup.options filePath s t)
    (scopeId? : Option String) {block : Block} (hstyle : block.kind = .style) :
    AlikeRefreshed around setup.options filePath
        ((setup.compileStyle around filePath scopeId? block).final s)
        ((setup.compileStyle around filePath scopeId? block).final t) ∧
      ((setup.partHit? around filePath scopeId? block s = none ∧
          (setup.compileStyle around filePath scopeId? block).outcome s =
            (setup.compileStyle around filePath scopeId? block).outcome t) ∨
        ∃ hit, setup.partHit? around filePath scopeId? block s = some hit ∧
          hit.block.kind = .style ∧
          (setup.compileStyle around filePath scopeId? block).outcome s = .ok hit.block ∧
          (setup.compileStyle around filePath scopeId? block).outcome t =
            finishedBlock around setup.options hit.key filePath) := by
  obtain ⟨houtcome, hfinal⟩ :=
    agree_compileBlock setup.registry .style block.source block.lang filePath s t h
  unfold compileStyle partHit?
  rw [hstyle]
  dsimp only
  cases hs : (Build.compileBlock around setup.registry .style block.source block.lang
      filePath).outcome s with
  | error e =>
      have ht := houtcome.symm.trans hs
      rw [outcome_bind_of_error hs, outcome_bind_of_error ht, final_bind_of_error hs,
        final_bind_of_error ht]
      exact ⟨hfinal, Or.inl ⟨rfl, rfl⟩⟩
  | ok compiled =>
      have ht := houtcome.symm.trans hs
      rw [outcome_bind_of_ok hs, outcome_bind_of_ok ht, final_bind_of_ok hs,
        final_bind_of_ok ht]
      cases scopeId? with
      | none =>
          dsimp only
          have hadjusted := alike_adjustCache hfinal
          rw [outcome_bind_of_ok (adjustCache_eq _).1, outcome_bind_of_ok (adjustCache_eq _).1,
            final_bind_of_ok (adjustCache_eq _).1, final_bind_of_ok (adjustCache_eq _).1]
          exact ⟨hadjusted, Or.inl ⟨rfl, rfl⟩⟩
      | some scopeId =>
          refine ⟨alike_finishStyle hfinal _, ?_⟩
          rcases Setup.finishStyle_cases hfinal ⟨scopeId, compiled.source, block.isScoped⟩ with
            hmissing | ⟨found, hhit, hkind, hfound, hanew⟩
          · exact Or.inl hmissing
          · exact Or.inr ⟨_, hhit, hkind, hfound, hanew⟩

/-- What two compiles of a block give: the same, unless the block is a style and the
first one finds it finished. -/
theorem Setup.compilePart_cases {request : CompileRequest}
    (h : AlikeRefreshed around setup.options request.filePath s t) (doc : Document)
    (scopeId? : Option String) (block : Block) :
    AlikeRefreshed around setup.options request.filePath
        ((setup.compilePart around request doc scopeId? block).final s)
        ((setup.compilePart around request doc scopeId? block).final t) ∧
      ((setup.partHit? around request.filePath scopeId? block s = none ∧
          (setup.compilePart around request doc scopeId? block).outcome s =
            (setup.compilePart around request doc scopeId? block).outcome t) ∨
        ∃ hit, setup.partHit? around request.filePath scopeId? block s = some hit ∧
          hit.block.kind = .style ∧
          (setup.compilePart around request doc scopeId? block).outcome s =
            .ok (.block hit.block) ∧
          (setup.compilePart around request doc scopeId? block).outcome t =
            (finishedBlock around setup.options hit.key request.filePath).map .block) := by
  rw [compilePart]
  cases hkind : block.kind with
  | template =>
      obtain ⟨houtcome, hfinal⟩ := agree_compileTemplate setup request doc scopeId? block s t h
      refine ⟨hfinal, Or.inl ⟨?_, houtcome⟩⟩
      simp [partHit?, hkind]
  | script =>
      obtain ⟨houtcome, hfinal⟩ := agree_compileBlock setup.registry .script block.source
        block.lang request.filePath s t h
      dsimp only
      rw [outcome_bind_pure, outcome_bind_pure, final_bind_pure, final_bind_pure, houtcome]
      refine ⟨hfinal, Or.inl ⟨?_, rfl⟩⟩
      simp [partHit?, hkind]
  | style =>
      dsimp only
      rw [outcome_bind_pure, outcome_bind_pure, final_bind_pure, final_bind_pure]
      obtain ⟨hfinal, ⟨hnone, hsame⟩ | ⟨hit, hhit, hstyle, hfound, hanew⟩⟩ :=
        compileStyle_cases h scopeId? hkind
      · exact ⟨hfinal, Or.inl ⟨hnone, congrArg _ hsame⟩⟩
      · exact ⟨hfinal, Or.inr ⟨hit, hhit, hstyle, congrArg _ hfound, congrArg _ hanew⟩⟩

end Part

/-! ## Two compiles of all blocks -/

section Parts

variable {request : CompileRequest} {doc : Document} {scopeId? : Option String}
variable {blocks : List Block} {s t : BuildState}

theorem Setup.partHits_cons_of_ok {block : Block} {part : Module.Part}
    (hpart : (setup.compilePart around request doc scopeId? block).outcome s = .ok part) :
    setup.partHits around request doc scopeId? (block :: blocks) s =
      (setup.partHit? around request.filePath scopeId? block s).toList ++
        setup.partHits around request doc scopeId? blocks
          ((setup.compilePart around request doc scopeId? block).final s) := by
  rw [partHits, hpart]

/-- If all that is found is current, the two compiles take the same course. -/
theorem Setup.compileParts_eq_of_isCurrent
    (h : AlikeRefreshed around setup.options request.filePath s t)
    (hcurrent : ∀ hit ∈ setup.partHits around request doc scopeId? blocks s,
      hit.IsCurrent around setup.options request.filePath) :
    (blocks.mapM (setup.compilePart around request doc scopeId?)).outcome s =
        (blocks.mapM (setup.compilePart around request doc scopeId?)).outcome t ∧
      AlikeRefreshed around setup.options request.filePath
        ((blocks.mapM (setup.compilePart around request doc scopeId?)).final s)
        ((blocks.mapM (setup.compilePart around request doc scopeId?)).final t) := by
  induction blocks generalizing s t with
  | nil => exact ⟨rfl, h⟩
  | cons block rest ih =>
      obtain ⟨hfinal, hcases⟩ := compilePart_cases h doc scopeId? block
      have hsame : (setup.compilePart around request doc scopeId? block).outcome s =
          (setup.compilePart around request doc scopeId? block).outcome t := by
        rcases hcases with ⟨_, hsame⟩ | ⟨hit, hhit, _, hfound, hanew⟩
        · exact hsame
        · have hthis : hit.IsCurrent around setup.options request.filePath := by
            apply hcurrent hit
            rw [partHits_cons_of_ok hfound, hhit]
            exact List.mem_append_left _ (by simp)
          rw [hfound, hanew, hthis]
          rfl
      cases hs : (setup.compilePart around request doc scopeId? block).outcome s with
      | error e =>
          have ht := hsame.symm.trans hs
          rw [outcome_mapM_cons, outcome_mapM_cons, hs, ht, final_mapM_cons_of_error hs,
            final_mapM_cons_of_error ht]
          exact ⟨rfl, hfinal⟩
      | ok part =>
          have ht := hsame.symm.trans hs
          rw [partHits_cons_of_ok hs] at hcurrent
          obtain ⟨hrest, hrestFinal⟩ :=
            ih hfinal fun hit hmem => hcurrent hit (List.mem_append_right _ hmem)
          rw [outcome_mapM_cons, outcome_mapM_cons, hs, ht, final_mapM_cons_of_ok hs,
            final_mapM_cons_of_ok ht, hrest]
          exact ⟨rfl, hrestFinal⟩

/-- If the second compile emits parts, so does the first one.  They differ in nothing
but styles, and in no style if and only if all that was found is current. -/
theorem Setup.compileParts_of_refreshed
    (h : AlikeRefreshed around setup.options request.filePath s t) {anew : List Module.Part}
    (hanew : (blocks.mapM (setup.compilePart around request doc scopeId?)).outcome t = .ok anew) :
    ∃ parts, (blocks.mapM (setup.compilePart around request doc scopeId?)).outcome s = .ok parts ∧
      List.Forall₂ Module.Part.SameUnlessStyle parts anew ∧
      (parts = anew → ∀ hit ∈ setup.partHits around request doc scopeId? blocks s,
        hit.IsCurrent around setup.options request.filePath) := by
  induction blocks generalizing s t anew with
  | nil =>
      obtain rfl := Except.ok.inj hanew
      exact ⟨[], rfl, .nil, fun _ hit hmem => absurd hmem List.not_mem_nil⟩
  | cons block rest ih =>
      obtain ⟨hfinal, hcases⟩ := compilePart_cases h doc scopeId? block
      rw [outcome_mapM_cons] at hanew ⊢
      obtain ⟨newPart, ht, hmore⟩ := Result.exists_of_bind_eq_ok hanew
      obtain ⟨newRest, hnewRest, rfl⟩ := Result.exists_of_map_eq_ok hmore
      obtain ⟨restParts, hrest, halike, hequal⟩ := ih hfinal hnewRest
      rcases hcases with ⟨hnone, hsame⟩ | ⟨hit, hhit, hkind, hfound, hthis⟩
      · have hs := hsame.trans ht
        rw [hs, partHits_cons_of_ok hs, hnone, hrest]
        refine ⟨newPart :: restParts, rfl, .cons (.same newPart) halike, ?_⟩
        intro heq
        exact hequal (List.cons.inj heq).2
      · rw [ht] at hthis
        obtain ⟨block, hblock, rfl⟩ := Result.exists_of_map_eq_ok hthis.symm
        rw [hfound, partHits_cons_of_ok hfound, hhit, hrest]
        refine ⟨.block hit.block :: restParts, rfl, .cons ?_ halike, ?_⟩
        · exact .styles_of_kind hkind (kind_of_finishedBlock hblock)
        · intro heq other hmem
          obtain ⟨hhead, htail⟩ := List.cons.inj heq
          rcases List.mem_append.mp hmem with hfirst | hlater
          · obtain rfl : other = hit := by simpa using hfirst
            rw [StyleHit.IsCurrent, hblock, Module.Part.block.inj hhead]
          · exact hequal htail other hlater

end Parts

/-! ## Two compiles of a document -/

namespace Setup

/-- What a compile does before it reads the document. -/
def announce (around : Surroundings) (request : CompileRequest) : Build Unit := do
  modify fun s => { s with warnings := [] }
  let shown := request.scopeId?.getD "[]"
  Build.debug around s!"Compiling {pathOrInput request.filePath} (scope {shown})"

/-- The parts of the module that a compile emits. -/
def moduleParts (setup : Setup) (around : Surroundings) (request : CompileRequest) :
    Build (List Module.Part) := do
  announce around request
  match Document.parse request.content with
  | .error reason => throw (.rejectedMarkup reason)
  | .ok doc => do
      let blocks ← doc.blocks around request.content request.filePath request.strict
      blocks.mapM (setup.compilePart around request doc request.scopeId?)

/-- The result that a compile gives for the parts of the module. -/
def resultOf (request : CompileRequest) (parts : List Module.Part) : Build CompileResult := do
  let s ← get
  match request.scopeId? with
  | some scopeId =>
      return { code := Module.assemble parts, scopeId
               dependencies := s.tracker.paths, warnings := s.warnings }
  | none => throw .unnamedResult

theorem compile_eq (setup : Setup) (around : Surroundings) (request : CompileRequest) :
    setup.compile around request =
      setup.moduleParts around request >>= resultOf request := by
  unfold compile moduleParts announce resultOf
  simp only [bind_assoc]
  refine bind_congr fun _ => bind_congr fun _ => ?_
  cases Document.parse request.content with
  | error reason => rfl
  | ok doc => exact (bind_assoc _ _ _).symm

/-- The code of the module that a compile emits, if it emits one. -/
def code? (setup : Setup) (around : Surroundings) (request : CompileRequest)
    (s : BuildState) : Option String :=
  match (setup.compile around request).outcome s with
  | .ok result => some result.code
  | .error _ => none

/-- The styles that a compile finds in the cache, in the order of the document. -/
def styleHits (setup : Setup) (around : Surroundings) (request : CompileRequest)
    (s : BuildState) : List StyleHit :=
  match Document.parse request.content with
  | .error _ => []
  | .ok doc =>
      let start := (announce around request).final s
      let extracting := doc.blocks around request.content request.filePath request.strict
      match extracting.outcome start with
      | .ok blocks =>
          setup.partHits around request doc request.scopeId? blocks (extracting.final start)
      | .error _ => []

section

variable {request : CompileRequest} {s t : BuildState}

theorem code?_eq_some_iff {code : String} :
    setup.code? around request s = some code ↔
      (∃ scopeId, request.scopeId? = some scopeId) ∧
        ∃ parts, (setup.moduleParts around request).outcome s = .ok parts ∧
          Module.assemble parts = code := by
  rw [code?, compile_eq]
  cases hparts : (setup.moduleParts around request).outcome s with
  | error e =>
      rw [outcome_bind_of_error hparts]
      simp
  | ok parts =>
      rw [outcome_bind_of_ok hparts, resultOf, outcome_bind_of_ok (outcome_get _)]
      cases request.scopeId? <;> simp

/-- Two compiles of a document come to the same blocks, if they come that far. -/
theorem moduleParts_cases (h : AlikeRefreshed around setup.options request.filePath s t) :
    ((setup.moduleParts around request).outcome s =
          (setup.moduleParts around request).outcome t ∧
        setup.styleHits around request s = []) ∨
      ∃ doc blocks s' t', AlikeRefreshed around setup.options request.filePath s' t' ∧
        (setup.moduleParts around request).outcome s =
          (blocks.mapM (setup.compilePart around request doc request.scopeId?)).outcome s' ∧
        (setup.moduleParts around request).outcome t =
          (blocks.mapM (setup.compilePart around request doc request.scopeId?)).outcome t' ∧
        setup.styleHits around request s =
          setup.partHits around request doc request.scopeId? blocks s' := by
  have hannounce : Agree (AlikeRefreshed around setup.options request.filePath)
      (announce around request) (announce around request) := by
    rw [announce]
    refine Agree.bind (fun _ _ h => ⟨rfl, h.tracker, rfl, h.cache⟩) fun _ => ?_
    exact agree_debug _ _
  obtain ⟨hsame, hstart⟩ := hannounce s t h
  have hs : (announce around request).outcome s = .ok () := by
    rw [announce, outcome_bind_of_ok (outcome_modify _ _)]
    exact outcome_debug _ _ _
  have ht := hsame.symm.trans hs
  rw [moduleParts, styleHits, outcome_bind_of_ok hs, outcome_bind_of_ok ht]
  cases Document.parse request.content with
  | error reason => exact Or.inl ⟨rfl, rfl⟩
  | ok doc =>
      dsimp only
      obtain ⟨hblocks, hfinal⟩ :=
        Document.agree_blocks doc request.content request.filePath request.strict _ _ hstart
      cases hs' : (doc.blocks around request.content request.filePath request.strict).outcome
          ((announce around request).final s) with
      | error e =>
          rw [outcome_bind_of_error hs', outcome_bind_of_error (hblocks.symm.trans hs')]
          exact Or.inl ⟨rfl, rfl⟩
      | ok blocks =>
          rw [outcome_bind_of_ok hs', outcome_bind_of_ok (hblocks.symm.trans hs')]
          exact Or.inr ⟨doc, blocks, _, _, hfinal, rfl, rfl, rfl⟩

theorem outcome_moduleParts_of_isCurrent
    (h : AlikeRefreshed around setup.options request.filePath s t)
    (hcurrent : ∀ hit ∈ setup.styleHits around request s,
      hit.IsCurrent around setup.options request.filePath) :
    (setup.moduleParts around request).outcome s =
      (setup.moduleParts around request).outcome t := by
  rcases moduleParts_cases h with ⟨hsame, _⟩ | ⟨doc, blocks, s', t', halike, hs, ht, hhits⟩
  · exact hsame
  · rw [hs, ht]
    rw [hhits] at hcurrent
    exact (compileParts_eq_of_isCurrent halike hcurrent).1

theorem moduleParts_of_refreshed
    (h : AlikeRefreshed around setup.options request.filePath s t) {anew : List Module.Part}
    (hanew : (setup.moduleParts around request).outcome t = .ok anew) :
    ∃ parts, (setup.moduleParts around request).outcome s = .ok parts ∧
      List.Forall₂ Module.Part.SameUnlessStyle parts anew ∧
      (parts = anew → ∀ hit ∈ setup.styleHits around request s,
        hit.IsCurrent around setup.options request.filePath) := by
  rcases moduleParts_cases h with ⟨hsame, hhits⟩ | ⟨doc, blocks, s', t', halike, hs, ht, hhits⟩
  · refine ⟨anew, hsame.trans hanew, ?_, fun _ hit hmem => ?_⟩
    · exact List.forall₂_same.mpr fun part _ => .same part
    · rw [hhits] at hmem
      exact absurd hmem List.not_mem_nil
  · rw [ht] at hanew
    rw [hs, hhits]
    exact compileParts_of_refreshed halike hanew

/-- A compile emits what it would emit with a refreshed cache if and only if it emits
nothing or all the styles that it finds are current. -/
theorem code?_eq_iff (h : AlikeRefreshed around setup.options request.filePath s t) :
    setup.code? around request s = setup.code? around request t ↔
      setup.code? around request s = none ∨
        ∀ hit ∈ setup.styleHits around request s,
          hit.IsCurrent around setup.options request.filePath := by
  constructor
  · intro hsame
    cases hs : setup.code? around request s with
    | none => exact Or.inl rfl
    | some code =>
        obtain ⟨_, parts, hparts, hcode⟩ := code?_eq_some_iff.mp hs
        obtain ⟨_, anew, hanew, hcode'⟩ := code?_eq_some_iff.mp (hsame.symm.trans hs)
        obtain ⟨found, hfound, halike, hcurrent⟩ := moduleParts_of_refreshed h hanew
        obtain rfl := Except.ok.inj (hparts.symm.trans hfound)
        exact Or.inr (hcurrent (Module.eq_of_assemble_eq halike (hcode.trans hcode'.symm)))
  · rintro (hnone | hcurrent)
    · rw [hnone, eq_comm, Option.eq_none_iff_forall_ne_some]
      intro code ht
      obtain ⟨hscope, anew, hanew, _⟩ := code?_eq_some_iff.mp ht
      obtain ⟨parts, hparts, _⟩ := moduleParts_of_refreshed h hanew
      have hs := code?_eq_some_iff.mpr ⟨hscope, parts, hparts, rfl⟩
      rw [hnone] at hs
      exact absurd hs (by simp)
    · have hsame := outcome_moduleParts_of_isCurrent h hcurrent
      refine Option.ext fun code => ?_
      rw [code?_eq_some_iff, code?_eq_some_iff, hsame]

end

end Setup

end ComponentCompiler
