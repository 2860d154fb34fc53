import ComponentCompiler.Proofs.Component.StyleHits
import ComponentCompiler.Settings.Configure

/-!
# Compiles that share a cache

Compiles may share their options, their registry and their cache of styles with
each other and with the configurations applied in between.  The cache knows
nothing of the options, so a style that was finished before a change of them is
still found after it.  A compile emits what it would emit with an empty cache
exactly as long as it finds no such style.
-/

namespace ComponentCompiler

open Build

/-! ## What a compile records -/

/-- Whatever the step does to the cache keeps the property. -/
def Preserves (P : FinishedStyles → Prop) {α : Type} (build : Build α) : Prop :=
  ∀ s, P s.cache → P (build.final s).cache

namespace Preserves

variable {P : FinishedStyles → Prop} {α β : Type}

theorem bind {first : Build α} {next : α → Build β} (hfirst : Preserves P first)
    (hnext : ∀ a, Preserves P (next a)) : Preserves P (first >>= next) := by
  intro s hs
  cases houtcome : first.outcome s with
  | ok a =>
      rw [final_bind_of_ok houtcome]
      exact hnext a _ (hfirst s hs)
  | error e =>
      rw [final_bind_of_error houtcome]
      exact hfirst s hs

theorem mapM {γ : Type} {f : γ → Build α} (items : List γ) (hstep : ∀ c, Preserves P (f c)) :
    Preserves P (items.mapM f) := by
  induction items with
  | nil => exact fun _ hs => hs
  | cons c rest ih =>
      rw [List.mapM_cons]
      exact (hstep c).bind fun _ => ih.bind fun _ _ hs => hs

/-- A step that does not see the cache keeps all its properties. -/
theorem of_agree {build : Build α}
    (hagree : Agree (Alike fun cache _ => P cache) build build) : Preserves P build := by
  intro s hs
  exact (hagree s s ⟨rfl, rfl, hs⟩).2.cache

end Preserves

section Compile

variable {around : Surroundings} {setup : Setup} {Known : StyleKey → CompiledBlock → Prop}

variable {filePath : Option String}

theorem Setup.preserves_finishStyle
    (hknown : ∀ key block, finishedBlock around setup.options key filePath = .ok block →
      Known key block) (key : StyleKey) :
    Preserves (Recorded Known) (setup.finishStyle around key filePath) := by
  intro s hs
  rw [final_finishStyle]
  exact Recorded.finishStyle hs.adjusted hknown key

theorem Setup.preserves_compileStyle
    (hknown : ∀ key block, finishedBlock around setup.options key filePath = .ok block →
      Known key block) (scopeId? : Option String) (block : Block) :
    Preserves (Recorded Known) (setup.compileStyle around filePath scopeId? block) := by
  rw [compileStyle]
  refine (Preserves.of_agree (agree_compileBlock _ _ _ _ _)).bind fun compiled => ?_
  split
  · exact preserves_finishStyle hknown _
  · refine Preserves.bind ?_ fun _ _ hs => hs
    intro s hs
    rw [(adjustCache_eq s).2]
    exact hs.adjusted

theorem Setup.preserves_compilePart {request : CompileRequest}
    (hknown : ∀ key block,
      finishedBlock around setup.options key request.filePath = .ok block → Known key block)
    (doc : Document) (scopeId? : Option String) (block : Block) :
    Preserves (Recorded Known) (setup.compilePart around request doc scopeId? block) := by
  rw [compilePart]
  split
  · exact Preserves.of_agree (agree_compileTemplate _ _ _ _ _)
  · exact (preserves_compileStyle hknown scopeId? block).bind fun _ _ hs => hs
  · exact (Preserves.of_agree (agree_compileBlock _ _ _ _ _)).bind fun _ _ hs => hs

theorem Setup.preserves_announce (P : FinishedStyles → Prop) (request : CompileRequest) :
    Preserves P (announce around request) := by
  rw [announce]
  refine Preserves.bind (fun _ hs => hs) fun _ => ?_
  exact Preserves.of_agree (agree_debug _ _)

/-- A compile records nothing but what styles are finished to. -/
theorem Setup.preserves_compile (around : Surroundings) (setup : Setup)
    {request : CompileRequest}
    (hknown : ∀ key block,
      finishedBlock around setup.options key request.filePath = .ok block → Known key block) :
    Preserves (Recorded Known) (setup.compile around request) := by
  rw [compile_eq, moduleParts]
  refine Preserves.bind ?_ fun parts => ?_
  · refine (preserves_announce _ request).bind fun _ => ?_
    split
    · exact fun _ hs => hs
    · refine (Preserves.of_agree (Document.agree_blocks _ _ _ _)).bind fun blocks => ?_
      exact Preserves.mapM blocks (preserves_compilePart hknown _ _)
  · rw [resultOf]
    refine Preserves.bind (fun _ hs => hs) fun s => ?_
    split <;> exact fun _ hs => hs

/-! ## What a compile finds -/

theorem Setup.known_of_partHit? {scopeId? : Option String} {block : Block} {s : BuildState}
    (hs : Recorded Known s.cache) {hit : StyleHit}
    (hhit : setup.partHit? around filePath scopeId? block s = some hit) :
    Known hit.key hit.block := by
  unfold partHit? at hhit
  dsimp only at hhit
  split at hhit
  · rw [styleHit?] at hhit
    obtain ⟨found, hfound, rfl⟩ := Option.map_eq_some_iff.mp hhit
    have hafter : Recorded Known ((Build.compileBlock around setup.registry .style block.source
        block.lang filePath).final s).cache :=
      Preserves.of_agree (agree_compileBlock _ _ _ _ _) s hs
    exact hafter.adjusted.known _ _ (StyleCache.mem_entries_of_peek? hfound)
  · simp at hhit

theorem Setup.known_of_mem_partHits {request : CompileRequest}
    (hknown : ∀ key block,
      finishedBlock around setup.options key request.filePath = .ok block → Known key block)
    {doc : Document} {scopeId? : Option String} {blocks : List Block} {s : BuildState}
    (hs : Recorded Known s.cache) {hit : StyleHit}
    (hhit : hit ∈ setup.partHits around request doc scopeId? blocks s) :
    Known hit.key hit.block := by
  induction blocks generalizing s with
  | nil => exact absurd hhit List.not_mem_nil
  | cons block rest ih =>
      rcases List.mem_append.mp hhit with hfirst | hlater
      · exact known_of_partHit? hs (Option.mem_toList.mp hfirst)
      · have hafter := preserves_compilePart hknown doc scopeId? block s hs
        split at hlater
        · exact ih hafter hlater
        · exact absurd hlater List.not_mem_nil

/-- A compile finds nothing but what was known before or becomes known by it. -/
theorem Setup.known_of_mem_styleHits (around : Surroundings) (setup : Setup)
    {request : CompileRequest}
    (hknown : ∀ key block,
      finishedBlock around setup.options key request.filePath = .ok block → Known key block)
    {s : BuildState} (hs : Recorded Known s.cache) {hit : StyleHit}
    (hhit : hit ∈ setup.styleHits around request s) : Known hit.key hit.block := by
  rw [styleHits] at hhit
  split at hhit
  · exact absurd hhit List.not_mem_nil
  · dsimp only at hhit
    split at hhit
    · refine known_of_mem_partHits hknown ?_ hhit
      apply Preserves.of_agree (Document.agree_blocks _ _ _ _) _
      exact preserves_announce _ request s hs
    · exact absurd hhit List.not_mem_nil

end Compile

/-! ## Sessions -/

/-- What the calls of a session share. -/
structure Shared where
  options : Settings.Options := {}
  registry : Registry := {}
  cache : FinishedStyles := {}

/-- The shared values with an empty cache of the same size. -/
def Shared.withoutStyles (shared : Shared) : Shared := { shared with cache := shared.cache.clear }

/-- A compile within a session.  Only what all calls share is left out. -/
structure CompileCall where
  around : Surroundings
  request : CompileRequest
  tracker : Tracker := {}
  /-- Whether the cache takes the size that the options give. -/
  cacheFollowsOptions : Bool := false

namespace CompileCall

/-- What the compile is configured with. -/
def setup (call : CompileCall) (shared : Shared) : Setup where
  options := shared.options
  registry := shared.registry
  cacheFollowsOptions := call.cacheFollowsOptions

/-- The state in which the compile begins. -/
def start (call : CompileCall) (shared : Shared) : BuildState :=
  { tracker := call.tracker, cache := shared.cache }

/-- The code that the compile emits, if it emits any. -/
def code? (call : CompileCall) (shared : Shared) : Option String :=
  (call.setup shared).code? call.around call.request (call.start shared)

/-- The styles that the compile finds in the cache. -/
def styleHits (call : CompileCall) (shared : Shared) : List StyleHit :=
  (call.setup shared).styleHits call.around call.request (call.start shared)

/-- What a style is finished to if the compile does not find it. -/
def finishes (call : CompileCall) (shared : Shared) (hit : StyleHit) : Prop :=
  hit.IsCurrent call.around shared.options call.request.filePath

end CompileCall

/-- A call within a session. -/
inductive SharedCall
  | configure (verbose : Bool) (config : Value)
  | compile (call : CompileCall)

namespace SharedCall

/-- What a call leaves to the next one, whether or not it fails. -/
def perform (shared : Shared) : SharedCall → Shared
  | configure verbose config =>
      let target : Settings.Target := { options := shared.options, registry := shared.registry }
      match Settings.Applying.config verbose config target with
      | .ok _ target | .error _ target =>
          { shared with options := target.options, registry := target.registry }
  | compile call =>
      let compiling := (call.setup shared).compile call.around call.request
      { shared with cache := (compiling.final (call.start shared)).cache }

theorem cache_perform_configure (shared : Shared) (verbose : Bool) (config : Value) :
    (perform shared (configure verbose config)).cache = shared.cache := by
  dsimp only [perform]
  split <;> rfl

/-- What calls one after the other leave. -/
def runAll (calls : List SharedCall) (shared : Shared) : Shared := calls.foldl perform shared

/-- The compiles among calls, each with what it shared with the others then. -/
def compiles : List SharedCall → Shared → List (Shared × CompileCall)
  | [], _ => []
  | configure verbose config :: rest, shared =>
      compiles rest ((configure verbose config).perform shared)
  | compile call :: rest, shared =>
      (shared, call) :: compiles rest ((compile call).perform shared)

end SharedCall

/-- One of the compiles finishes the style to this block. -/
def FinishedBy (compiles : List (Shared × CompileCall)) (key : StyleKey)
    (block : CompiledBlock) : Prop :=
  ∃ earlier ∈ compiles, earlier.2.finishes earlier.1 ⟨key, block⟩

theorem Recorded.finishedBy_append {past : List (Shared × CompileCall)}
    {cache : FinishedStyles} (h : Recorded (FinishedBy past) cache)
    (more : List (Shared × CompileCall)) : Recorded (FinishedBy (past ++ more)) cache where
  bounded := h.bounded
  known key block hentry := by
    obtain ⟨earlier, hmem, hfinishes⟩ := h.known key block hentry
    exact ⟨earlier, List.mem_append_left more hmem, hfinishes⟩

theorem finishedBy_last (past : List (Shared × CompileCall)) (shared : Shared)
    (call : CompileCall) (key : StyleKey) (block : CompiledBlock)
    (hblock : finishedBlock call.around shared.options key call.request.filePath = .ok block) :
    FinishedBy (past ++ [(shared, call)]) key block :=
  ⟨(shared, call), by simp, hblock⟩

namespace SharedCall

/-- What is recorded after a call was finished by a compile before or by this one. -/
theorem recorded_runAll {past : List (Shared × CompileCall)} {shared : Shared}
    (h : Recorded (FinishedBy past) shared.cache) (calls : List SharedCall) :
    Recorded (FinishedBy (past ++ compiles calls shared)) (runAll calls shared).cache := by
  induction calls generalizing past shared with
  | nil => simpa [compiles, runAll] using h
  | cons call rest ih =>
      cases call with
      | configure verbose config =>
          apply ih
          rw [cache_perform_configure]
          exact h
      | compile call =>
          have hstep : Recorded (FinishedBy (past ++ [(shared, call)]))
              (perform shared (compile call)).cache :=
            Setup.preserves_compile call.around (call.setup shared)
              (finishedBy_last past shared call) _ (h.finishedBy_append _)
          have hrest := ih hstep
          rwa [List.append_assoc] at hrest

end SharedCall

theorem CompileCall.alike_withoutStyles {past : List (Shared × CompileCall)} {shared : Shared}
    (h : Recorded (FinishedBy past) shared.cache) (call : CompileCall) :
    AlikeRefreshed call.around shared.options call.request.filePath (call.start shared)
      (call.start shared.withoutStyles) where
  tracker := rfl
  warnings := rfl
  cache :=
    { maxSize := rfl
      refreshed := .of_entries_eq_nil rfl
      recorded :=
        { bounded := h.bounded
          known := by
            intro key block hentry
            obtain ⟨earlier, _, hfinishes⟩ := h.known key block hentry
            exact kind_of_finishedBlock hfinishes } }

theorem CompileCall.code?_eq_iff {past : List (Shared × CompileCall)} {shared : Shared}
    (h : Recorded (FinishedBy past) shared.cache) (call : CompileCall) :
    call.code? shared = call.code? shared.withoutStyles ↔
      call.code? shared = none ∨ ∀ hit ∈ call.styleHits shared, call.finishes shared hit :=
  Setup.code?_eq_iff (alike_withoutStyles h call)

theorem CompileCall.finishedBy_of_mem_styleHits {past : List (Shared × CompileCall)}
    {shared : Shared} (h : Recorded (FinishedBy past) shared.cache) (call : CompileCall)
    {hit : StyleHit} (hhit : hit ∈ call.styleHits shared) :
    FinishedBy (past ++ [(shared, call)]) hit.key hit.block := by
  have hall : Recorded (FinishedBy (past ++ [(shared, call)])) (call.start shared).cache :=
    h.finishedBy_append _
  exact Setup.known_of_mem_styleHits call.around (call.setup shared)
    (finishedBy_last _ shared call) hall hhit

/-- After any calls from an empty cache, a compile emits what it would emit with an
empty cache if and only if it emits nothing or finds only styles that it would finish
alike now.  Those that it finds were finished by itself or by a compile before it,
with the options of that time. -/
theorem code?_eq_withoutStyles_iff (options : Settings.Options) (registry : Registry)
    (size : Int) (calls : List SharedCall) (call : CompileCall) :
    let start : Shared := { options, registry, cache := { maxSize := size } }
    let shared := SharedCall.runAll calls start
    (call.code? shared = call.code? shared.withoutStyles ↔
        call.code? shared = none ∨ ∀ hit ∈ call.styleHits shared, call.finishes shared hit) ∧
      ∀ hit ∈ call.styleHits shared,
        ∃ earlier ∈ SharedCall.compiles calls start ++ [(shared, call)],
          earlier.2.finishes earlier.1 hit := by
  intro start shared
  have hstart : Recorded (FinishedBy []) start.cache := .of_entries_eq_nil rfl
  have hshared := SharedCall.recorded_runAll hstart calls
  rw [List.nil_append] at hshared
  constructor
  · exact CompileCall.code?_eq_iff hshared call
  · intro hit hhit
    exact CompileCall.finishedBy_of_mem_styleHits hshared call hhit

/-- Prefixes are switched off between two compiles of one document, and the second one
still emits them. -/
theorem code?_ne_withoutStyles_after_configuration :
    let call : CompileCall :=
      { around := { disk := { workingDirectory := "/work" }, extensions := Extensions.none }
        request :=
          { content := "<style>.m\x7bmask:x\x7d</style>", scope := .named "v" } }
    let calls : List SharedCall :=
      [.compile call, .configure false (.record [("autoprefixer", .bool false)])]
    let shared := SharedCall.runAll calls {}
    call.code? shared ≠ call.code? shared.withoutStyles := by
  decide +kernel

end ComponentCompiler
