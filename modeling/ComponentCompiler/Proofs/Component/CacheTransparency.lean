import ComponentCompiler.Proofs.Component.FinishedStyle

/-!
# The cache of styles cannot be noticed

As long as the options stay the same, finishing a style gives what it would give
with an empty cache, after any calls that finished other styles, changed the
size of the cache or emptied it.  A call that fails leaves the entries as they
were.
-/

namespace ComponentCompiler

open Build

variable {around : Surroundings} {setup : Setup}

/-! ## The size that the options give -/

/-- The cache with the size that the options give, if it follows them. -/
def Setup.adjusted (setup : Setup) (cache : FinishedStyles) : FinishedStyles :=
  if setup.cacheFollowsOptions && cache.maxSize != setup.options.cacheSize then
    cache.resize setup.options.cacheSize
  else cache

theorem Build.resizeCache_of_nonneg {size : Int} (hsize : 0 ≤ size) (s : BuildState) :
    (resizeCache size).outcome s = .ok () ∧
      (resizeCache size).final s = { s with cache := s.cache.resize size } := by
  have hkept : (s.cache.resize size).isOverdrawn = false :=
    decide_eq_false (Int.not_lt.mpr hsize)
  rw [resizeCache]
  rw [outcome_bind_of_ok (outcome_modify _ s), final_bind_of_ok (outcome_modify _ s),
    outcome_bind_of_ok (outcome_get _), final_bind_of_ok (outcome_get _), final_get,
    final_modify]
  dsimp only
  rw [hkept]
  exact ⟨rfl, rfl⟩

theorem Setup.adjustCache_eq (s : BuildState) :
    setup.adjustCache.outcome s = .ok () ∧
      setup.adjustCache.final s = { s with cache := setup.adjusted s.cache } := by
  have hresize := Build.resizeCache_of_nonneg (Int.natCast_nonneg setup.options.cacheSize) s
  rw [adjustCache, adjusted]
  rw [outcome_bind_of_ok (outcome_get s), final_bind_of_ok (outcome_get s), final_get]
  split
  · exact hresize
  · exact ⟨rfl, rfl⟩

theorem Setup.outcome_finishStyle (key : StyleKey) (filePath : Option String)
    (s : BuildState) :
    (setup.finishStyle around key filePath).outcome s =
      (ComponentCompiler.finishStyle around setup.options key filePath).outcome
        { s with cache := setup.adjusted s.cache } := by
  rw [finishStyle, outcome_bind_of_ok (adjustCache_eq s).1, (adjustCache_eq s).2]

theorem Setup.final_finishStyle (key : StyleKey) (filePath : Option String)
    (s : BuildState) :
    (setup.finishStyle around key filePath).final s =
      (ComponentCompiler.finishStyle around setup.options key filePath).final
        { s with cache := setup.adjusted s.cache } := by
  rw [finishStyle, final_bind_of_ok (adjustCache_eq s).1, (adjustCache_eq s).2]

theorem Setup.mem_entries_of_mem_adjusted {cache : FinishedStyles}
    {entry : StyleKey × Option CompiledBlock}
    (hentry : entry ∈ (setup.adjusted cache).entries) : entry ∈ cache.entries := by
  rw [adjusted] at hentry
  split at hentry
  · exact StyleCache.mem_entries_of_mem_resize hentry
  · exact hentry

theorem Recorded.adjusted {Known : StyleKey → CompiledBlock → Prop} {cache : FinishedStyles}
    (h : Recorded Known cache) : Recorded Known (setup.adjusted cache) where
  bounded := by
    rw [Setup.adjusted]
    split
    · exact StyleCache.isBounded_resize _ _
    · exact h.bounded
  known key block hentry := h.known key block (Setup.mem_entries_of_mem_adjusted hentry)

theorem Setup.isCurrent_adjusted {filePath : Option String} {cache : FinishedStyles}
    (hcurrent : IsCurrent around setup.options filePath cache) :
    IsCurrent around setup.options filePath (setup.adjusted cache) := by
  intro key block hentry
  exact hcurrent key block (mem_entries_of_mem_adjusted hentry)

theorem Setup.maxSize_adjusted_nonneg {cache : FinishedStyles} (hsize : 0 ≤ cache.maxSize) :
    0 ≤ (setup.adjusted cache).maxSize := by
  rw [adjusted]
  split
  · exact Int.natCast_nonneg _
  · exact hsize

theorem Setup.maxSize_adjusted_of_follows (hfollows : setup.cacheFollowsOptions = true)
    (cache : FinishedStyles) : (setup.adjusted cache).maxSize = setup.options.cacheSize := by
  rw [adjusted]
  split
  · rfl
  · rename_i hsame
    simpa [hfollows] using hsame

/-- The options cannot drop an entry of a cache that is not larger than they allow. -/
theorem Setup.entries_adjusted {cache : FinishedStyles}
    (hfits : setup.cacheFollowsOptions = true → cache.size ≤ setup.options.cacheSize) :
    (setup.adjusted cache).entries = cache.entries := by
  rw [adjusted]
  split
  · rename_i hchange
    have hfollows : setup.cacheFollowsOptions = true := by
      simp only [Bool.and_eq_true] at hchange
      exact hchange.1
    exact StyleCache.entries_resize_of_le (by simpa using hfits hfollows)
  · rfl

/-! ## Runs -/

/-- A call that uses the cache of styles. -/
inductive CacheCall
  | finish (key : StyleKey) (filePath : Option String)
  | resize (maxSize : Nat)
  | clear

namespace CacheCall

/-- What a call does. -/
def perform (setup : Setup) (around : Surroundings) : CacheCall → Build Unit
  | finish key filePath => discard (setup.finishStyle around key filePath)
  | resize maxSize => Build.resizeCache maxSize
  | clear => modify fun s => { s with cache := s.cache.clear }

/-- The state after calls one after the other, failing ones included. -/
def runAll (setup : Setup) (around : Surroundings) (calls : List CacheCall)
    (s : BuildState) : BuildState :=
  calls.foldl (fun s call => (call.perform setup around).final s) s

end CacheCall

/-- The cache holds only what would be computed anew for any document, and if it
follows the options it holds no more than they allow. -/
structure Unnoticed (around : Surroundings) (setup : Setup) (cache : FinishedStyles) :
    Prop where
  current : ∀ filePath, IsCurrent around setup.options filePath cache
  nonneg : 0 ≤ cache.maxSize
  fits : setup.cacheFollowsOptions = true → cache.size ≤ setup.options.cacheSize

namespace Unnoticed

theorem of_entries_eq_nil {cache : FinishedStyles} (hempty : cache.entries = [])
    (hsize : 0 ≤ cache.maxSize) : Unnoticed around setup cache where
  current _ := isCurrent_of_entries_eq_nil hempty
  nonneg := hsize
  fits _ := by simp [StyleCache.size, hempty]

theorem finish (hignores : ∀ function ∈ setup.options.styleStages, IgnoresPath around function)
    {s : BuildState} (hs : Unnoticed around setup s.cache) (key : StyleKey)
    (filePath : Option String) :
    Unnoticed around setup ((setup.finishStyle around key filePath).final s).cache := by
  rw [Setup.final_finishStyle]
  constructor
  · intro other known block hentry
    have hthis := isCurrent_cache_final_finishStyle
      (s := { s with cache := setup.adjusted s.cache }) key
      (Setup.isCurrent_adjusted (hs.current filePath)) known block hentry
    exact finishedBlock_of_ignoresPath hignores hthis other
  · rw [maxSize_cache_final_finishStyle]
    exact Setup.maxSize_adjusted_nonneg hs.nonneg
  · intro hfollows
    have hsize := Setup.maxSize_adjusted_of_follows hfollows s.cache
    have hbounded : (setup.adjusted s.cache).IsBounded := by
      rw [StyleCache.IsBounded, hsize, StyleCache.size, Setup.entries_adjusted hs.fits]
      simpa [StyleCache.size] using hs.fits hfollows
    have hfinal := isBounded_cache_final_finishStyle around setup.options filePath
      (s := { s with cache := setup.adjusted s.cache }) key hbounded
    rw [StyleCache.IsBounded, maxSize_cache_final_finishStyle, hsize] at hfinal
    simpa using hfinal

/-- No call makes the cache noticeable. -/
theorem perform (hignores : ∀ function ∈ setup.options.styleStages, IgnoresPath around function)
    {s : BuildState} (hs : Unnoticed around setup s.cache) (call : CacheCall) :
    Unnoticed around setup ((call.perform setup around).final s).cache := by
  cases call with
  | finish key filePath =>
      rw [CacheCall.perform, Build.final_discard]
      exact hs.finish hignores key filePath
  | resize maxSize =>
      rw [CacheCall.perform, (Build.resizeCache_of_nonneg (Int.natCast_nonneg maxSize) s).2]
      constructor
      · intro filePath key block hentry
        exact hs.current filePath key block (StyleCache.mem_entries_of_mem_resize hentry)
      · exact Int.natCast_nonneg maxSize
      · intro hfollows
        exact Nat.le_trans (StyleCache.size_resize_le_size s.cache maxSize)
          (hs.fits hfollows)
  | clear => exact of_entries_eq_nil rfl hs.nonneg

theorem runAll (hignores : ∀ function ∈ setup.options.styleStages, IgnoresPath around function)
    {s : BuildState} (hs : Unnoticed around setup s.cache) (calls : List CacheCall) :
    Unnoticed around setup (CacheCall.runAll setup around calls s).cache := by
  induction calls generalizing s with
  | nil => exact hs
  | cons call rest ih => exact ih (hs.perform hignores call)

theorem outcome_eq {s : BuildState} (hs : Unnoticed around setup s.cache) (key : StyleKey)
    (filePath : Option String) :
    (setup.finishStyle around key filePath).outcome s =
      finishedBlock around setup.options key filePath := by
  rw [Setup.outcome_finishStyle]
  refine outcome_finishStyle_of_isCurrent ?_ ?_
  · exact Setup.isCurrent_adjusted (hs.current filePath)
  · exact decide_eq_false (Int.not_lt.mpr (Setup.maxSize_adjusted_nonneg hs.nonneg))

end Unnoticed

/-- A call that fails leaves the entries and their order alone. -/
theorem Setup.entries_final_finishStyle_of_error {s : BuildState}
    (hfits : setup.cacheFollowsOptions = true → s.cache.size ≤ setup.options.cacheSize)
    (hsize : 0 ≤ s.cache.maxSize) {key : StyleKey} {filePath : Option String}
    {failure : Failure}
    (hfails : (setup.finishStyle around key filePath).outcome s = .error failure) :
    ((setup.finishStyle around key filePath).final s).cache.entries = s.cache.entries := by
  rw [outcome_finishStyle] at hfails
  rw [final_finishStyle, ← entries_adjusted hfits]
  have hkept : (setup.adjusted s.cache).isOverdrawn = false :=
    decide_eq_false (Int.not_lt.mpr (maxSize_adjusted_nonneg hsize))
  cases hlookup : (setup.adjusted s.cache).peek? key with
  | some block =>
      rw [outcome_finishStyle_of_found around setup.options filePath hlookup] at hfails
      simp at hfails
  | none =>
      obtain ⟨houtcome, notes, hfinal⟩ := finishStyle_of_missing around setup.options
        filePath (s := { s with cache := setup.adjusted s.cache }) hlookup
      rw [houtcome, hkept] at hfails
      rw [hfinal]
      cases hblock : finishedBlock around setup.options key filePath with
      | ok block =>
          rw [hblock] at hfails
          simp [Except.bind] at hfails
      | error e => rfl

/-- While the options stay the same, finishing a style gives what it gives with an
empty cache, whatever calls came before; and if it fails, the cache stays as it is. -/
theorem finishStyle_unaffected_by_calls
    (hignores : ∀ function ∈ setup.options.styleStages, IgnoresPath around function)
    {start : BuildState} (hempty : start.cache.entries = [])
    (hsize : 0 ≤ start.cache.maxSize) (calls : List CacheCall) (key : StyleKey)
    (filePath : Option String) {fresh : BuildState} (hfresh : fresh.cache.entries = [])
    (hfreshSize : 0 ≤ fresh.cache.maxSize) :
    (setup.finishStyle around key filePath).outcome
        (CacheCall.runAll setup around calls start) =
      (setup.finishStyle around key filePath).outcome fresh ∧
    ∀ failure,
      (setup.finishStyle around key filePath).outcome
          (CacheCall.runAll setup around calls start) = .error failure →
        ((setup.finishStyle around key filePath).final
            (CacheCall.runAll setup around calls start)).cache.entries =
          (CacheCall.runAll setup around calls start).cache.entries := by
  have hstart : Unnoticed around setup start.cache := .of_entries_eq_nil hempty hsize
  have hrun := hstart.runAll hignores calls
  have hnew : Unnoticed around setup fresh.cache := .of_entries_eq_nil hfresh hfreshSize
  constructor
  · rw [hrun.outcome_eq key filePath, hnew.outcome_eq key filePath]
  · intro failure hfails
    exact Setup.entries_final_finishStyle_of_error hrun.fits hrun.nonneg hfails

/-- With a stage that notes the scope down, and after calls that evicted the block
asked for and one that failed. -/
theorem finishStyle_unaffected_by_eviction :
    let around : Surroundings :=
      { disk := { workingDirectory := "/work" }
        extensions :=
          { Extensions.none with
            stage := fun _ sheet context =>
              { notes := [.text context.scopeId], outcome := .ok sheet } } }
    let setup : Setup :=
      { options := { styleStages := [⟨"probe", none⟩] }, registry := {} }
    let key : StyleKey := ⟨"_v-1", ".a \x7b mask: x \x7d", true⟩
    let calls : List CacheCall :=
      [.finish key (some "/work/a.vue"), .resize 1, .finish { key with isScoped := false } none,
        .finish ⟨"_v-2", ".a \x7b", true⟩ (some "/work/b.vue")]
    (∀ function ∈ setup.options.styleStages, IgnoresPath around function) ∧
      (setup.finishStyle around key none).outcome (CacheCall.runAll setup around calls {}) =
        (setup.finishStyle around key none).outcome {} := by
  intro around setup key calls
  have hignores : ∀ function ∈ setup.options.styleStages, IgnoresPath around function :=
    fun _ _ _ _ _ _ _ => rfl
  have hempty : ({} : BuildState).cache.entries = [] := rfl
  have hsize : 0 ≤ ({} : BuildState).cache.maxSize := by decide
  exact ⟨hignores,
    (finishStyle_unaffected_by_calls hignores hempty hsize calls key none hempty hsize).1⟩

end ComponentCompiler
