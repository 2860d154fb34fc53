import ComponentCompiler.Component.Compile
import ComponentCompiler.Proofs.Component.Outcome

/-!
# Steps that do not see the cache

Only finishing a style looks at the cache.  All other steps of a compile take
their course from the tracker and the warnings so far, so two runs that differ
in their caches, in what they wrote to the console and in their notes stay in
step through them.
-/

namespace ComponentCompiler

/-- Two states that differ in the console, the notes and, as far as `K` allows, the
cache. -/
structure Alike (K : FinishedStyles → FinishedStyles → Prop) (s t : BuildState) : Prop where
  tracker : s.tracker = t.tracker
  warnings : s.warnings = t.warnings
  cache : K s.cache t.cache

namespace Build

variable {K : FinishedStyles → FinishedStyles → Prop} {around : Surroundings}

theorem agree_say (lines other : String) : Agree (Alike K) (say lines) (say other) :=
  fun _ _ h => ⟨rfl, h.tracker, h.warnings, h.cache⟩

theorem agree_debug (message other : String) :
    Agree (Alike K) (debug around message) (debug around other) := by
  unfold debug
  split
  · exact agree_say _ _
  · exact Agree.pure ()

theorem outcome_debug (around : Surroundings) (message : String) (s : BuildState) :
    (debug around message).outcome s = .ok () := by
  rw [debug]
  split <;> rfl

theorem agree_addWarning (warning : Warning) :
    Agree (Alike K) (addWarning warning) (addWarning warning) :=
  fun _ _ h => ⟨rfl, h.tracker, congrArg (· ++ [warning]) h.warnings, h.cache⟩

theorem agree_report (path : String) : Agree (Alike K) (report path) (report path) := by
  intro s t h
  obtain ⟨htracker, hwarnings, hcache⟩ := h
  unfold outcome final report
  rw [htracker]
  cases (Tracker.emit path).run t.tracker with
  | ok _ tracker => exact ⟨rfl, rfl, hwarnings, hcache⟩
  | error interruption tracker => exact ⟨rfl, rfl, hwarnings, hcache⟩

theorem agree_ofRun {α : Type} (run : ExtensionRun α) :
    Agree (Alike K) (ofRun run) (ofRun run) := by
  intro s t h
  rw [outcome_ofRun, outcome_ofRun, final_ofRun, final_ofRun]
  exact ⟨rfl, h.tracker, h.warnings, h.cache⟩

theorem agree_compileBlock (registry : Registry) (kind : BlockKind) (source : String)
    (lang filePath : Option String) :
    Agree (Alike K) (compileBlock around registry kind source lang filePath)
      (compileBlock around registry kind source lang filePath) := by
  unfold compileBlock
  split
  · refine (agree_debug _ _).bind fun _ => ?_
    refine (Agree.forM _ fun path _ => agree_report path).bind fun _ => ?_
    split
    · exact Agree.throw _
    · exact Agree.throw _
    · exact Agree.pure _
  · exact Agree.pure _

theorem agree_validateTemplate (options : Settings.Options) (part : Option Section)
    (content : String) (filePath : Option String) :
    Agree (Alike K) (validateTemplate around options part content filePath)
      (validateTemplate around options part content filePath) := by
  rw [validateTemplate]
  split
  · exact Agree.pure _
  · refine (agree_ofRun _).bind fun messages => ?_
    refine Agree.bind ?_ fun _ => Agree.pure messages
    exact Agree.forM _ fun _ _ => (agree_say _ _).bind fun _ => agree_addWarning _

theorem agree_minifyTemplate (options : Settings.Options) (template : String) :
    Agree (Alike K) (minifyTemplate around options template)
      (minifyTemplate around options template) := by
  rw [minifyTemplate]
  split
  · exact Agree.pure _
  · exact agree_ofRun _

theorem agree_markTemplate (template : String) (scopeId? : Option String) :
    Agree (Alike K) (markTemplate template scopeId?) (markTemplate template scopeId?) := by
  unfold markTemplate
  split
  · exact Agree.throw _
  · exact Agree.pure _
  · split
    · exact Agree.throw _
    · exact Agree.pure _

end Build

namespace Block

open Build

variable {K : FinishedStyles → FinishedStyles → Prop} {around : Surroundings}

theorem agree_loadReference (filePath : Option String) (strict : Bool) (src : String) :
    Agree (Alike K) (loadReference around filePath strict src)
      (loadReference around filePath strict src) := by
  rw [loadReference]
  refine (agree_report _).bind fun _ => ?_
  split
  · exact Agree.pure _
  · exact Agree.throw _
  · split
    · exact Agree.throw _
    · exact (agree_say _ _).bind fun _ => (agree_addWarning _).bind fun _ => Agree.pure _

theorem agree_ofSection (document : String) (filePath : Option String) (strict : Bool)
    (part : Section) :
    Agree (Alike K) (ofSection around document filePath strict part)
      (ofSection around document filePath strict part) := by
  rw [ofSection]
  dsimp only
  split
  · exact (agree_loadReference filePath strict _).bind fun _ => Agree.pure _
  · exact (Agree.pure _).bind fun _ => Agree.pure _

end Block

open Build

variable {K : FinishedStyles → FinishedStyles → Prop} {around : Surroundings}

theorem Document.agree_blocks (doc : Document) (content : String)
    (filePath : Option String) (strict : Bool) :
    Agree (Alike K) (doc.blocks around content filePath strict)
      (doc.blocks around content filePath strict) := by
  rw [blocks]
  split
  · exact Agree.throw _
  · refine Agree.mapM _ fun part _ => ?_
    refine (Block.agree_ofSection content filePath strict part).bind fun _ => ?_
    exact (agree_debug _ _).bind fun _ => Agree.pure _

theorem Setup.agree_compileTemplate (setup : Setup) (request : CompileRequest)
    (doc : Document) (scopeId? : Option String) (block : Block) :
    Agree (Alike K) (setup.compileTemplate around request doc scopeId? block)
      (setup.compileTemplate around request doc scopeId? block) := by
  have hshrink (marked : String) {next : Option String → Build Module.Part}
      (hnext : ∀ final, Agree (Alike K) (next final) (next final)) :
      Agree (Alike K)
        (if setup.options.production then
          minifyTemplate around setup.options marked >>= next
        else pure (some marked) >>= next)
        (if setup.options.production then
          minifyTemplate around setup.options marked >>= next
        else pure (some marked) >>= next) := by
    split
    · exact (agree_minifyTemplate _ marked).bind hnext
    · exact (Agree.pure _).bind hnext
  rw [compileTemplate]
  dsimp only
  split
  · rw [discard_eq_bind, bind_assoc]
    refine (agree_validateTemplate _ _ _ _).bind fun _ => ?_
    refine (agree_compileBlock _ _ _ _ _).bind fun compiled => ?_
    split
    · exact (agree_markTemplate _ _).bind fun marked => hshrink marked fun final => by
        cases final <;> exact Agree.pure _
    · exact (Agree.pure _).bind fun marked => hshrink marked fun final => by
        cases final <;> exact Agree.pure _
  · refine (agree_compileBlock _ _ _ _ _).bind fun compiled => ?_
    split
    · exact (agree_markTemplate _ _).bind fun marked => hshrink marked fun final => by
        cases final <;> exact Agree.pure _
    · exact (Agree.pure _).bind fun marked => hshrink marked fun final => by
        cases final <;> exact Agree.pure _

end ComponentCompiler
