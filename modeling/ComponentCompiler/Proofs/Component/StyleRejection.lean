import ComponentCompiler.Proofs.Component.FinishedStyle
import ComponentCompiler.Proofs.Stylesheet.RoundTrip

/-!
# Styles that cannot be read

A style source is read only if there is a stage to apply.  For a source that can be read
this makes no difference, since without any stage it is written back as it was.  One that
cannot be read is reported if there is a stage, and otherwise is the finished style.
-/

namespace ComponentCompiler

open Build

variable {around : Surroundings} {options : Settings.Options} {key : StyleKey}
  {filePath : Option String} {s : BuildState}

/-- The style source read, changed by all stages and written, whether or not there are any. -/
def finishParsed (around : Surroundings) (options : Settings.Options) (key : StyleKey)
    (filePath : Option String) : Build String :=
  match Stylesheet.parse key.css.toList with
  | .error fault => throw (.diagnostic (fault.diagnostic key.css.toList filePath))
  | .ok sheet => do
      let sheet ← StyleStage.applyAll around ⟨key.scopeId, filePath, options⟩ sheet
        (StyleStage.stages options key.isScoped)
      return String.ofList sheet.render

/-- Whether a block passes through any stage. -/
def HasStage (options : Settings.Options) (isScoped : Bool) : Prop :=
  options.styleStages ≠ [] ∨ isScoped = true ∨ options.autoprefixer ≠ .off

theorem StyleStage.stages_eq_nil_iff {isScoped : Bool} :
    stages options isScoped = [] ↔ ¬HasStage options isScoped := by
  simp only [stages, HasStage, ne_eq, not_or, Classical.not_not, List.append_eq_nil_iff,
    List.map_eq_nil_iff, and_assoc]
  refine and_congr_right fun _ => and_congr ?_ ?_
  · cases isScoped <;> simp
  · cases options.autoprefixer <;> simp [Settings.Autoprefixer.properties?]

theorem finishAfresh_of_hasStage (hstage : HasStage options key.isScoped) :
    finishAfresh around options key filePath = finishParsed around options key filePath := by
  have hstages : StyleStage.stages options key.isScoped ≠ [] := fun hnil =>
    StyleStage.stages_eq_nil_iff.mp hnil hstage
  rw [finishAfresh, finishParsed]
  exact if_neg (by simpa using hstages)

theorem finishAfresh_of_not_hasStage (hnone : ¬HasStage options key.isScoped) :
    finishAfresh around options key filePath = pure key.css := by
  rw [finishAfresh, StyleStage.stages_eq_nil_iff.mpr hnone]
  rfl

theorem finishParsed_of_error {fault : Stylesheet.Fault}
    (hparse : Stylesheet.parse key.css.toList = .error fault) :
    finishParsed around options key filePath =
      throw (.diagnostic (fault.diagnostic key.css.toList filePath)) := by
  rw [finishParsed, hparse]

/-- Without stages a source that can be read is written back. -/
theorem finishParsed_of_not_hasStage {sheet : Stylesheet}
    (hparse : Stylesheet.parse key.css.toList = .ok sheet)
    (hnone : ¬HasStage options key.isScoped) :
    finishParsed around options key filePath = pure key.css := by
  rw [finishParsed, hparse]
  dsimp only
  rw [StyleStage.stages_eq_nil_iff.mpr hnone, StyleStage.applyAll, pure_bind,
    Stylesheet.render_of_parse hparse, String.ofList_toList]

/-- Leaving out the reading is noticed only without stages, and only if it fails. -/
theorem finishAfresh_eq_finishParsed_iff :
    finishAfresh around options key filePath = finishParsed around options key filePath ↔
      HasStage options key.isScoped ∨ ∃ sheet, Stylesheet.parse key.css.toList = .ok sheet := by
  by_cases hstage : HasStage options key.isScoped
  · exact iff_of_true (finishAfresh_of_hasStage hstage) (Or.inl hstage)
  · cases hparse : Stylesheet.parse key.css.toList with
    | ok sheet =>
        refine iff_of_true ?_ (Or.inr ⟨sheet, rfl⟩)
        rw [finishAfresh_of_not_hasStage hstage, finishParsed_of_not_hasStage hparse hstage]
    | error fault =>
        refine iff_of_false (fun heq => ?_) (by simp [hstage])
        rw [finishAfresh_of_not_hasStage hstage, finishParsed_of_error hparse] at heq
        exact nomatch congrFun heq {}

theorem outcome_finishStyle_of_entries_eq_nil (hempty : s.cache.entries = []) :
    (finishStyle around options key filePath).outcome s =
      (finishedBlock around options key filePath).bind fun block =>
        if s.cache.isOverdrawn then .error .cacheOverdrawn else .ok block := by
  have hmissing : s.cache.peek? key = none := by
    rw [StyleCache.peek?, hempty]
    rfl
  exact (finishStyle_of_missing around options filePath hmissing).1

theorem outcome_finishStyle_of_error {fault : Stylesheet.Fault}
    (hempty : s.cache.entries = []) (hstage : HasStage options key.isScoped)
    (hparse : Stylesheet.parse key.css.toList = .error fault) :
    (finishStyle around options key filePath).outcome s =
      .error (.diagnostic (fault.diagnostic key.css.toList filePath)) := by
  rw [outcome_finishStyle_of_entries_eq_nil hempty, finishedBlock,
    finishAfresh_of_hasStage hstage, finishParsed_of_error hparse]
  rfl

theorem outcome_finishStyle_of_not_hasStage (hempty : s.cache.entries = [])
    (hnone : ¬HasStage options key.isScoped) :
    (finishStyle around options key filePath).outcome s =
      if s.cache.isOverdrawn then .error .cacheOverdrawn else .ok ⟨.style, key.css⟩ := by
  rw [outcome_finishStyle_of_entries_eq_nil hempty, finishedBlock,
    finishAfresh_of_not_hasStage hnone]
  rfl

/-- With an empty cache, a style that cannot be read is reported exactly if the block passes
through any stage, and otherwise finished as it is.  That the reading is left out without
stages shows for no other style. -/
theorem finishStyle_reports_iff_hasStage (around : Surroundings) (options : Settings.Options)
    (key : StyleKey) (filePath : Option String) (s : BuildState)
    (hempty : s.cache.entries = []) :
    (∀ fault, Stylesheet.parse key.css.toList = .error fault →
      ((finishStyle around options key filePath).outcome s =
          .error (.diagnostic (fault.diagnostic key.css.toList filePath)) ↔
        HasStage options key.isScoped) ∧
      (¬HasStage options key.isScoped → 0 ≤ s.cache.maxSize →
        (finishStyle around options key filePath).outcome s = .ok ⟨.style, key.css⟩)) ∧
    (finishAfresh around options key filePath = finishParsed around options key filePath ↔
      HasStage options key.isScoped ∨
        ∃ sheet, Stylesheet.parse key.css.toList = .ok sheet) := by
  refine ⟨fun fault hparse => ⟨⟨fun hreported => ?_, fun hstage => ?_⟩, fun hnone hsize => ?_⟩,
    finishAfresh_eq_finishParsed_iff⟩
  · refine Classical.byContradiction fun hnone => ?_
    rw [outcome_finishStyle_of_not_hasStage hempty hnone] at hreported
    split at hreported
    · exact nomatch Except.error.inj hreported
    · exact nomatch hreported
  · exact outcome_finishStyle_of_error hempty hstage hparse
  · have hkept : s.cache.isOverdrawn = false := by
      simpa [StyleCache.isOverdrawn] using hsize
    rw [outcome_finishStyle_of_not_hasStage hempty hnone, hkept, if_neg Bool.false_ne_true]

/-- An unclosed block, scoped and not, and a source that can be read, without prefixes. -/
theorem finishStyle_reports_scoped_block :
    let around : Surroundings :=
      { disk := { workingDirectory := "/work" }, extensions := Extensions.none }
    let options : Settings.Options := { autoprefixer := .off }
    let key (css : String) (isScoped : Bool) : StyleKey := ⟨"v", css, isScoped⟩
    let fault : Stylesheet.Fault := ⟨.unclosedBlock, 2⟩
    Stylesheet.parse ".a\x7b".toList = .error fault ∧
      (finishStyle around options (key ".a\x7b" true) none).outcome {} =
        .error (.diagnostic (fault.diagnostic ".a\x7b".toList none)) ∧
      (finishStyle around options (key ".a\x7b" false) none).outcome {} =
        .ok ⟨.style, ".a\x7b"⟩ ∧
      finishAfresh around options (key ".a\x7b\x7d" false) none =
        finishParsed around options (key ".a\x7b\x7d" false) none := by
  intro around options key fault
  have hparse : Stylesheet.parse ".a\x7b".toList = .error fault := by with_unfolding_all rfl
  have hread : Stylesheet.parse ".a\x7b\x7d".toList =
      .ok ⟨[.rule [] ".a".toList [] [] []], []⟩ := by with_unfolding_all rfl
  obtain ⟨hscoped, -⟩ :=
    finishStyle_reports_iff_hasStage around options (key ".a\x7b" true) none {} rfl
  obtain ⟨hplain, -⟩ :=
    finishStyle_reports_iff_hasStage around options (key ".a\x7b" false) none {} rfl
  obtain ⟨-, hsame⟩ :=
    finishStyle_reports_iff_hasStage around options (key ".a\x7b\x7d" false) none {} rfl
  have hnone : ¬HasStage options false := by simp [HasStage, options]
  exact ⟨hparse, (hscoped fault hparse).1.mpr (Or.inr (Or.inl rfl)),
    (hplain fault hparse).2 hnone (by decide), hsame.mpr (Or.inr ⟨_, hread⟩)⟩

/-- The report on an unclosed block is gone when prefixes are switched off. -/
theorem finishStyle_silent_without_prefixes :
    let around : Surroundings :=
      { disk := { workingDirectory := "/work" }, extensions := Extensions.none }
    let key : StyleKey := ⟨"v", ".a\x7b", false⟩
    (∃ fault, Stylesheet.parse key.css.toList = .error fault ∧
      (finishStyle around {} key none).outcome {} =
        .error (.diagnostic (fault.diagnostic key.css.toList none))) ∧
      (finishStyle around { autoprefixer := .off } key none).outcome {} =
        .ok ⟨.style, ".a\x7b"⟩ := by
  intro around key
  have hparse : Stylesheet.parse ".a\x7b".toList = .error ⟨.unclosedBlock, 2⟩ := by
    with_unfolding_all rfl
  have hstage : HasStage {} key.isScoped := by simp [HasStage]
  exact ⟨⟨_, hparse, outcome_finishStyle_of_error rfl hstage hparse⟩, rfl⟩

end ComponentCompiler
