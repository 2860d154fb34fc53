import ComponentCompiler.Proofs.Component.References

/-!
# Builds that are not strict

A build that is not strict goes on behind a reference that cannot be read, with an empty
source and a warning.  There is one exception: a path with a null character in it is
refused before the disk is asked, and this ends the build.  So all blocks are extracted
exactly if no path that the document refers to holds a null character, as far as the
listeners let the paths pass.
-/

namespace ComponentCompiler

open Build

theorem Disk.read_eq_nullInPath_iff {disk : Disk} {path : String} :
    disk.read path = .error .nullInPath ↔ '\x00' ∈ path.toList := by
  rw [Disk.read]
  split
  · rename_i hnull
    exact iff_of_true rfl (List.contains_iff_mem.mp hnull)
  · rename_i hplain
    refine iff_of_false ?_ (mt List.contains_iff_mem.mpr hplain)
    dsimp only
    split
    · split <;> simp
    · split <;> simp

namespace Block

variable {around : Surroundings} {document : String} {filePath : Option String} {part : Section}
  {src path : String} {read : Except Disk.ReadFault String} {s : BuildState}

theorem outcome_skipReference (filePath : Option String) (src path : String) (s : BuildState) :
    (skipReference filePath false src path).outcome s = .ok "" := rfl

theorem outcome_useContent (hread : read ≠ .error .nullInPath) (s : BuildState) :
    (useContent filePath false src path read).outcome s = .ok (contentOf read) := by
  cases read with
  | ok content => rfl
  | error fault =>
      cases fault with
      | nullInPath => exact absurd rfl hread
      | missing _ => exact outcome_skipReference _ _ _ _
      | isDirectory _ => exact outcome_skipReference _ _ _ _
      | undecodable => exact outcome_skipReference _ _ _ _

/-- A file that cannot be read leaves its block empty, and is warned of. -/
theorem extracted_of_unreadable (document : String) (hsrc : part.src? = some src)
    (hpath : referencePath around.disk.workingDirectory filePath src = path)
    {fault : Disk.ReadFault} (hread : around.disk.read path = .error fault) :
    (extracted around document filePath part).source = "" ∧
      sectionWarning? around filePath part = some (danglingWarning src path) := by
  rw [extracted, ofSource, sectionSource, sectionWarning?, hsrc]
  dsimp only
  rw [hpath, hread]
  exact ⟨rfl, rfl⟩

/-- Whether no null character stands in the path that a section refers to, if it does. -/
def HasPlainPath (around : Surroundings) (filePath : Option String) (part : Section) : Prop :=
  ∀ path ∈ sectionPath? around filePath part, '\x00' ∉ path.toList

theorem outcome_loadSource_of_path (document : String)
    (hpath : sectionPath? around filePath part = some path) (htakes : s.tracker.Takes [path]) :
    ∃ src t, part.src? = some src ∧
      (loadSource around document filePath false part).outcome s =
        (useContent filePath false src path (around.disk.read path)).outcome t := by
  obtain ⟨src, hsrc, hpath⟩ := Option.map_eq_some_iff.mp hpath
  refine ⟨src, (Build.report path).final s, hsrc, ?_⟩
  rw [loadSource, hsrc]
  dsimp only
  rw [loadReference_eq hpath, outcome_bind_of_ok (Accounts.outcome_report_of_takes htakes)]

/-- A section gives its block unless it refers to a path with a null character. -/
theorem outcome_extract_of_hasPlainPath (h : HasPlainPath around filePath part)
    (htakes : s.tracker.Takes (sectionPath? around filePath part).toList) :
    (extract around document filePath false part).outcome s =
      .ok (extracted around document filePath part) := by
  suffices hok : ∃ block, (extract around document filePath false part).outcome s = .ok block by
    obtain ⟨block, hblock⟩ := hok
    rw [hblock, outcome_extract_of_ok hblock]
  rw [outcome_extract]
  cases hpath : sectionPath? around filePath part with
  | none =>
      rw [loadSource, Option.map_eq_none_iff.mp hpath]
      exact ⟨_, rfl⟩
  | some path =>
      rw [hpath, Option.toList_some] at htakes
      obtain ⟨src, t, -, hload⟩ := outcome_loadSource_of_path document hpath htakes
      have hread : around.disk.read path ≠ .error .nullInPath := fun hnull =>
        h path hpath (Disk.read_eq_nullInPath_iff.mp hnull)
      rw [hload, outcome_useContent hread]
      exact ⟨_, rfl⟩

theorem outcome_extract_of_null (hpath : sectionPath? around filePath part = some path)
    (hnull : '\x00' ∈ path.toList) (htakes : s.tracker.Takes [path]) :
    (extract around document filePath false part).outcome s = .error (.unreadable .nullInPath) := by
  obtain ⟨src, t, -, hload⟩ := outcome_loadSource_of_path document hpath htakes
  rw [outcome_extract, hload, Disk.read_eq_nullInPath_iff.mpr hnull]
  rfl

end Block

/-! ## Whole documents -/

namespace Document

variable {around : Surroundings} {doc : Document} {content : String} {filePath : Option String}
  {s : BuildState}

theorem references_eq_flatMap (around : Surroundings) (filePath : Option String) (doc : Document) :
    Block.references around.disk.workingDirectory filePath doc =
      doc.sections.flatMap fun part => (Block.sectionPath? around filePath part).toList :=
  List.filterMap_eq_flatMap_toList _ _

theorem forall_hasPlainPath_iff :
    (∀ part ∈ doc.sections, Block.HasPlainPath around filePath part) ↔
      ∀ path ∈ Block.references around.disk.workingDirectory filePath doc,
        '\x00' ∉ path.toList := by
  simp only [Block.HasPlainPath, references_eq_flatMap, List.mem_flatMap, Option.mem_toList]
  exact ⟨fun h path ⟨part, hpart, hpath⟩ => h part hpart path hpath,
    fun h part hpart path hpath => h path ⟨part, hpart, hpath⟩⟩

/-- All sections of a document are extracted: each gives its block, in the order of the
document, and warns once if it refers to a file that cannot be read. -/
structure Extracts (around : Surroundings) (doc : Document) (content : String)
    (filePath : Option String) (s : BuildState) : Prop where
  outcome_eq : (doc.blocks around content filePath false).outcome s =
    .ok (doc.sections.map (Block.extracted around content filePath))
  warnings_eq : ((doc.blocks around content filePath false).final s).warnings =
    s.warnings ++ doc.sections.filterMap (Block.sectionWarning? around filePath)
  unreadable : ∀ part ∈ doc.sections, ∀ src path fault, part.src? = some src →
    Block.referencePath around.disk.workingDirectory filePath src = path →
    around.disk.read path = .error fault →
    (Block.extracted around content filePath part).source = "" ∧
      Block.sectionWarning? around filePath part = some (Block.danglingWarning src path)

theorem takes_of_outcome_ok {blocks : List Block} (hcount : doc.countFault? filePath = none)
    (h : (doc.blocks around content filePath false).outcome s = .ok blocks) :
    s.tracker.Takes (Block.references around.disk.workingDirectory filePath doc) := by
  rw [blocks_of_sound hcount] at h
  rw [references_eq_flatMap]
  exact Accounts.takes_of_mapM (Block.accounts_extract around content filePath false) h

theorem extracts_of_forall (hcount : doc.countFault? filePath = none)
    (htakes : s.tracker.Takes (Block.references around.disk.workingDirectory filePath doc))
    (hplain : ∀ part ∈ doc.sections, Block.HasPlainPath around filePath part) :
    doc.Extracts around content filePath s := by
  have haccounts := Block.accounts_extract around content filePath false
  rw [references_eq_flatMap] at htakes
  obtain ⟨blocks, hblocks⟩ := Accounts.exists_outcome_mapM haccounts
    (fun part hpart _ h => ⟨_, Block.outcome_extract_of_hasPlainPath (hplain part hpart) h⟩) htakes
  constructor
  · rw [blocks_of_sound hcount, hblocks]
    exact congrArg _ (eq_map_of_outcome_mapM (fun _ _ _ => Block.outcome_extract_of_ok) hblocks)
  · rw [blocks_of_sound hcount, Accounts.warnings_final_mapM haccounts hblocks,
      List.filterMap_eq_flatMap_toList]
  · intro part _ src path fault hsrc hpath hread
    exact Block.extracted_of_unreadable content hsrc hpath hread

/-- The first path with a null character ends the extraction. -/
theorem outcome_blocks_of_null (hcount : doc.countFault? filePath = none)
    (htakes : s.tracker.Takes (Block.references around.disk.workingDirectory filePath doc))
    (hnull : ∃ part ∈ doc.sections, ¬ Block.HasPlainPath around filePath part) :
    (doc.blocks around content filePath false).outcome s = .error (.unreadable .nullInPath) := by
  obtain ⟨front, part, rest, hsections, hfront, hbad⟩ := exists_first_of_not hnull
  obtain ⟨path, hpath, hmem⟩ : ∃ path, Block.sectionPath? around filePath part = some path ∧
      '\x00' ∈ path.toList := by
    simpa [Block.HasPlainPath] using hbad
  rw [references_eq_flatMap, hsections, List.append_cons, List.flatMap_append,
    Tracker.takes_append] at htakes
  rw [blocks_of_sound hcount, hsections]
  refine (Accounts.mapM_of_failing_item (Block.accounts_extract around content filePath false)
    (fun c hc _ h => ⟨_, Block.outcome_extract_of_hasPlainPath (hfront c hc) h⟩)
    (fun t ht => ?_) htakes.1 rest).1
  rw [hpath, Option.toList_some] at ht
  exact Block.outcome_extract_of_null hpath hmem ht

/-- A document with at most one template is extracted as a whole by a build that is not
strict if and only if no path that it refers to has a null character in it and no listener
fails when it hears of these paths.  If it is only the null character, this is reported. -/
theorem extracts_iff_references_plain (around : Surroundings) (doc : Document) (content : String)
    (filePath : Option String) (s : BuildState)
    (hcount : doc.sections.countP (·.kind == .template) ≤ 1) :
    let paths := Block.references around.disk.workingDirectory filePath doc
    ((∃ blocks, (doc.blocks around content filePath false).outcome s = .ok blocks) ↔
      doc.Extracts around content filePath s) ∧
    (doc.Extracts around content filePath s ↔
      s.tracker.Takes paths ∧ ∀ path ∈ paths, '\x00' ∉ path.toList) ∧
    (s.tracker.Takes paths → (∃ path ∈ paths, '\x00' ∈ path.toList) →
      (doc.blocks around content filePath false).outcome s = .error (.unreadable .nullInPath)) := by
  intro paths
  have hsound : doc.countFault? filePath = none := countFault?_eq_none_iff.mpr hcount
  have hstops : s.tracker.Takes paths → (∃ path ∈ paths, '\x00' ∈ path.toList) →
      (doc.blocks around content filePath false).outcome s = .error (.unreadable .nullInPath) := by
    intro htakes hnull
    apply outcome_blocks_of_null hsound htakes
    obtain ⟨path, hpath, hmem⟩ := hnull
    obtain ⟨part, hpart, hsrc⟩ := List.mem_filterMap.mp hpath
    exact ⟨part, hpart, fun hplain => hplain path hsrc hmem⟩
  have hcondition : (∃ blocks, (doc.blocks around content filePath false).outcome s = .ok blocks) →
      s.tracker.Takes paths ∧ ∀ path ∈ paths, '\x00' ∉ path.toList := by
    rintro ⟨blocks, hblocks⟩
    have htakes := takes_of_outcome_ok hsound hblocks
    refine ⟨htakes, fun path hpath hmem => ?_⟩
    have hstop := hstops htakes ⟨path, hpath, hmem⟩
    rw [hblocks] at hstop
    cases hstop
  have hextracts : s.tracker.Takes paths ∧ (∀ path ∈ paths, '\x00' ∉ path.toList) →
      doc.Extracts around content filePath s := fun h =>
    extracts_of_forall hsound h.1 (forall_hasPlainPath_iff.mpr h.2)
  refine ⟨⟨fun h => hextracts (hcondition h), fun h => ⟨_, h.outcome_eq⟩⟩,
    ⟨fun h => hcondition ⟨_, h.outcome_eq⟩, hextracts⟩, hstops⟩

theorem exists_parse_of_map {α : Type} {f : Document → α} {a : α}
    (h : (Document.parse content).toOption.map f = some a) :
    ∃ doc, Document.parse content = .ok doc ∧ f doc = a := by
  cases hdoc : Document.parse content with
  | error reason => simp [hdoc, Except.toOption] at h
  | ok doc =>
      rw [hdoc] at h
      exact ⟨doc, rfl, Option.some.inj h⟩

/-- A missing file, a directory and a file that is no text, behind one that can be read. -/
theorem extracts_three_unreadable_references :
    let files := [("/work/a.css", ".a \x7b\x7d".toUTF8), ("/work/b.js", ⟨#[97, 255]⟩)]
    let around : Surroundings :=
      { disk := { workingDirectory := "/work", files }, extensions := Extensions.none }
    let content := "<style src=a.css></style><script src=b.js></script>" ++
      "<template src=..></template><style src='c\td.css'></style>"
    ∃ doc, Document.parse content = .ok doc ∧
      doc.sections.countP (·.kind == .template) ≤ 1 ∧
      doc.Extracts around content none {} ∧
      (doc.sections.map (Block.extracted around content none)).map (fun b => (b.kind, b.source)) =
        [(.style, ".a \x7b\x7d"), (.script, ""), (.template, ""), (.style, "")] ∧
      (doc.sections.filterMap (Block.sectionWarning? around none)).map (·.path) =
        [some "/work/b.js", some "/", some "/work/c\td.css"] := by
  intro files around content
  obtain ⟨doc, hdoc, hrefers⟩ :
      ∃ doc, Document.parse content = .ok doc ∧
        (doc.sections.countP (·.kind == .template), Block.references "/work" none doc) =
          (1, ["/work/a.css", "/work/b.js", "/", "/work/c\td.css"]) :=
    exists_parse_of_map (by decide +kernel)
  have hgives : (Document.parse content).toOption.map (fun doc =>
      ((doc.sections.map (Block.extracted around content none)).map (fun b => (b.kind, b.source)),
        (doc.sections.filterMap (Block.sectionWarning? around none)).map (·.path))) =
      some ([(.style, ".a \x7b\x7d"), (.script, ""), (.template, ""), (.style, "")],
        [some "/work/b.js", some "/", some "/work/c\td.css"]) := by decide +kernel
  rw [hdoc] at hgives
  obtain ⟨hcount, hpaths⟩ := Prod.mk.inj hrefers
  obtain ⟨hblocks, hwarnings⟩ := Prod.mk.inj (Option.some.inj hgives)
  have hfew : doc.sections.countP (·.kind == .template) ≤ 1 := Nat.le_of_eq hcount
  have hpassive : ({} : BuildState).tracker.IsPassive := fun _ h => absurd h List.not_mem_nil
  have hplain : ∀ path ∈ Block.references "/work" none doc, '\x00' ∉ path.toList := by
    rw [hpaths]
    decide
  obtain ⟨-, hextracts, -⟩ := extracts_iff_references_plain around doc content none {} hfew
  exact ⟨doc, hdoc, hfew, hextracts.mpr ⟨Tracker.takes_of_isPassive hpassive _, hplain⟩, hblocks,
    hwarnings⟩

/-- A null character in a reference ends a build that is not strict, whatever is on the disk. -/
theorem not_extracts_reference_with_null :
    let content := "<style src='a\x00b'></style>"
    ∃ doc, Document.parse content = .ok doc ∧
      doc.sections.countP (·.kind == .template) ≤ 1 ∧
      ∀ files,
        (doc.blocks ⟨⟨"/work", files, []⟩, Extensions.none, false⟩ content none false).outcome {} =
          .error (.unreadable .nullInPath) := by
  intro content
  obtain ⟨doc, hdoc, hrefers⟩ :
      ∃ doc, Document.parse content = .ok doc ∧
        (doc.sections.countP (·.kind == .template), Block.references "/work" none doc) =
          (0, ["/work/a\x00b"]) :=
    exists_parse_of_map (by decide +kernel)
  obtain ⟨hcount, hpaths⟩ := Prod.mk.inj hrefers
  have hfew : doc.sections.countP (·.kind == .template) ≤ 1 :=
    Nat.le_trans (Nat.le_of_eq hcount) (Nat.zero_le 1)
  refine ⟨doc, hdoc, hfew, fun files => ?_⟩
  have hpassive : ({} : BuildState).tracker.IsPassive := fun _ h => absurd h List.not_mem_nil
  apply outcome_blocks_of_null (countFault?_eq_none_iff.mpr hfew)
    (Tracker.takes_of_isPassive hpassive _)
  obtain ⟨part, hpart, hsrc⟩ := List.mem_filterMap.mp (hpaths ▸ List.mem_singleton_self _)
  exact ⟨part, hpart, fun hplain => hplain _ hsrc (by decide)⟩

end Document

end ComponentCompiler
