import ComponentCompiler.Proofs.Component.References
import ComponentCompiler.Proofs.Component.Session

/-!
# Strict builds

A strict build differs from any other in what it does about a reference that
cannot be read.  All blocks are extracted before the first one is compiled, so
the first such reference stops it before anything but the disk and the listeners
was asked.  Without such a reference the two builds are the same.
-/

namespace ComponentCompiler

open Build

namespace CompileRequest

/-- The file that a section refers to can be read. -/
def Reads (request : CompileRequest) (around : Surroundings) (src : String) : Prop :=
  ∃ content, around.disk.read (request.pathOf around src) = .ok content

/-- The request as one that is strict or not. -/
def setStrict (request : CompileRequest) (strict : Bool) : CompileRequest :=
  { request with strict }

section

variable (request : CompileRequest) (strict : Bool)

@[simp]
theorem strict_setStrict : (request.setStrict strict).strict = strict := rfl

@[simp]
theorem content_setStrict : (request.setStrict strict).content = request.content := rfl

@[simp]
theorem filePath_setStrict : (request.setStrict strict).filePath = request.filePath := rfl

@[simp]
theorem scopeId?_setStrict : (request.setStrict strict).scopeId? = request.scopeId? := rfl

end

end CompileRequest

/-- A compile stops at a reference, behind others that were read. -/
structure Setup.StopsAtReference (setup : Setup) (around : Surroundings)
    (request : CompileRequest) (s : BuildState) (before : List String) (src : String) : Prop where
  outcome_eq : (setup.compile around request).outcome s =
    .error (.diagnostic
      (Block.danglingDiagnostic request.filePath src (request.pathOf around src)))
  /-- The paths up to the reference were emitted, and no other. -/
  tracker_eq : ((setup.compile around request).final s).tracker =
    s.tracker.after ((before ++ [src]).map (request.pathOf around))
  cache_eq : ((setup.compile around request).final s).cache = s.cache
  /-- No function from outside was called: whichever are configured, and whatever they do,
  the compile takes the same course. -/
  uncalled : ∀ (other : Setup) (extensions : Extensions),
    other.compile { around with extensions } request s = setup.compile around request s

/-! ## One section -/

namespace Block

section

variable {around : Surroundings} {document : String} {filePath : Option String} {strict : Bool}
variable {part : Section} {src path content : String} {s : BuildState}

theorem loadReference_of_read
    (hpath : referencePath around.disk.workingDirectory filePath src = path)
    (hread : around.disk.read path = .ok content) :
    loadReference around filePath strict src =
      Build.report path >>= fun _ => pure content := by
  rw [loadReference_eq hpath, hread]
  rfl

theorem loadReference_of_dangling
    (hpath : referencePath around.disk.workingDirectory filePath src = path)
    {fault : Disk.ReadFault} (hread : around.disk.read path = .error fault)
    (hfault : fault ≠ .nullInPath) :
    loadReference around filePath true src =
      Build.report path >>= fun _ =>
        throw (.diagnostic (danglingDiagnostic filePath src path)) := by
  rw [loadReference_eq hpath, hread]
  cases fault with
  | nullInPath => exact absurd rfl hfault
  | missing _ => rfl
  | isDirectory _ => rfl
  | undecodable => rfl

/-- A section whose file, if it refers to one, can be read. -/
def IsReadable (around : Surroundings) (filePath : Option String) (part : Section) : Prop :=
  ∀ src, part.src? = some src →
    ∃ content, around.disk.read (referencePath around.disk.workingDirectory filePath src) =
      .ok content

theorem extract_of_isReadable (h : IsReadable around filePath part) (strict other : Bool) :
    extract around document filePath strict part = extract around document filePath other part := by
  have hload : loadSource around document filePath strict part =
      loadSource around document filePath other part := by
    rw [loadSource, loadSource]
    cases hsrc : part.src? with
    | none => rfl
    | some src =>
        obtain ⟨content, hread⟩ := h src hsrc
        dsimp only
        rw [loadReference_of_read rfl hread, loadReference_of_read rfl hread]
  rw [extract, extract, ofSection_eq, ofSection_eq, hload]

theorem exists_outcome_extract (h : IsReadable around filePath part)
    (htakes : s.tracker.Takes (sectionPath? around filePath part).toList) :
    ∃ block, (extract around document filePath strict part).outcome s = .ok block := by
  rw [outcome_extract, loadSource]
  rw [sectionPath?] at htakes
  cases hsrc : part.src? with
  | none => exact ⟨_, rfl⟩
  | some src =>
      obtain ⟨content, hread⟩ := h src hsrc
      rw [hsrc, Option.map_some, Option.toList_some] at htakes
      dsimp only
      rw [loadReference_of_read rfl hread,
        outcome_bind_of_ok (Accounts.outcome_report_of_takes htakes)]
      exact ⟨_, rfl⟩

theorem outcome_extract_of_dangling (document : String) (hsrc : part.src? = some src)
    (hpath : referencePath around.disk.workingDirectory filePath src = path)
    {fault : Disk.ReadFault} (hread : around.disk.read path = .error fault)
    (hfault : fault ≠ .nullInPath) (htakes : s.tracker.Takes [path]) :
    (extract around document filePath true part).outcome s =
      .error (.diagnostic (danglingDiagnostic filePath src path)) := by
  rw [outcome_extract, loadSource, hsrc]
  dsimp only
  rw [loadReference_of_dangling hpath hread hfault,
    outcome_bind_of_ok (Accounts.outcome_report_of_takes htakes)]
  rfl

end

end Block

/-! ## One document -/

section

variable {around : Surroundings} {doc : Document} {filePath : Option String}
variable {s : BuildState}

theorem Document.blocks_of_isReadable (content : String)
    (h : ∀ part ∈ doc.sections, Block.IsReadable around filePath part) (strict other : Bool) :
    doc.blocks around content filePath strict = doc.blocks around content filePath other := by
  cases hfault : doc.countFault? filePath with
  | some fault => rw [blocks_of_countFault hfault, blocks_of_countFault hfault]
  | none =>
      rw [blocks_of_sound hfault, blocks_of_sound hfault]
      exact mapM_congr fun part hpart => Block.extract_of_isReadable (h part hpart) strict other

/-- The first section whose file cannot be read ends a strict extraction. -/
theorem Document.blocks_of_dangling (content : String) {front rest : List Section} {part : Section}
    {src path : String} {fault : Disk.ReadFault} (hcount : doc.countFault? filePath = none)
    (hsections : doc.sections = front ++ part :: rest)
    (hfront : ∀ c ∈ front, Block.IsReadable around filePath c) (hsrc : part.src? = some src)
    (hpath : Block.referencePath around.disk.workingDirectory filePath src = path)
    (hread : around.disk.read path = .error fault) (hfault : fault ≠ .nullInPath)
    (htakes : s.tracker.Takes (front.filterMap (Block.sectionPath? around filePath) ++ [path])) :
    (doc.blocks around content filePath true).outcome s =
        .error (.diagnostic (Block.danglingDiagnostic filePath src path)) ∧
      ((doc.blocks around content filePath true).final s).tracker =
        s.tracker.after (front.filterMap (Block.sectionPath? around filePath) ++ [path]) := by
  have hpaths : front.filterMap (Block.sectionPath? around filePath) ++ [path] =
      (front ++ [part]).flatMap fun c => (Block.sectionPath? around filePath c).toList := by
    rw [List.flatMap_append, ← List.filterMap_eq_flatMap_toList, List.flatMap_singleton,
      Block.sectionPath?, hsrc, Option.map_some, hpath, Option.toList_some]
  rw [hpaths] at htakes ⊢
  rw [blocks_of_sound hcount, hsections]
  refine Accounts.mapM_of_failing_item (Block.accounts_extract around content filePath true)
    (fun c hc _ => Block.exists_outcome_extract (hfront c hc)) (fun t ht => ?_) htakes rest
  rw [Block.sectionPath?, hsrc, Option.map_some, hpath, Option.toList_some] at ht
  exact Block.outcome_extract_of_dangling content hsrc hpath hread hfault ht

end

/-! ## One compile -/

section

variable {around : Surroundings} {setup : Setup} {request : CompileRequest} {doc : Document}
variable {s : BuildState}

theorem Setup.announce_extensions (around : Surroundings) (extensions : Extensions)
    (request : CompileRequest) :
    announce { around with extensions } request = announce around request := by
  unfold announce Build.debug
  dsimp only

/-- No block is extracted with the help of functions from outside. -/
theorem Document.blocks_extensions (around : Surroundings) (extensions : Extensions)
    (doc : Document) (content : String) (filePath : Option String) (strict : Bool) :
    doc.blocks { around with extensions } content filePath strict =
      doc.blocks around content filePath strict := by
  unfold blocks Block.ofSection Block.loadReference Build.debug
  dsimp only

/-- A failed extraction is all that a compile does. -/
theorem Setup.compile_of_failed_extraction (setup : Setup) {e : Failure} {start : BuildState}
    (hdoc : Document.parse request.content = .ok doc)
    (hstart : announce around request s = .ok () start)
    (hblocks : (doc.blocks around request.content request.filePath request.strict).outcome start =
      .error e) :
    setup.compile around request s =
      .error e ((doc.blocks around request.content request.filePath request.strict).final start) := by
  rw [compile_eq, moduleParts, hdoc]
  apply bind_apply_of_error
  rw [bind_apply_of_ok hstart]
  exact bind_apply_of_error (eq_of_outcome_error hblocks)

theorem Setup.announce_setStrict (around : Surroundings) (request : CompileRequest)
    (strict : Bool) : announce around (request.setStrict strict) = announce around request := rfl

theorem Setup.compilePart_setStrict (around : Surroundings) (setup : Setup)
    (request : CompileRequest) (strict : Bool) :
    setup.compilePart around (request.setStrict strict) = setup.compilePart around request := rfl

theorem Setup.resultOf_setStrict (request : CompileRequest) (strict : Bool) :
    resultOf (request.setStrict strict) = resultOf request := rfl

/-- If all references can be read, it does not matter whether a compile is strict. -/
theorem Setup.compile_of_reads (around : Surroundings) (setup : Setup)
    (h : ∀ src ∈ request.srcs, request.Reads around src) (strict other : Bool) :
    setup.compile around (request.setStrict strict) =
      setup.compile around (request.setStrict other) := by
  rw [compile_eq, compile_eq, resultOf_setStrict, resultOf_setStrict]
  refine congrArg (· >>= resultOf request) ?_
  rw [moduleParts, moduleParts, announce_setStrict, announce_setStrict]
  refine bind_congr fun _ => ?_
  simp only [CompileRequest.content_setStrict, CompileRequest.filePath_setStrict,
    CompileRequest.strict_setStrict, CompileRequest.scopeId?_setStrict, compilePart_setStrict]
  cases hdoc : Document.parse request.content with
  | error reason => rfl
  | ok doc =>
      have hreadable : ∀ part ∈ doc.sections, Block.IsReadable around request.filePath part := by
        intro part hpart src hsrc
        rw [← CompileRequest.sections_of_parse hdoc] at hpart
        exact h src (List.mem_filterMap.mpr ⟨part, hpart, hsrc⟩)
      dsimp only
      rw [Document.blocks_of_isReadable _ hreadable strict other]

/-! ### The first reference that cannot be read -/

theorem CompileRequest.exists_first_dangling
    (h : ∃ src ∈ request.srcs, ¬ request.Reads around src) :
    ∃ front part rest src, request.sections = front ++ part :: rest ∧
      (∀ c ∈ front, Block.IsReadable around request.filePath c) ∧
      part.src? = some src ∧ ¬ request.Reads around src := by
  obtain ⟨src, hmem, hdangling⟩ := h
  obtain ⟨part, hpart, hsrc⟩ := List.mem_filterMap.mp hmem
  have hunreadable : ∃ c ∈ request.sections, ¬ Block.IsReadable around request.filePath c :=
    ⟨part, hpart, fun hreadable => hdangling (hreadable src hsrc)⟩
  obtain ⟨front, first, rest, hsections, hfront, hnot⟩ := exists_first_of_not hunreadable
  obtain ⟨src, hsrc, hunread⟩ : ∃ src, first.src? = some src ∧ ¬ request.Reads around src := by
    simpa [Block.IsReadable, Reads, pathOf] using hnot
  exact ⟨front, first, rest, src, hsections, hfront, hsrc, hunread⟩

theorem Setup.stopsAtReference {front rest : List Section} {part : Section} {src : String}
    (hstrict : request.strict = true) (hsections : request.sections = front ++ part :: rest)
    (hcount : request.sections.countP (·.kind == .template) ≤ 1)
    (hfront : ∀ c ∈ front, Block.IsReadable around request.filePath c)
    (hsrc : part.src? = some src) (hdangling : ¬ request.Reads around src)
    (hnull : around.disk.read (request.pathOf around src) ≠ .error .nullInPath)
    (htakes : s.tracker.Takes
      ((front.filterMap Section.src? ++ [src]).map (request.pathOf around))) :
    setup.StopsAtReference around request s (front.filterMap Section.src?) src := by
  obtain ⟨start, hstart, htracker, hcache, -⟩ := exists_announced around request s
  rw [List.map_append, CompileRequest.map_pathOf_srcs, ← htracker] at htakes
  cases hdoc : Document.parse request.content with
  | error reason => simp [CompileRequest.sections, hdoc] at hsections
  | ok doc =>
      rw [CompileRequest.sections_of_parse hdoc] at hsections hcount
      cases hread : around.disk.read (request.pathOf around src) with
      | ok content => exact absurd ⟨content, hread⟩ hdangling
      | error fault =>
          obtain ⟨houtcome, hemitted⟩ := Document.blocks_of_dangling request.content
            (Document.countFault?_eq_none_iff.mpr hcount) hsections hfront hsrc rfl hread
            (fun h => hnull (by rw [hread, h])) htakes
          rw [← hstrict] at houtcome hemitted
          -- The whole run; no function from outside has a part in it.
          have hrun := compile_of_failed_extraction setup hdoc hstart houtcome
          constructor
          · rw [outcome, hrun]
            rfl
          · rw [final, hrun, List.map_append, CompileRequest.map_pathOf_srcs]
            exact hemitted.trans (by rw [htracker]; rfl)
          · rw [final, hrun]
            have hkeeps : Preserves (· = s.cache)
                (doc.blocks around request.content request.filePath request.strict) :=
              Preserves.of_agree (Document.agree_blocks doc _ _ _)
            exact hkeeps start hcache
          · intro other extensions
            rw [← announce_extensions around extensions] at hstart
            rw [← Document.blocks_extensions around extensions] at houtcome hrun
            rw [hrun]
            exact compile_of_failed_extraction other hdoc hstart houtcome

/-- Being strict adds nothing to a compile but the check of its references.  If all files
that the document refers to can be read, a strict compile and any other are the same.  If one
cannot, and the document has not more than one template, the strict compile stops at the first
of those references.  By then it has emitted the paths up to this one, as far as listeners let
it, and done nothing else. -/
theorem Setup.strict_only_checks_references (setup : Setup) (around : Surroundings)
    (request : CompileRequest) (s : BuildState) :
    ((∀ src ∈ request.srcs, request.Reads around src) →
      setup.compile around (request.setStrict true) =
        setup.compile around (request.setStrict false)) ∧
    (request.sections.countP (·.kind == .template) ≤ 1 →
      (∀ src ∈ request.srcs,
        around.disk.read (request.pathOf around src) ≠ .error .nullInPath) →
      (∃ src ∈ request.srcs, ¬ request.Reads around src) →
      ∃ before src after, request.srcs = before ++ src :: after ∧
        (∀ other ∈ before, request.Reads around other) ∧ ¬ request.Reads around src ∧
        let emitted := (before ++ [src]).map (request.pathOf around)
        (s.tracker.Takes emitted →
          setup.StopsAtReference around (request.setStrict true) s before src) ∧
        (s.tracker.IsPassive → s.tracker.Takes emitted ∧
          (s.tracker.after emitted).paths = s.tracker.paths ++ emitted)) := by
  refine ⟨fun hreads => compile_of_reads around setup hreads true false, ?_⟩
  intro hcount hnull hdangling
  obtain ⟨front, part, rest, src, hsections, hfront, hsrc, hunread⟩ :=
    CompileRequest.exists_first_dangling hdangling
  have hsrcs : request.srcs =
      front.filterMap Section.src? ++ src :: rest.filterMap Section.src? := by
    rw [CompileRequest.srcs, hsections, List.filterMap_append, List.filterMap_cons_some hsrc]
  refine ⟨_, src, _, hsrcs, fun other hother => ?_, hunread, fun htakes => ?_, fun hpassive => ?_⟩
  · obtain ⟨c, hc, hother⟩ := List.mem_filterMap.mp hother
    exact hfront c hc other hother
  · have hmem : src ∈ request.srcs := by
      rw [hsrcs]
      exact List.mem_append_right _ List.mem_cons_self
    exact stopsAtReference rfl hsections hcount hfront hsrc hunread (hnull src hmem) htakes
  · have htakes := Tracker.takes_of_isPassive hpassive
      ((front.filterMap Section.src? ++ [src]).map (request.pathOf around))
    exact ⟨htakes, Tracker.paths_after_of_takes hpassive.isMute htakes⟩

/-- A style that can be read stands before a script that cannot be read and a second such
style. -/
theorem Setup.strict_stops_at_missing_script :
    let around : Surroundings :=
      { disk := { workingDirectory := "/work", files := [("/work/a.css", ".a \x7b\x7d".toUTF8)] }
        extensions := Extensions.none }
    let setup : Setup := { options := {}, registry := {} }
    let readable : CompileRequest := { content := "<style src=a.css></style><template src=a.css>" }
    let request : CompileRequest :=
      { content := "<style src=a.css></style><script src=b.js></script><style src=c.css></style>" }
    (∀ src ∈ readable.srcs, readable.Reads around src) ∧
      setup.compile around (readable.setStrict true) =
        setup.compile around (readable.setStrict false) ∧
      request.srcs = ["a.css", "b.js", "c.css"] ∧
      request.sections.countP (·.kind == .template) ≤ 1 ∧
      (∀ src ∈ request.srcs,
        around.disk.read (request.pathOf around src) ≠ .error .nullInPath) ∧
      request.Reads around "a.css" ∧ ¬ request.Reads around "b.js" ∧
      setup.StopsAtReference around (request.setStrict true) {} ["a.css"] "b.js" := by
  intro around setup readable request
  have hreadable : ∀ src ∈ readable.srcs, readable.Reads around src := by
    intro src hsrc
    have hsrcs : readable.srcs = ["a.css", "a.css"] := by decide +kernel
    obtain rfl : src = "a.css" := by simpa [hsrcs] using hsrc
    exact ⟨".a \x7b\x7d", by decide +kernel⟩
  have hsrcs : request.srcs = ["a.css", "b.js", "c.css"] := by decide +kernel
  have hcount : request.sections.countP (·.kind == .template) ≤ 1 := by decide +kernel
  have hnull : ∀ src ∈ request.srcs,
      around.disk.read (request.pathOf around src) ≠ .error .nullInPath := by decide +kernel
  have hstyle : request.Reads around "a.css" := ⟨".a \x7b\x7d", by decide +kernel⟩
  have hscript : ¬ request.Reads around "b.js" := by
    have hread : around.disk.read (request.pathOf around "b.js") =
      .error (.missing "/work/b.js") := by decide +kernel
    simp [CompileRequest.Reads, hread]
  have hdangling : ∃ src ∈ request.srcs, ¬ request.Reads around src :=
    ⟨"b.js", by simp [hsrcs], hscript⟩
  have hpassive : ({} : BuildState).tracker.IsPassive := fun _ h => absurd h List.not_mem_nil
  have hsame := (strict_only_checks_references setup around readable {}).1 hreadable
  refine ⟨hreadable, hsame, hsrcs, hcount, hnull, hstyle, hscript, ?_⟩
  obtain ⟨before, src, after, hsplit, hbefore, hunread, hstops, htaken⟩ :=
    (strict_only_checks_references setup around request {}).2 hcount hnull hdangling
  have hstop := hstops (htaken hpassive).1
  -- Only the script can be the first that is not read.
  rw [hsrcs] at hsplit
  cases before with
  | nil =>
      rw [← (List.cons.inj hsplit).1] at hunread
      exact absurd hstyle hunread
  | cons first before =>
      obtain ⟨rfl, hmore⟩ := List.cons.inj hsplit
      cases before with
      | nil =>
          rw [← (List.cons.inj hmore).1] at hstop
          exact hstop
      | cons second before =>
          rw [← (List.cons.inj hmore).1] at hbefore
          exact absurd (hbefore "b.js" (by simp)) hscript

end

end ComponentCompiler
