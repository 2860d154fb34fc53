import ComponentCompiler.Proofs.Component.Accounts
import ComponentCompiler.Proofs.Component.StyleHits

/-!
# What extracting blocks reports and warns of

The sections of a document are extracted one after the other.  Each that refers
to a file emits the path of the file before it is read, and warns if it cannot
be read.  The block that a section gives is determined by the section, the
document and the files; whether the build is strict decides only if it goes on.
-/

namespace ComponentCompiler

open Build

namespace CompileRequest

/-- The sections of a requested document; none if it cannot be parsed. -/
def sections (request : CompileRequest) : List Section :=
  match Document.parse request.content with
  | .ok doc => doc.sections
  | .error _ => []

/-- What the sections refer to, in the order of the document. -/
def srcs (request : CompileRequest) : List String := request.sections.filterMap Section.src?

/-- The path of a file that a section refers to. -/
def pathOf (request : CompileRequest) (around : Surroundings) (src : String) : String :=
  Block.referencePath around.disk.workingDirectory request.filePath src

/-- The paths of the files that the sections refer to, in the order of the document. -/
def references (request : CompileRequest) (around : Surroundings) : List String :=
  request.srcs.map (request.pathOf around)

end CompileRequest

namespace Block

/-- The warning for a reference that cannot be read. -/
def danglingWarning (src path : String) : Warning where
  kind := .reference
  message := referenceMessage src path
  path := some path

/-- The report of a strict build on a reference that cannot be read. -/
def danglingDiagnostic (filePath : Option String) (src path : String) : Diagnostic where
  kind := .reference
  message := referenceMessage src path
  suggestion := some "Check the src attribute path"
  filePath := filePath

/-- What a build does about a reference that cannot be read. -/
def skipReference (filePath : Option String) (strict : Bool) (src path : String) :
    Build String :=
  if strict then throw (.diagnostic (danglingDiagnostic filePath src path))
  else do
    Build.warn (referenceMessage src path)
    Build.addWarning (danglingWarning src path)
    pure ""

/-- What a build goes on with once a file that is referred to was read. -/
def useContent (filePath : Option String) (strict : Bool) (src path : String) :
    Except Disk.ReadFault String → Build String
  | .ok content => pure content
  | .error .nullInPath => throw (.unreadable .nullInPath)
  | .error _ => skipReference filePath strict src path

theorem loadReference_eq {around : Surroundings} {filePath : Option String} {src path : String}
    (hpath : referencePath around.disk.workingDirectory filePath src = path) (strict : Bool) :
    loadReference around filePath strict src =
      Build.report path >>= fun _ =>
        useContent filePath strict src path (around.disk.read path) := by
  rw [loadReference, hpath]
  refine bind_congr fun _ => ?_
  cases around.disk.read path with
  | ok content => rfl
  | error fault => cases fault <;> rfl

/-- The warning for what was read. -/
def contentWarning? (src path : String) : Except Disk.ReadFault String → Option Warning
  | .ok _ => none
  | .error _ => some (danglingWarning src path)

/-- What was read, nothing if it could not be. -/
def contentOf : Except Disk.ReadFault String → String
  | .ok content => content
  | .error _ => ""

/-- The path of the file that a section refers to, if it refers to one. -/
def sectionPath? (around : Surroundings) (filePath : Option String) (part : Section) :
    Option String :=
  part.src?.map (referencePath around.disk.workingDirectory filePath)

/-- The warning for a section whose file cannot be read. -/
def sectionWarning? (around : Surroundings) (filePath : Option String) (part : Section) :
    Option Warning :=
  match part.src? with
  | some src =>
      let path := referencePath around.disk.workingDirectory filePath src
      contentWarning? src path (around.disk.read path)
  | none => none

/-- The source of a section: the text of the file that it refers to, empty if that cannot
be read, or what stands in the document. -/
def sectionSource (around : Surroundings) (document : String) (filePath : Option String)
    (part : Section) : String :=
  match part.src? with
  | some src =>
      contentOf (around.disk.read (referencePath around.disk.workingDirectory filePath src))
  | none => inlineSource document part

/-- The step that gets the source of a section. -/
def loadSource (around : Surroundings) (document : String) (filePath : Option String)
    (strict : Bool) (part : Section) : Build String :=
  match part.src? with
  | some src => loadReference around filePath strict src
  | none => pure (inlineSource document part)

/-- The block of a section with this source. -/
def ofSource (part : Section) (source : String) : Block where
  kind := part.kind
  lang :=
    match part.lang? with
    | some lang => some lang
    | none => if part.kind = .script then some defaultScriptLang else none
  source := source
  src := part.src?
  isScoped := part.kind = .style && part.isScoped

theorem ofSection_eq (around : Surroundings) (document : String) (filePath : Option String)
    (strict : Bool) (part : Section) :
    ofSection around document filePath strict part =
      loadSource around document filePath strict part >>= fun source =>
        pure (ofSource part source) := by
  unfold ofSection loadSource ofSource
  cases part.src? <;> rfl

/-- The block that a section gives. -/
def extracted (around : Surroundings) (document : String) (filePath : Option String)
    (part : Section) : Block :=
  ofSource part (sectionSource around document filePath part)

/-- The step that extracts one section. -/
def extract (around : Surroundings) (document : String) (filePath : Option String)
    (strict : Bool) (part : Section) : Build Block := do
  let block ← ofSection around document filePath strict part
  Build.debug around (extractionMessage block)
  return block

section

variable {around : Surroundings} {document : String} {filePath : Option String} {strict : Bool}
variable {part : Section} {src path : String} {read : Except Disk.ReadFault String}
variable {s : BuildState}

/-! ### What a step reports and warns of -/

theorem accounts_skipReference :
    Accounts (skipReference filePath strict src path) [] [danglingWarning src path] := by
  rw [skipReference]
  split
  · exact Accounts.throw _ _
  · refine (Accounts.say _).bind_quiet fun _ _ _ => ?_
    exact (Accounts.addWarning _).bind_silent fun _ => Accounts.pure _

theorem accounts_useContent :
    Accounts (useContent filePath strict src path read) []
      (contentWarning? src path read).toList := by
  cases read with
  | ok content => exact Accounts.pure content
  | error fault =>
      cases fault with
      | nullInPath => exact Accounts.throw _ _
      | missing _ => exact accounts_skipReference
      | isDirectory _ => exact accounts_skipReference
      | undecodable => exact accounts_skipReference

theorem accounts_loadSource (around : Surroundings) (document : String)
    (filePath : Option String) (strict : Bool) (part : Section) :
    Accounts (loadSource around document filePath strict part)
      (sectionPath? around filePath part).toList (sectionWarning? around filePath part).toList := by
  rw [sectionPath?, sectionWarning?, loadSource]
  cases part.src? with
  | none => exact Accounts.pure _
  | some src =>
      dsimp only [Option.map_some, Option.toList_some]
      -- Where and what is read does not matter; left as it is, it would be computed here.
      generalize hpath : referencePath around.disk.workingDirectory filePath src = path
      rw [loadReference_eq hpath]
      generalize around.disk.read path = read
      have hused : Accounts (useContent filePath strict src path read) []
          (contentWarning? src path read).toList := accounts_useContent
      exact (Accounts.report path).bind_quiet fun _ _ _ => hused

/-- Extracting a section emits the path that it refers to, if any, and warns if the file
cannot be read. -/
theorem accounts_extract (around : Surroundings) (document : String)
    (filePath : Option String) (strict : Bool) (part : Section) :
    Accounts (extract around document filePath strict part)
      (sectionPath? around filePath part).toList (sectionWarning? around filePath part).toList := by
  rw [extract, ofSection_eq]
  refine Accounts.bind_silent ?_ fun block => ?_
  · exact (accounts_loadSource _ _ _ _ _).bind_silent fun _ => Accounts.pure _
  · exact (Accounts.debug _ _).bind_silent fun _ => Accounts.pure _

/-! ### What a step gives -/

theorem outcome_skipReference_of_ok {source : String}
    (h : (skipReference filePath strict src path).outcome s = .ok source) : source = "" := by
  rw [skipReference] at h
  split at h
  · simp at h
  · exact (Except.ok.inj h).symm

theorem outcome_useContent_of_ok {source : String}
    (h : (useContent filePath strict src path read).outcome s = .ok source) :
    source = contentOf read := by
  cases read with
  | ok content => exact (Except.ok.inj h).symm
  | error fault =>
      cases fault with
      | nullInPath => exact nomatch h
      | missing _ => exact outcome_skipReference_of_ok h
      | isDirectory _ => exact outcome_skipReference_of_ok h
      | undecodable => exact outcome_skipReference_of_ok h

theorem outcome_loadSource_of_ok {source : String}
    (h : (loadSource around document filePath strict part).outcome s = .ok source) :
    source = sectionSource around document filePath part := by
  rw [loadSource] at h
  rw [sectionSource]
  cases hsrc : part.src? with
  | none =>
      rw [hsrc] at h
      exact (Except.ok.inj h).symm
  | some src =>
      rw [hsrc] at h
      dsimp only at h
      rw [loadReference_eq rfl, outcome_bind] at h
      obtain ⟨_, _, hcontent⟩ := Result.exists_of_bind_eq_ok h
      exact outcome_useContent_of_ok hcontent

theorem outcome_extract (around : Surroundings) (document : String) (filePath : Option String)
    (strict : Bool) (part : Section) (s : BuildState) :
    (extract around document filePath strict part).outcome s =
      ((loadSource around document filePath strict part).outcome s).map (ofSource part) := by
  rw [extract, ofSection_eq, bind_assoc, outcome_bind]
  simp only [pure_bind, outcome_bind, outcome_debug]
  rfl

theorem outcome_extract_of_ok {block : Block}
    (h : (extract around document filePath strict part).outcome s = .ok block) :
    block = extracted around document filePath part := by
  rw [outcome_extract] at h
  obtain ⟨source, hsource, rfl⟩ := Result.exists_of_map_eq_ok h
  rw [extracted, outcome_loadSource_of_ok hsource]

end

end Block

/-! ## Whole documents -/

section

variable {request : CompileRequest} {around : Surroundings} {doc : Document}

theorem CompileRequest.sections_of_parse (hdoc : Document.parse request.content = .ok doc) :
    request.sections = doc.sections := by
  rw [sections, hdoc]

theorem CompileRequest.map_pathOf_srcs (front : List Section) :
    (front.filterMap Section.src?).map (request.pathOf around) =
      front.filterMap (Block.sectionPath? around request.filePath) := by
  rw [List.map_filterMap]
  rfl

end

/-- A compile begins without warnings. -/
theorem Setup.exists_announced (around : Surroundings) (request : CompileRequest)
    (s : BuildState) :
    ∃ start, announce around request s = .ok () start ∧ start.tracker = s.tracker ∧
      start.cache = s.cache ∧ start.warnings = [] := by
  unfold announce Build.debug
  split <;> exact ⟨_, rfl, rfl, rfl, rfl⟩

theorem Document.countFault?_eq_none_iff {doc : Document} {filePath : Option String} :
    doc.countFault? filePath = none ↔ doc.sections.countP (·.kind == .template) ≤ 1 := by
  rw [countFault?]
  split
  case isTrue hmany => simpa using hmany
  case isFalse hfew => simpa using Nat.le_of_not_lt hfew

theorem Document.blocks_of_countFault {around : Surroundings} {doc : Document}
    {content : String} {filePath : Option String} {strict : Bool} {fault : Diagnostic}
    (h : doc.countFault? filePath = some fault) :
    doc.blocks around content filePath strict = throw (.diagnostic fault) := by
  rw [blocks, h]

theorem Document.blocks_of_sound {around : Surroundings} {doc : Document}
    {content : String} {filePath : Option String} {strict : Bool}
    (h : doc.countFault? filePath = none) :
    doc.blocks around content filePath strict =
      doc.sections.mapM (Block.extract around content filePath strict) := by
  rw [blocks, h]
  rfl

end ComponentCompiler
