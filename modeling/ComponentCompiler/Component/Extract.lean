import ComponentCompiler.Component.Build

/-!
# Extracting blocks

Each section of a document becomes a block.  Its source is what stands inside,
without the common indentation, or the file it refers to.  A script is moved
down by as many lines as stand before it in the document, so that line numbers
in it are those of the document.
-/

namespace ComponentCompiler

namespace Block

/-- The language of scripts that name none. -/
def defaultScriptLang : String := "babel"

/-- The path of a file that a document refers to. -/
def referencePath (workingDirectory : String) (filePath : Option String) (src : String) : String :=
  let base := match filePath with
    | some path =>
        if path.isEmpty then workingDirectory
        else Path.directory (Path.absolute workingDirectory path)
    | none => workingDirectory
  Path.normalise (Path.join base src)

/-- The files that a document refers to. -/
def references (workingDirectory : String) (filePath : Option String) (doc : Document) :
    List String :=
  doc.sections.filterMap fun part => part.src?.map (referencePath workingDirectory filePath)

/-- The report on a reference that cannot be read. -/
def referenceMessage (src path : String) : String :=
  s!"Failed to load src: \"{src}\" from file: \"{path}\""

/-- Reads the file that a section refers to.  The file counts as a dependency even
if it cannot be read; then a strict build fails and any other goes on with an
empty source and a warning. -/
def loadReference (around : Surroundings) (filePath : Option String) (strict : Bool)
    (src : String) : Build String := do
  let path := referencePath around.disk.workingDirectory filePath src
  Build.report path
  match around.disk.read path with
  | .ok content => pure content
  | .error .nullInPath => throw (.unreadable .nullInPath)
  | .error _ =>
      let message := referenceMessage src path
      if strict then
        throw (.diagnostic
          { kind := .reference, message
            suggestion := some "Check the src attribute path", filePath })
      else do
        Build.warn message
        Build.addWarning { kind := .reference, message, path := some path }
        pure ""

/-- As many empty lines as stand before the first occurrence of a script in the
document. -/
def scriptPadding (document script : Text) : Text :=
  if script.isEmpty then []
  else
    match Text.indexOf? script document with
    | some start => Text.blankLines (document.take start)
    | none => []

/-- The source of a section that refers to no file. -/
def inlineSource (document : String) (part : Section) : String :=
  let inner := part.inner.toList
  let padded := if part.kind = .script then scriptPadding document.toList inner ++ inner else inner
  String.ofList (Text.dedent padded)

/-- The block of a section. -/
def ofSection (around : Surroundings) (document : String) (filePath : Option String)
    (strict : Bool) (part : Section) : Build Block := do
  let lang := match part.lang? with
    | some lang => some lang
    | none => if part.kind = .script then some defaultScriptLang else none
  let source ← match part.src? with
    | some src => loadReference around filePath strict src
    | none => pure (inlineSource document part)
  return { kind := part.kind, lang, source, src := part.src?
           isScoped := part.kind = .style && part.isScoped }

/-- The line that tells of an extracted block. -/
def extractionMessage (block : Block) : String :=
  let kind := block.kind.name
  let lang := block.lang.getD "None"
  s!"Extracted {kind} block (lang={lang}, {block.source.length} chars)"

end Block

/-- The blocks of a document in its order.  A document with more than one template
is refused before anything is read. -/
def Document.blocks (around : Surroundings) (doc : Document) (content : String)
    (filePath : Option String) (strict : Bool) : Build (List Block) := do
  match doc.countFault? filePath with
  | some fault => throw (.diagnostic fault)
  | none =>
      doc.sections.mapM fun part => do
        let block ← Block.ofSection around content filePath strict part
        Build.debug around (Block.extractionMessage block)
        return block

end ComponentCompiler
