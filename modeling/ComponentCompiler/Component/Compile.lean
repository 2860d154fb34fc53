import ComponentCompiler.Component.Extract
import ComponentCompiler.Component.Module
import ComponentCompiler.Component.Finish
import ComponentCompiler.Component.Request

/-!
# Compiling a component

A document is parsed, all its blocks are extracted, each block is compiled by
its language, and the results are put together to one module.  Templates are
checked first and may be scoped and shrunk; styles are finished.
-/

namespace ComponentCompiler

namespace Build

/-- The report on a language compiler that gives something else than text. -/
def notTextDiagnostic (lang typeName : String) (filePath : Option String) : Diagnostic where
  kind := .language
  message := s!"Compiler for lang=\"{lang}\" returned {typeName} instead of text"
  suggestion := some "Language compilers must return the compiled source as a string"
  filePath := filePath

/-- The compiled form of a source in some language.  Languages without a compiler
stay as they are. -/
def compileBlock (around : Surroundings) (registry : Registry) (kind : BlockKind)
    (source : String) (lang filePath : Option String) : Build CompiledBlock :=
  match lang, registry.compiler? lang with
  | some tag, some function => do
      Build.debug around s!"Compiling {kind.name} block with lang=\"{tag}\""
      let run := around.extensions.compile function source filePath
      run.reports.forM Build.report
      match run.outcome with
      | .error failure => throw (.ofExtension failure)
      | .ok (.other typeName) => throw (.diagnostic (notTextDiagnostic tag typeName filePath))
      | .ok (.text compiled) => return ⟨kind, compiled⟩
  | _, _ => pure ⟨kind, source⟩

/-- Lets the configured validator check a template.  Each of its messages becomes
a warning. -/
def validateTemplate (around : Surroundings) (options : Settings.Options)
    (part : Option Section) (content : String) (filePath : Option String) :
    Build (List Value) :=
  match options.validator with
  | none => pure []
  | some validator => do
      let messages ← Build.ofRun (around.extensions.validate validator part content)
      messages.forM fun message => do
        Build.warn s!"Error in {pathOrInput filePath}:\n{message.display}"
        Build.addWarning { kind := .validation, message := message.display, path := filePath }
      return messages

/-- The shrunk form of a template; none if the minifier gives nothing. -/
def minifyTemplate (around : Surroundings) (options : Settings.Options) (template : String) :
    Build (Option String) :=
  match options.minifier with
  | none => pure (some template)
  | some minifier =>
      Build.ofRun (around.extensions.minify minifier template options.minifierSettings)

/-- A template with the scope on each of its elements.  A scope without a name cannot
be put on an element. -/
def markTemplate (template : String) (scopeId? : Option String) : Build String :=
  match Document.parse template, scopeId? with
  | .error reason, _ => throw (.rejectedMarkup reason)
  | .ok doc, some scopeId => return doc.withAttribute scopeId
  | .ok doc, none => if doc.hasElement then throw .unnamedScope else return doc.render

end Build

/-- What a compile is configured with. -/
structure Setup where
  options : Settings.Options
  registry : Registry
  /-- Whether the size of the cache is that which the options give. -/
  cacheFollowsOptions : Bool := false

namespace Setup

/-- Compiles a template. -/
def compileTemplate (setup : Setup) (around : Surroundings) (request : CompileRequest)
    (doc : Document) (scopeId? : Option String) (block : Block) : Build Module.Part := do
  match block.lang, doc.template? with
  | none, some part =>
      discard <| Build.validateTemplate around setup.options (some part) request.content
        request.filePath
  | _, _ => pure ()
  let compiled ←
    Build.compileBlock around setup.registry .template block.source block.lang request.filePath
  let marked ←
    if doc.hasScopedStyle && setup.options.scopeTemplate then
      Build.markTemplate compiled.source scopeId?
    else pure compiled.source
  let final ←
    if setup.options.production then Build.minifyTemplate around setup.options marked
    else pure (some marked)
  match final with
  | some source => return .block ⟨.template, source⟩
  | none => return .missingTemplate

/-- Lets a cache that follows the options take their size. -/
def adjustCache (setup : Setup) : Build Unit := do
  if setup.cacheFollowsOptions && (← get).cache.maxSize != setup.options.cacheSize then
    Build.resizeCache setup.options.cacheSize

/-- Finishes a compiled style. -/
def finishStyle (setup : Setup) (around : Surroundings) (key : StyleKey)
    (filePath : Option String) : Build CompiledBlock := do
  setup.adjustCache
  ComponentCompiler.finishStyle around setup.options key filePath

/-- Compiles a style block.  Finished styles are known by their scope, so that it needs
a name. -/
def compileStyle (setup : Setup) (around : Surroundings) (filePath : Option String)
    (scopeId? : Option String) (block : Block) : Build CompiledBlock := do
  let compiled ←
    Build.compileBlock around setup.registry .style block.source block.lang filePath
  match scopeId? with
  | some scopeId =>
      setup.finishStyle around ⟨scopeId, compiled.source, block.isScoped⟩ filePath
  | none => do
      setup.adjustCache
      throw .unnamedScope

/-- Compiles one block. -/
def compilePart (setup : Setup) (around : Surroundings) (request : CompileRequest)
    (doc : Document) (scopeId? : Option String) (block : Block) : Build Module.Part :=
  match block.kind with
  | .template => setup.compileTemplate around request doc scopeId? block
  | .style => do
      return .block (← setup.compileStyle around request.filePath scopeId? block)
  | .script => do
      return .block (← Build.compileBlock around setup.registry .script block.source block.lang
        request.filePath)

/-- Compiles a document to a module.  All blocks are extracted before the first
one is compiled; the result bears the name of the scope. -/
def compile (setup : Setup) (around : Surroundings) (request : CompileRequest) :
    Build CompileResult := do
  modify fun s => { s with warnings := [] }
  let scopeId? := request.scopeId?
  let shown := scopeId?.getD "[]"
  Build.debug around s!"Compiling {pathOrInput request.filePath} (scope {shown})"
  match Document.parse request.content with
  | .error reason => throw (.rejectedMarkup reason)
  | .ok doc => do
      let blocks ← doc.blocks around request.content request.filePath request.strict
      let parts ← blocks.mapM (setup.compilePart around request doc scopeId?)
      let s ← get
      match scopeId? with
      | some scopeId =>
          return { code := Module.assemble parts, scopeId
                   dependencies := s.tracker.paths, warnings := s.warnings }
      | none => throw .unnamedResult

/-- Reads a document from disk and compiles it. -/
def compileFile (setup : Setup) (around : Surroundings) (path : String)
    (scope : ScopeChoice) (strict : Bool) : Build CompileResult := do
  let absolute := Path.absolute around.disk.workingDirectory path
  match around.disk.read absolute with
  | .error fault => throw (.unreadable fault)
  | .ok content =>
      setup.compile around { content, filePath := some absolute, scope, strict }

end Setup

end ComponentCompiler
