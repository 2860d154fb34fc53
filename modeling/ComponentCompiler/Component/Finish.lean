import ComponentCompiler.Component.Build
import ComponentCompiler.Stylesheet.Parse
import ComponentCompiler.Stylesheet.Prefix
import ComponentCompiler.Stylesheet.Scope

/-!
# Finishing styles

A compiled style block passes through stages: the configured ones, then scoping
if the block is scoped, then vendor prefixes unless they are switched off.  The
result is kept in a cache under the scope, the source and whether it is scoped.
Without any stage the source is the result.
-/

namespace ComponentCompiler

/-- One change to a style sheet. -/
inductive StyleStage
  | custom (function : Function)
  | scope
  | prefixes (properties : Settings.PrefixedProperties)
  deriving DecidableEq, Repr

namespace StyleStage

/-- Properties and prefixes as the style sheet stage takes them. -/
def prefixTable (properties : Settings.PrefixedProperties) : Stylesheet.PrefixTable :=
  properties.map fun (name, vendors) => (name.toList, vendors.map (·.toList))

/-- The stages for a block, in order. -/
def stages (options : Settings.Options) (isScoped : Bool) : List StyleStage :=
  options.styleStages.map custom ++ (if isScoped then [scope] else []) ++
    match options.autoprefixer.properties? with
    | some properties => [prefixes properties]
    | none => []

/-- Applies one stage. -/
def apply (around : Surroundings) (context : StageContext) (sheet : Stylesheet) :
    StyleStage → Build Stylesheet
  | custom function => Build.ofRun (around.extensions.stage function sheet context)
  | scope =>
      match sheet.scope context.scopeId.toList with
      | .ok sheet => pure sheet
      | .error invalid => throw (.diagnostic (invalid.diagnostic context.filePath))
  | prefixes properties => pure (sheet.addPrefixes (prefixTable properties))

/-- Applies stages one after the other. -/
def applyAll (around : Surroundings) (context : StageContext) (sheet : Stylesheet) :
    List StyleStage → Build Stylesheet
  | [] => pure sheet
  | stage :: rest => do
      let sheet ← stage.apply around context sheet
      applyAll around context sheet rest

end StyleStage

/-- The style source after all stages, the cache left out of account. -/
def finishAfresh (around : Surroundings) (options : Settings.Options) (key : StyleKey)
    (filePath : Option String) : Build String :=
  let stages := StyleStage.stages options key.isScoped
  if stages.isEmpty then pure key.css
  else
    match Stylesheet.parse key.css.toList with
    | .error fault => throw (.diagnostic (fault.diagnostic key.css.toList filePath))
    | .ok sheet => do
        let sheet ← StyleStage.applyAll around ⟨key.scopeId, filePath, options⟩ sheet stages
        return String.ofList sheet.render

/-- Changes the size of the cache. -/
def Build.resizeCache (size : Int) : Build Unit := do
  modify fun s => { s with cache := s.cache.resize size }
  if (← get).cache.isOverdrawn then throw .cacheOverdrawn

/-- The finished style block, from the cache if it is there. -/
def finishStyle (around : Surroundings) (options : Settings.Options) (key : StyleKey)
    (filePath : Option String) : Build CompiledBlock := do
  let (found, cache) := (← get).cache.get key
  modify fun s => { s with cache }
  match found with
  | some block => do
      Build.debug around s!"Style cache hit for {key.scopeId}"
      return block
  | none => do
      let source ← finishAfresh around options key filePath
      let block : CompiledBlock := ⟨.style, source⟩
      modify fun s => { s with cache := s.cache.set key (some block) }
      if (← get).cache.isOverdrawn then throw .cacheOverdrawn
      return block

end ComponentCompiler
