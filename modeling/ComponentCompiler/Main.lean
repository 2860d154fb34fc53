import ComponentCompiler.CommandLine.Run

/-!
# The program

The program looks at the files that its arguments lead to, runs once on this
snapshot, and writes what the run gives.  It brings no functions and no
configuration modules of its own; whoever embeds the library supplies these.
-/

namespace ComponentCompiler.CommandLine

/-- The snapshot with one more file, if there is such a file. -/
def addFile (disk : Disk) (path : String) : IO Disk := do
  try
    let bytes ← IO.FS.readBinFile path
    return { disk with files := Entries.set disk.files (disk.key path) bytes }
  catch _ => return disk

/-- The snapshot with the files that a component refers to. -/
def addReferences (disk : Disk) (content : String) (filePath : Option String) : IO Disk :=
  match Document.parse content with
  | .error _ => return disk
  | .ok doc => (Block.references disk.workingDirectory filePath doc).foldlM addFile disk

/-- The snapshot that a component needs, and the standard input as far as it is
asked for. -/
def gather (disk : Disk) (source : String) : IO (Disk × String) := do
  if source == standardInputName then
    let stdin ← (← IO.getStdin).readToEnd
    return (← addReferences disk stdin none, stdin)
  else
    let disk ← addFile disk source
    match disk.read source with
    | .error _ => return (disk, "")
    | .ok content =>
        let path := Path.absolute disk.workingDirectory source
        return (← addReferences disk content (some path), "")

/-- Writes the files of a run. -/
def store (written : Entries String) : IO Unit :=
  written.forM fun (path, text) => do
    IO.FS.createDirAll (Path.directory path)
    IO.FS.writeFile path text

end ComponentCompiler.CommandLine

open ComponentCompiler ComponentCompiler.CommandLine

/-- Runs the program. -/
def main (arguments : List String) : IO UInt32 := do
  let production := Settings.productionFromEnvironment
    (← IO.getEnv "VUEIFY_ENV") (← IO.getEnv "NODE_ENV")
  let disk : Disk := { workingDirectory := (← IO.currentDir).toString }
  let (disk, stdin) ← match Invocation.read arguments with
    | .ok { command := some command, .. } => gather disk command.source
    | _ => pure (disk, "")
  let session : Session := { disk, extensions := Extensions.none, options := { production } }
  let outcome := session.run arguments stdin
  store outcome.written
  IO.print outcome.stdout
  IO.eprint outcome.stderr
  match outcome.stop with
  | none => return 0
  | some stop => do
      if let some message := stop.message? then IO.eprintln message
      return UInt32.ofNat stop.exitCode
