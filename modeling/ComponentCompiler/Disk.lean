import ComponentCompiler.Path
import ComponentCompiler.Settings.Value

/-!
# The disk

The files that a compile can see, as a snapshot.  Files hold bytes; reading one
decodes them and turns every line ending into a line feed.  Configuration
modules are files too, but they are not read as text: what counts of them is the
variables they define.
-/

namespace ComponentCompiler

/-- Files and configuration modules by normalised absolute path. -/
structure Disk where
  workingDirectory : String
  files : Entries ByteArray := []
  modules : Entries (Entries Value) := []

namespace Disk

/-- Why a file is not read. -/
inductive ReadFault
  | missing (path : String)
  | isDirectory (path : String)
  /-- The bytes are no text. -/
  | undecodable
  /-- The path has a null character in it. -/
  | nullInPath
  deriving DecidableEq, Repr

/-- Why a file is not read, in words. -/
def ReadFault.message : ReadFault → String
  | missing path => "[Errno 2] No such file or directory: " ++ Value.inspectText path
  | isDirectory path => "[Errno 21] Is a directory: " ++ Value.inspectText path
  | undecodable => "invalid utf-8"
  | nullInPath => "embedded null byte"

/-- The key under which a path is looked up. -/
def keyOf (workingDirectory path : String) : String :=
  let absolute := Path.absolute workingDirectory path
  if absolute.startsWith "//" then String.ofList (absolute.toList.drop 1) else absolute

/-- The key of a path. -/
def key (disk : Disk) (path : String) : String := keyOf disk.workingDirectory path

/-- Whether a key is that of a directory: the working directory, or one that
contains it, a file or a module. -/
def isDirectoryKey (disk : Disk) (key : String) : Bool :=
  let here := disk.key "."
  key == here || (here :: (disk.files.map (·.1) ++ disk.modules.map (·.1))).any fun path =>
    (Path.ancestors path).contains key

/-- Whether there is a file, a module or a directory of this path. -/
def contains (disk : Disk) (path : String) : Bool :=
  let key := disk.key path
  !path.toList.contains '\x00' &&
    ((Entries.get? disk.files key).isSome || (Entries.get? disk.modules key).isSome ||
      disk.isDirectoryKey key)

/-- A text with line feeds for all line endings. -/
def unifyLineEndings : List Char → List Char
  | '\r' :: '\n' :: rest => '\n' :: unifyLineEndings rest
  | '\r' :: rest => '\n' :: unifyLineEndings rest
  | c :: rest => c :: unifyLineEndings rest
  | [] => []

/-- Reads a text file. -/
def read (disk : Disk) (path : String) : Except ReadFault String :=
  if path.toList.contains '\x00' then .error .nullInPath
  else
    let key := disk.key path
    match Entries.get? disk.files key with
    | some bytes =>
        match String.fromUTF8? bytes with
        | some s => .ok (String.ofList (unifyLineEndings s.toList))
        | none => .error .undecodable
    | none => .error (if disk.isDirectoryKey key then .isDirectory path else .missing path)

/-- Writes a text file.  Directories on the way are made as needed. -/
def write (disk : Disk) (path content : String) : Except ReadFault Disk :=
  if path.toList.contains '\x00' then .error .nullInPath
  else
    let key := disk.key path
    if (Entries.get? disk.files key).isNone && disk.isDirectoryKey key then
      .error (.isDirectory path)
    else .ok { disk with files := Entries.set disk.files key content.toUTF8 }

end Disk

end ComponentCompiler
