/-!
# Paths

Paths are texts with slashes between their parts.  They are joined and
normalised by their spelling alone, without looking at the disk: empty parts and
single dots vanish and a double dot takes the part before it away.
-/

namespace ComponentCompiler.Path

/-- The parts between the slashes. -/
def parts (path : String) : List String := path.splitToList (· == '/')

/-- The slashes a normalised path starts with: two are kept, three or more count
as one. -/
def rootSlashes (path : String) : String :=
  if path.startsWith "///" then "/"
  else if path.startsWith "//" then "//"
  else if path.startsWith "/" then "/"
  else ""

/-- One more part on a stack of normalised parts.  A double dot removes a part;
at the root it vanishes and at the start of a relative path it stays. -/
def pushPart (rooted : Bool) (stack : List String) (part : String) : List String :=
  if part == "" || part == "." then stack
  else if part == ".." then
    match stack with
    | [] => if rooted then [] else [".."]
    | top :: below => if top == ".." then ".." :: stack else below
  else part :: stack

/-- The shortest spelling of a path that does not depend on the disk. -/
def normalise (path : String) : String :=
  let root := rootSlashes path
  let stack := (parts path).foldl (pushPart (root != "")) []
  let spelled := root ++ "/".intercalate stack.reverse
  if spelled == "" then "." else spelled

/-- A path seen from a directory; an absolute path stays as it is. -/
def join (base path : String) : String :=
  if path.startsWith "/" then path
  else if base == "" || base.endsWith "/" then base ++ path
  else base ++ "/" ++ path

/-- The normalised absolute path, relative paths being seen from the working
directory. -/
def absolute (workingDirectory path : String) : String :=
  normalise (join workingDirectory path)

/-- The directory part of a path: what stands before the last slash, without
the slashes at its end unless it has nothing else. -/
def directory (path : String) : String :=
  let before := (path.toList.reverse.dropWhile (· != '/')).reverse
  let trimmed := (before.reverse.dropWhile (· == '/')).reverse
  String.ofList (if trimmed.isEmpty then before else trimmed)

/-- The directories that contain a normalised absolute path, the path itself
left out. -/
def ancestors (path : String) : List String :=
  let ps := (parts path).filter (· != "")
  (List.range ps.length).map fun n => "/" ++ "/".intercalate (ps.take n)

end ComponentCompiler.Path
