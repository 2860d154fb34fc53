import ComponentCompiler.Stylesheet.Basic

/-!
# Vendor prefixes

Some properties are still known to browsers under prefixed names only.  Each
declaration of such a property is preceded by copies under the prefixed names
that its block does not declare by itself.
-/

namespace ComponentCompiler.Stylesheet

/-- Properties and the prefixes they need. -/
abbrev PrefixTable := List (Text × List Text)

/-- The prefixes a table lists for a property name.  The table's own names are
compared in lower case, and of two entries for one name the last counts. -/
def PrefixTable.prefixes (table : PrefixTable) (name : Text) : List Text :=
  match table.reverse.find? fun entry => Text.lower entry.1 == name with
  | some entry => entry.2
  | none => []

/-- The copies of a declaration under the prefixed names that are not present,
and the names present with these copies. -/
def prefixedCopies (d : Declaration) (present : List Text) :
    List Text → List Declaration × List Text
  | [] => ([], present)
  | vendor :: rest =>
      let prefixed := vendor ++ d.name
      if prefixed ∈ present then prefixedCopies d present rest
      else
        let (copies, present') := prefixedCopies d (prefixed :: present) rest
        ({ d with prop := prefixed, semicolon := true } :: copies, present')

/-- The statements of one block with the copies before the declarations that call
for them, given the declared names. -/
def prefixStatements (table : PrefixTable) (present : List Text) : List Node → List Node
  | [] => []
  | .declaration d :: rest =>
      let (copies, present') := prefixedCopies d present (table.prefixes d.name)
      copies.map Node.declaration ++ .declaration d :: prefixStatements table present' rest
  | node :: rest => node :: prefixStatements table present rest

/-- One block with its prefixed copies. -/
def prefixBlock (table : PrefixTable) (nodes : List Node) : List Node :=
  prefixStatements table ((declarations nodes).map (·.name)) nodes

/-- The sheet with prefixed copies in all its blocks. -/
def addPrefixes (table : PrefixTable) (sheet : Stylesheet) : Stylesheet :=
  sheet.mapContainers (prefixBlock table)

end ComponentCompiler.Stylesheet
