/-!
# Console lines

What a compile says on the side is written line by line, each line with a label
in colour.  The lines are kept apart from the compiled output.
-/

namespace ComponentCompiler.Console

/-- Ends all colours. -/
def plain : String := "\x1b[0m"

/-- A line of information. -/
def info (message : String) : String :=
  "\x1b[92m\x1b[1mINFO:" ++ plain ++ " " ++ message ++ "\n"

/-- A line about a problem that does not stop the compile. -/
def warning (message : String) : String :=
  "\x1b[93m\x1b[1mWARN:" ++ plain ++ " " ++ message ++ "\n"

/-- A line for those who want to follow the compile. -/
def debug (message : String) : String :=
  "\x1b[94mDEBUG:" ++ plain ++ " " ++ message ++ "\n"

end ComponentCompiler.Console
