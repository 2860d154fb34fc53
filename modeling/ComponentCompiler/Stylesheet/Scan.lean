import ComponentCompiler.Text.Basic

/-!
# Scanning style text

The scanner finds where a statement ends.  It passes over escapes, strings and
comments as units and counts brackets.  All functions answer with a number of
characters; a backslash takes the character after it along, so after a final
backslash the number is one more than there are characters.
-/

namespace ComponentCompiler.Stylesheet

/-- How many characters of a string follow its opening quotation mark, the
closing one included.  A line feed ends the string without belonging to it. -/
def stringTailLength (quote : Char) : Text → Nat
  | [] => 0
  | '\\' :: [] => 2
  | '\\' :: _ :: rest => stringTailLength quote rest + 2
  | c :: rest =>
      if c = quote then 1 else if c = '\n' then 0 else stringTailLength quote rest + 1

/-- How many characters the comment takes that a text begins with; none if it is
not closed.  The closing delimiter does not share its asterisk with the opening
one. -/
def commentLength? (s : Text) : Option Nat :=
  (Text.endOfFirst? ['*', '/'] (s.drop 2)).map (· + 2)

/-- Whether a comment begins here. -/
def startsComment (s : Text) : Bool := ['/', '*'].isPrefixOf s

/-- The result of looking for a stop. -/
inductive Scan
  /-- So many characters stand before the stop, or before the end of the text. -/
  | length (n : Nat)
  /-- A comment that begins after so many characters is not closed. -/
  | unclosedComment (n : Nat)
  deriving DecidableEq, Repr

/-- The result seen from further ahead of the text. -/
def Scan.shift (k : Nat) : Scan → Scan
  | length n => length (n + k)
  | unclosedComment n => unclosedComment (n + k)

/-- Looks for the first stop outside brackets, strings and comments; `depth`
counts the open brackets.  A closing bracket without an opening one is passed
over, and brackets themselves never stop. -/
def scan (stop : Char → Bool) (depth : Nat) (s : Text) : Scan :=
  match s with
  | [] => .length 0
  | c :: rest =>
      if c = '\\' then (scan stop depth (rest.drop 1)).shift 2
      else if c = '"' ∨ c = Text.apostrophe then
        let n := stringTailLength c rest
        (scan stop depth (rest.drop n)).shift (n + 1)
      else if startsComment (c :: rest) then
        match commentLength? (c :: rest) with
        | none => .unclosedComment 0
        | some n => (scan stop depth (rest.drop (n - 1))).shift n
      else if c = '(' ∨ c = '[' then (scan stop (depth + 1) rest).shift 1
      else if c = ')' ∨ c = ']' then (scan stop (depth - 1) rest).shift 1
      else if depth = 0 ∧ stop c then .length 0
      else (scan stop depth rest).shift 1
termination_by s.length
decreasing_by all_goals (simp_wf; try omega)

/-- The characters that end the head of a statement. -/
def endsHead (c : Char) : Bool := c == '\x7b' || c == ';' || c == '\x7d'

/-- Where the colon of a declaration stands.  A quotation mark, a parenthesis or
a slash before it means that the text is no declaration. -/
def colonIndex? : Text → Option Nat
  | [] => none
  | c :: rest =>
      if c = ':' then some 0
      else if c = '"' ∨ c = Text.apostrophe ∨ c = '(' ∨ c = '/' then none
      else (colonIndex? rest).map (· + 1)

theorem commentLength?_pos {s : Text} {n : Nat} (h : commentLength? s = some n) : 0 < n := by
  obtain ⟨m, _, rfl⟩ := Option.map_eq_some_iff.mp h
  omega

/-- The scanner moves on unless it stands at a stop. -/
theorem scan_length_pos {stop : Char → Bool} {c : Char} {rest : Text} {n : Nat}
    (hstop : stop c = false) (h : scan stop 0 (c :: rest) = .length n) : 0 < n := by
  have shifted {r : Scan} {k : Nat} (hk : 0 < k) (hr : r.shift k = .length n) : 0 < n := by
    cases r with
    | length m => simp only [Scan.shift, Scan.length.injEq] at hr; omega
    | unclosedComment m => simp [Scan.shift] at hr
  rw [scan] at h
  split at h
  · exact shifted (by omega) h
  · split at h
    · exact shifted (by omega) h
    · split at h
      · split at h
        · simp at h
        · rename_i hm
          exact shifted (commentLength?_pos hm) h
      · split at h
        · exact shifted (by omega) h
        · split at h
          · exact shifted (by omega) h
          · split at h
            · simp_all
            · exact shifted (by omega) h

end ComponentCompiler.Stylesheet
