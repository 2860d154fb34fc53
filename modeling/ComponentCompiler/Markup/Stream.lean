import ComponentCompiler.Markup.Token

/-!
# The token stream of a document

A document is read in two passes of one loop.  The first pass stops at a
construct that is not complete, because more text could follow; the second takes
up from there, and knows that no more text follows: an incomplete construct is
then text.  A doubtful reference stops either pass, so that all text after it is
plain.
-/

namespace ComponentCompiler.Markup

/-- Whether a text begins with the end tag of a raw text element; letter case
and blanks inside the tag do not matter. -/
def beginsRawEnd (name s : Text) : Bool :=
  match s with
  | '<' :: '/' :: rest =>
      let inner := rest.dropWhile Text.isBlank
      let written := inner.take name.length
      written.length == name.length && (name.zip written).all (fun (l, c) => Text.sameLetter l c) &&
        ((inner.drop name.length).dropWhile Text.isBlank).head? == some '>'
  | _ => false

/-- Where the end tag of a raw text element begins. -/
def rawEndIndex? (name : Text) : Text → Option Nat
  | [] => none
  | c :: rest =>
      if beginsRawEnd name (c :: rest) then some 0 else (rawEndIndex? name rest).map (· + 1)

/-- Where the next construct begins: a tag or a reference, in raw text only the
end tag of its element. -/
def nextConstruct? (mode : RawMode) (s : Text) : Option Nat :=
  match mode with
  | none => s.findIdx? fun c => c == '<' || c == '&'
  | some name => rawEndIndex? name s

/-- The construct that begins with a less-than sign.  A lone one is text. -/
def constructAt (mode : RawMode) (s : Text) : Construct :=
  match s.drop 1 with
  | [] => .incomplete
  | c :: _ =>
      if c.isAlpha then startTag s
      else if c = '/' then endTag mode s
      else if c = '?' then instructionAt mode s
      else if c = '!' then declarationAt mode s
      else .complete [.text ['<']] 1 mode

theorem length_pos_of_bogusComment {mode mode' : RawMode} {s : Text} {tokens : List Token}
    {n : Nat} (h : bogusComment mode s = .complete tokens n mode') : 0 < n := by
  unfold bogusComment at h
  split at h <;> simp at h
  omega

theorem length_pos_of_startTag {mode' : RawMode} {s : Text} {tokens : List Token} {n : Nat}
    (h : startTag s = .complete tokens n mode') : 0 < n := by
  simp only [startTag] at h
  repeat' split at h
  all_goals simp only [Construct.complete.injEq, reduceCtorEq] at h <;> omega

theorem length_pos_of_endTag {mode mode' : RawMode} {s : Text} {tokens : List Token} {n : Nat}
    (h : endTag mode s = .complete tokens n mode') : 0 < n := by
  simp only [endTag] at h
  repeat' split at h
  all_goals first
    | exact length_pos_of_bogusComment h
    | (simp only [Construct.complete.injEq, reduceCtorEq] at h <;> omega)

theorem length_pos_of_declarationAt {mode mode' : RawMode} {s : Text} {tokens : List Token}
    {n : Nat} (h : declarationAt mode s = .complete tokens n mode') : 0 < n := by
  simp only [declarationAt, commentAt, markedSection] at h
  repeat' split at h
  all_goals first
    | exact length_pos_of_bogusComment h
    | (simp only [Construct.complete.injEq, reduceCtorEq] at h <;> omega)

/-- A complete construct takes at least one character. -/
theorem length_pos_of_constructAt {mode mode' : RawMode} {s : Text} {tokens : List Token} {n : Nat}
    (h : constructAt mode s = .complete tokens n mode') : 0 < n := by
  unfold constructAt at h
  split at h
  · simp at h
  · split at h
    · exact length_pos_of_startTag h
    · split at h
      · exact length_pos_of_endTag h
      · split at h
        · simp only [instructionAt] at h
          split at h <;> simp at h
          omega
        · split at h
          · exact length_pos_of_declarationAt h
          · simp only [Construct.complete.injEq] at h
            omega

/-- How many characters of an incomplete construct become text once it is known
that no more text follows: up to its greater-than sign, or else up to the next
less-than sign, or else one. -/
def spoiltLength (s : Text) : Nat :=
  match (s.drop 1).findIdx? (· == '>') with
  | some n => n + 2
  | none =>
      match (s.drop 1).findIdx? (· == '<') with
      | some n => n + 1
      | none => 1

/-- The numbered reference that a text begins with: its character and how many
characters it takes.  Another character than a hexadecimal digit has to follow
its digits; a semicolon belongs to the reference. -/
def numberedReference? (s : Text) : Option (Char × Nat) :=
  let body := s.drop 2
  let digits := body.takeWhile Char.isDigit
  let finish (base : Nat) (written : Text) (length : Nat) : Option (Char × Nat) :=
    match s.drop length with
    | [] => none
    | c :: _ =>
        if isHexDigit c then none
        else
          let taken := if c = ';' then length + 1 else length
          some (numberedCharacter (numberOf base written), taken)
  if digits ≠ [] then finish 10 digits (2 + digits.length)
  else
    match body with
    | x :: more =>
        let hex := more.takeWhile isHexDigit
        if (x = 'x' ∨ x = 'X') ∧ hex ≠ [] then finish 16 hex (3 + hex.length) else none
    | [] => none

/-- The named reference that a text begins with: its name and how many
characters it takes.  A character that is no letter or digit has to follow the
name; a semicolon belongs to the reference. -/
def namedReference? (s : Text) : Option (Text × Nat) :=
  let body := s.drop 1
  match body with
  | [] => none
  | c :: _ =>
      if c.isAlpha then
        let name := body.takeWhile fun d => d.isAlphanum || d == '-' || d == '.'
        match body.drop name.length with
        | d :: _ => some (name, if d = ';' then name.length + 2 else name.length + 1)
        | [] =>
            let shorter := (name.reverse.dropWhile Char.isAlphanum).reverse.dropLast
            if shorter = [] then none else some (shorter, shorter.length + 1)
      else none

theorem length_pos_of_numberedReference? {s : Text} {c : Char} {n : Nat}
    (h : numberedReference? s = some (c, n)) : 0 < n := by
  simp only [numberedReference?] at h
  repeat' split at h
  all_goals simp only [Option.some.injEq, Prod.mk.injEq, reduceCtorEq] at h <;> omega

theorem length_pos_of_namedReference? {s name : Text} {n : Nat}
    (h : namedReference? s = some (name, n)) : 0 < n := by
  simp only [namedReference?] at h
  repeat' split at h
  all_goals simp only [Option.some.injEq, Prod.mk.injEq, reduceCtorEq] at h <;> omega

/-- What one turn of the loop does with a text that is not empty. -/
inductive Turn
  /-- Go on after so many characters, which are at least one. -/
  | advance (tokens : List Token) (length : Nat) (mode : RawMode)
  /-- The pass ends after so many characters. -/
  | stop (tokens : List Token) (length : Nat)
  | rejected (reason : Rejection)

/-- The turn at an ampersand. -/
def referenceTurn (final : Bool) (mode : RawMode) (s : Text) : Turn :=
  if s.take 2 = ['&', '#'] then
    match numberedReference? s with
    | some (c, n) =>
        match oversizedNumber? (s.drop 2) with
        | some digits => .rejected (.longNumber digits)
        | none => .advance [.text [c]] n mode
    | none => if s.contains ';' then .stop [.text ['&', '#']] 2 else .stop [] 0
  else
    match namedReference? s with
    | some (name, n) => .advance [.text ((namedText? name).getD ('&' :: name))] n mode
    | none =>
        match s.drop 1 with
        | [] => .stop [] 0
        | c :: rest =>
            if c.isAlpha then if final && rest.isEmpty then .stop [] 1 else .stop [] 0
            else .advance [.text ['&']] 1 mode

/-- The turn at the start of a construct. -/
def constructTurn (final : Bool) (mode : RawMode) (s : Text) : Turn :=
  if s.head? = some '&' then referenceTurn final mode s
  else
    match constructAt mode s with
    | .complete tokens n mode => .advance tokens n mode
    | .incomplete =>
        if final ∧ s.length ≠ 1 then
          .advance [.text (s.take (spoiltLength s))] (spoiltLength s) mode
        else .stop [] 0
    | .rejected reason => .rejected reason

theorem spoiltLength_pos (s : Text) : 0 < spoiltLength s := by
  unfold spoiltLength
  split
  · omega
  · split <;> omega

/-- An advancing turn takes at least one character. -/
theorem length_pos_of_constructTurn {final : Bool} {mode mode' : RawMode} {s : Text}
    {tokens : List Token} {n : Nat} (h : constructTurn final mode s = .advance tokens n mode') :
    0 < n := by
  unfold constructTurn at h
  split at h
  · unfold referenceTurn at h
    split at h
    · split at h
      · rename_i hr
        have := length_pos_of_numberedReference? hr
        split at h <;> simp only [Turn.advance.injEq, reduceCtorEq] at h
        omega
      · split at h <;> simp at h
    · split at h
      · rename_i hr
        simp only [Turn.advance.injEq] at h
        have := length_pos_of_namedReference? hr
        omega
      · repeat' split at h
        all_goals simp only [Turn.advance.injEq, reduceCtorEq] at h <;> omega
  · split at h
    · rename_i hc
      simp only [Turn.advance.injEq] at h
      have := length_pos_of_constructAt hc
      omega
    · split at h
      · simp only [Turn.advance.injEq] at h
        have := spoiltLength_pos s
        omega
      · simp at h
    · simp at h

/-- A text token for a run of text, if there is any. -/
def textTokens (s : Text) : List Token := if s.isEmpty then [] else [.text s]

/-- One pass over a text: the tokens, the raw text mode at the end, and the text
that is left. -/
def pass (final : Bool) (mode : RawMode) (s : Text) :
    Except Rejection (List Token × RawMode × Text) :=
  if s.isEmpty then .ok ([], mode, [])
  else
    match nextConstruct? mode s with
    | none => if mode.isSome then .ok ([], mode, s) else .ok ([.text s], none, [])
    | some start =>
        let before := textTokens (s.take start)
        match _h : constructTurn final mode (s.drop start) with
        | .advance tokens n mode' => do
            let (more, last, rest) ← pass final mode' (s.drop (start + n))
            return (before ++ tokens ++ more, last, rest)
        | .stop tokens n => .ok (before ++ tokens, mode, s.drop (start + n))
        | .rejected reason => .error reason
termination_by s.length
decreasing_by
  have hpos := length_pos_of_constructTurn _h
  have hne : s.length ≠ 0 := by simp_all
  simp only [List.length_drop]
  omega

/-- The tokens of a document.  Raw text that is never ended is dropped. -/
def tokens (s : Text) : Except Rejection (List Token) := do
  let (first, mode, rest) ← pass false none s
  let (second, mode, rest) ← pass true mode rest
  return first ++ second ++ (if mode.isNone then textTokens rest else [])

end ComponentCompiler.Markup
