import ComponentCompiler.Stylesheet.Basic
import ComponentCompiler.Stylesheet.Scan
import ComponentCompiler.Text.Word

/-!
# Pieces of a style sheet

Read from left to right, a style sheet is a sequence of pieces: statements
without a block, heads that open a block, and closing braces.  A piece does not
depend on the blocks around it.  The pieces and the blanks at the end, put
together, are the text, and every piece takes at least one character.
-/

namespace ComponentCompiler.Stylesheet

open Text (leading trimStart trimEnd trailing)

/-- The part of a statement with a block that stands before its opening brace. -/
inductive Head
  | rule (before selector between : Text)
  | atRule (before name params between : Text)
  deriving DecidableEq, Repr

namespace Head

/-- The text of a head, the opening brace included. -/
def render : Head → Text
  | rule before selector between => before ++ selector ++ between ++ ['\x7b']
  | atRule before name params between => before ++ '@' :: name ++ params ++ between ++ ['\x7b']

/-- The statement that a head and the content of its block make. -/
def close (nodes : List Node) (after : Text) : Head → Node
  | rule before selector between => .rule before selector between nodes after
  | atRule before name params between => .atBlock before name params between nodes after

end Head

/-- One piece of a style sheet. -/
inductive Piece
  /-- A statement without a block. -/
  | leaf (node : Node)
  | opening (head : Head)
  | closing (before : Text)

/-- The text of a piece. -/
def Piece.render : Piece → Text
  | leaf node => node.render
  | opening head => head.render
  | closing before => before ++ ['\x7d']

/-- Why a text is not a style sheet. -/
inductive Cause
  | unclosedBlock
  | unexpectedBrace
  | unclosedComment
  | invalidAtRule
  deriving DecidableEq, Repr

/-- The statement that a text without a block is: a declaration if it has a
colon in the right place. -/
def statement (before text : Text) (semicolon : Bool) : Node :=
  match colonIndex? text with
  | none => .raw before text semicolon
  | some colon =>
      let head := text.take colon
      let rest := text.drop (colon + 1)
      .declaration
        { before, prop := trimEnd head, between := trailing head ++ ':' :: leading rest,
          value := trimStart rest, semicolon }

/-- The length of the name at the start of a text, as an at-rule has it: a
letter or an underscore first, perhaps after a hyphen. -/
def atNameLength (s : Text) : Nat :=
  let hyphen := if s.head? = some '-' then 1 else 0
  match s.drop hyphen with
  | c :: rest =>
      if c.isAlpha || c == '_' then hyphen + 1 + (rest.takeWhile Text.isNameChar).length else 0
  | [] => 0

/-- What is found at the start of a text. -/
inductive Step
  | piece (p : Piece) (rest : Text)
  /-- Nothing but blanks. -/
  | finished (after : Text)
  /-- A fault, so many characters into the text. -/
  | fault (cause : Cause) (offset : Nat)

/-- The at-rule that a text begins with, after the given blanks. -/
def atStep (before s : Text) : Step :=
  let name := atNameLength (s.drop 1)
  if name = 0 then .fault .invalidAtRule before.length
  else
    let body := s.drop (1 + name)
    match scan endsHead 0 body with
    | .unclosedComment n => .fault .unclosedComment (before.length + (1 + name) + n)
    | .length n =>
        let text := body.take n
        let nameText := (s.drop 1).take name
        match body.drop n with
        | '\x7b' :: rest =>
            .piece (.opening (.atRule before nameText (trimEnd text) (trailing text))) rest
        | ';' :: rest =>
            .piece (.leaf (.atStatement before nameText (trimEnd text) (trailing text) true)) rest
        | rest =>
            .piece (.leaf (.atStatement before nameText (trimEnd text) (trailing text) false)) rest

/-- The rule or declaration that a text begins with, after the given blanks.
Blanks after a last declaration are left to the block. -/
def plainStep (before s : Text) : Step :=
  match scan endsHead 0 s with
  | .unclosedComment n => .fault .unclosedComment (before.length + n)
  | .length n =>
      let text := s.take n
      match s.drop n with
      | '\x7b' :: rest => .piece (.opening (.rule before (trimEnd text) (trailing text))) rest
      | ';' :: rest => .piece (.leaf (statement before text true)) rest
      | _ =>
          .piece (.leaf (statement before (trimEnd text) false)) (s.drop (trimEnd text).length)

/-- What a text begins with. -/
def step (s : Text) : Step :=
  let before := leading s
  match trimStart s with
  | [] => .finished before
  | c :: rest =>
      if c = '\x7d' then .piece (.closing before) rest
      else if startsComment (c :: rest) then
        match commentLength? (c :: rest) with
        | none => .fault .unclosedComment before.length
        | some n => .piece (.leaf (.comment before ((c :: rest).take n))) ((c :: rest).drop n)
      else if c = ';' then .piece (.leaf (.raw before [] true)) rest
      else if c = '@' then atStep before (c :: rest)
      else plainStep before (c :: rest)

/-- A text that does not begin with a blank is not trimmed away. -/
theorem trimEnd_ne_nil {c : Char} {rest : Text} (h : Text.isBlank c = false) :
    trimEnd (c :: rest) ≠ [] := by
  intro hnil
  have hall := Text.trimEnd_append_trailing (c :: rest)
  rw [hnil, List.nil_append] at hall
  have hmem : c ∈ trailing (c :: rest) := by rw [hall]; exact List.mem_cons_self
  rw [Text.isBlank_of_mem_trailing hmem] at h
  exact Bool.noConfusion h

theorem length_rest_of_atStep {before s rest : Text} {p : Piece} (hs : s ≠ [])
    (h : atStep before s = .piece p rest) : rest.length < s.length := by
  have hpos : 0 < s.length := List.length_pos_iff.mpr hs
  simp only [atStep] at h
  split at h
  · simp at h
  · split at h
    · simp at h
    · rename_i n _
      have key (k : Nat) {t : Text} (ht : ((s.drop (1 + atNameLength (s.drop 1))).drop n) = t) :
          t.length < s.length := by
        rw [← ht, List.length_drop, List.length_drop]
        omega
      split at h
      · rename_i hdrop
        have := key n hdrop
        simp only [Step.piece.injEq] at h
        rw [← h.2]
        simp only [List.length_cons] at this
        omega
      · rename_i hdrop
        have := key n hdrop
        simp only [Step.piece.injEq] at h
        rw [← h.2]
        simp only [List.length_cons] at this
        omega
      · simp only [Step.piece.injEq] at h
        exact key n h.2

theorem length_rest_of_plainStep {before rest tail : Text} {c : Char} {p : Piece}
    (hblank : Text.isBlank c = false) (hstop : endsHead c = false)
    (h : plainStep before (c :: tail) = .piece p rest) : rest.length < (c :: tail).length := by
  rw [plainStep] at h
  split at h
  · simp at h
  · rename_i n hscan
    have hn := scan_length_pos hstop hscan
    have key {t : Text} (ht : ((c :: tail).drop n) = t) : t.length < (c :: tail).length := by
      rw [← ht, List.length_drop]
      simp only [List.length_cons]
      omega
    dsimp only at h
    split at h
    · rename_i hdrop
      have := key hdrop
      simp only [Step.piece.injEq] at h
      rw [← h.2]
      simp only [List.length_cons] at this ⊢
      omega
    · rename_i hdrop
      have := key hdrop
      simp only [Step.piece.injEq] at h
      rw [← h.2]
      simp only [List.length_cons] at this ⊢
      omega
    · simp only [Step.piece.injEq] at h
      have htake : (c :: tail).take n = c :: tail.take (n - 1) := by
        obtain ⟨m, rfl⟩ : ∃ m, n = m + 1 := ⟨n - 1, by omega⟩
        simp
      have hne : trimEnd ((c :: tail).take n) ≠ [] := by
        rw [htake]
        exact trimEnd_ne_nil hblank
      have hpos := List.length_pos_iff.mpr hne
      rw [← h.2, List.length_drop]
      simp only [List.length_cons]
      omega

/-- Every piece takes at least one character. -/
theorem length_rest_of_step {s rest : Text} {p : Piece} (h : step s = .piece p rest) :
    rest.length < s.length := by
  have hle := Text.length_trimStart_le s
  unfold step at h
  split at h
  · simp at h
  · rename_i c tail hs
    have hblank : Text.isBlank c = false :=
      Text.isBlank_of_head?_trimStart (s := s) (by rw [hs]; rfl)
    rw [hs] at hle
    refine Nat.lt_of_lt_of_le ?_ hle
    split at h
    · simp only [Step.piece.injEq] at h
      simp [← h.2]
    · rename_i hclose
      split at h
      · split at h
        · simp at h
        · rename_i n hn
          have hpos := commentLength?_pos hn
          simp only [Step.piece.injEq] at h
          rw [← h.2, List.length_drop]
          simp only [List.length_cons]
          omega
      · split at h
        · simp only [Step.piece.injEq] at h
          simp [← h.2]
        · rename_i hsemi
          split at h
          · exact length_rest_of_atStep (by simp) h
          · by_cases hopen : c = '\x7b'
            · subst hopen
              have hscan : scan endsHead 0 ('\x7b' :: tail) = .length 0 := by
                rw [scan]
                simp [startsComment, endsHead, Text.apostrophe]
              rw [plainStep, hscan] at h
              simp only [List.take_zero, List.drop_zero, Step.piece.injEq] at h
              simp [← h.2]
            · refine length_rest_of_plainStep hblank ?_ h
              simp [endsHead, hclose, hsemi, hopen]

/-- How a sequence of pieces ends. -/
inductive Ending
  | finished (after : Text)
  /-- A fault, so many characters after the last piece. -/
  | fault (cause : Cause) (offset : Nat)
  deriving DecidableEq, Repr

/-- The pieces of a text, and what follows the last one. -/
def pieces (s : Text) : List Piece × Ending :=
  match _h : step s with
  | .piece p rest =>
      let (ps, ending) := pieces rest
      (p :: ps, ending)
  | .finished after => ([], .finished after)
  | .fault cause offset => ([], .fault cause offset)
termination_by s.length
decreasing_by exact length_rest_of_step _h

end ComponentCompiler.Stylesheet
