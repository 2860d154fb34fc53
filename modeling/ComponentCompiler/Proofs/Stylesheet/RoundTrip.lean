import ComponentCompiler.Stylesheet.Parse

/-!
# Writing back what was read

The pieces of a text tile it: each piece ends where the next one begins, and
what is left after the last one are the blanks at the end.  Assembling the
pieces only nests them, so a style sheet that was read is written back to
exactly the text it was read from.
-/

namespace ComponentCompiler.Stylesheet

open Text (leading trimStart trimEnd trailing)

/-! ## What one piece takes -/

/-- The colon of a declaration stands where it was found. -/
theorem take_append_colon_drop {text : Text} {colon : Nat}
    (hcolon : colonIndex? text = some colon) :
    text.take colon ++ ':' :: text.drop (colon + 1) = text := by
  induction text generalizing colon with
  | nil => simp [colonIndex?] at hcolon
  | cons c rest ih =>
      rw [colonIndex?] at hcolon
      split at hcolon
      · rename_i hc
        obtain rfl := Option.some.inj hcolon
        simp [hc]
      · split at hcolon
        · simp at hcolon
        · obtain ⟨index, hindex, rfl⟩ := Option.map_eq_some_iff.mp hcolon
          simpa using ih hindex

/-- Cutting a declaration at its colon and trimming both halves drops nothing. -/
theorem render_statement (before text : Text) (semicolon : Bool) :
    (statement before text semicolon).render =
      before ++ text ++ semicolonText semicolon := by
  rw [statement]
  cases hcolon : colonIndex? text with
  | none => rfl
  | some colon =>
      have hhead := Text.trimEnd_append_trailing (text.take colon)
      have hrest := Text.leading_append_trimStart (text.drop (colon + 1))
      have htext :
          trimEnd (text.take colon) ++
              (trailing (text.take colon) ++ ':' :: leading (text.drop (colon + 1))) ++
            trimStart (text.drop (colon + 1)) = text := by
        rw [← List.append_assoc, hhead, List.append_assoc, List.cons_append, hrest]
        exact take_append_colon_drop hcolon
      simp only [Node.render, renderDeclaration]
      rw [List.append_assoc before, List.append_assoc before, htext]

/-- A text cut after some characters, the blanks before the cut apart. -/
theorem trimEnd_take_append (s : Text) (n : Nat) :
    trimEnd (s.take n) ++ (trailing (s.take n) ++ s.drop n) = s := by
  rw [← List.append_assoc, Text.trimEnd_append_trailing, List.take_append_drop]

/-- The blanks that a last declaration leaves to its block are still to be read. -/
theorem trimEnd_take_append_drop (s : Text) (n : Nat) :
    trimEnd (s.take n) ++ s.drop (trimEnd (s.take n)).length = s := by
  have hcut := trimEnd_take_append s n
  have hdrop : (trimEnd (s.take n) ++ (trailing (s.take n) ++ s.drop n)).drop
      (trimEnd (s.take n)).length = trailing (s.take n) ++ s.drop n := List.drop_left
  rw [hcut] at hdrop
  rw [hdrop, hcut]

theorem render_append_of_atStep {before rest tail : Text} {p : Piece}
    (hstep : atStep before ('@' :: tail) = .piece p rest) :
    p.render ++ rest = before ++ '@' :: tail := by
  simp only [atStep] at hstep
  split at hstep
  · simp at hstep
  · split at hstep
    · simp at hstep
    · rename_i n _
      rw [Nat.add_comm 1, List.drop_succ_cons, List.drop_succ_cons, List.drop_zero] at hstep
      have hparts := List.take_append_drop (atNameLength tail) tail
      rw [← trimEnd_take_append (tail.drop (atNameLength tail)) n] at hparts
      have htext := congrArg (before ++ '@' :: ·) hparts
      split at hstep
      · rename_i hdrop
        obtain ⟨rfl, rfl⟩ := Step.piece.inj hstep
        simpa [Piece.render, Head.render, hdrop] using htext
      · rename_i hdrop
        obtain ⟨rfl, rfl⟩ := Step.piece.inj hstep
        simpa [Piece.render, Node.render, semicolonText, hdrop] using htext
      · obtain ⟨rfl, rfl⟩ := Step.piece.inj hstep
        simp [Piece.render, Node.render, semicolonText, ← htext]

theorem render_append_of_plainStep {before rest s : Text} {p : Piece}
    (hstep : plainStep before s = .piece p rest) :
    p.render ++ rest = before ++ s := by
  simp only [plainStep] at hstep
  split at hstep
  · simp at hstep
  · rename_i n _
    split at hstep
    · rename_i hdrop
      obtain ⟨rfl, rfl⟩ := Step.piece.inj hstep
      have htext := congrArg (before ++ ·) (trimEnd_take_append s n)
      simpa [Piece.render, Head.render, hdrop] using htext
    · rename_i hdrop
      obtain ⟨rfl, rfl⟩ := Step.piece.inj hstep
      have htext := congrArg (before ++ ·) (List.take_append_drop n s)
      simpa [Piece.render, render_statement, semicolonText, hdrop] using htext
    · obtain ⟨rfl, rfl⟩ := Step.piece.inj hstep
      have htext := congrArg (before ++ ·) (trimEnd_take_append_drop s n)
      simpa [Piece.render, render_statement, semicolonText] using htext

/-- A piece is the text it was read from, and the next one begins behind it. -/
theorem render_append_of_step {s rest : Text} {p : Piece}
    (hstep : step s = .piece p rest) : p.render ++ rest = s := by
  have hblanks := Text.leading_append_trimStart s
  rw [step] at hstep
  split at hstep
  · simp at hstep
  · rename_i c tail htail
    rw [htail] at hblanks
    split at hstep
    · rename_i hclose
      obtain ⟨rfl, rfl⟩ := Step.piece.inj hstep
      simpa [Piece.render, hclose] using hblanks
    · split at hstep
      · split at hstep
        · simp at hstep
        · obtain ⟨rfl, rfl⟩ := Step.piece.inj hstep
          rw [Piece.render, Node.render, List.append_assoc, List.take_append_drop, hblanks]
      · split at hstep
        · rename_i hsemicolon
          obtain ⟨rfl, rfl⟩ := Step.piece.inj hstep
          simpa [Piece.render, Node.render, semicolonText, hsemicolon] using hblanks
        · split at hstep
          · rename_i hat
            subst hat
            rw [render_append_of_atStep hstep, hblanks]
          · rw [render_append_of_plainStep hstep, hblanks]

theorem atStep_ne_finished (before s after : Text) : atStep before s ≠ .finished after := by
  intro hstep
  simp only [atStep] at hstep
  split at hstep
  · simp at hstep
  · split at hstep
    · simp at hstep
    · split at hstep <;> simp at hstep

theorem plainStep_ne_finished (before s after : Text) :
    plainStep before s ≠ .finished after := by
  intro hstep
  simp only [plainStep] at hstep
  split at hstep
  · simp at hstep
  · split at hstep <;> simp at hstep

/-- Where no piece begins there are only blanks. -/
theorem eq_of_step_finished {s after : Text} (hstep : step s = .finished after) :
    after = s := by
  have hblanks := Text.leading_append_trimStart s
  rw [step] at hstep
  split at hstep
  · rename_i hnil
    rw [← Step.finished.inj hstep]
    simpa [hnil] using hblanks
  · split at hstep
    · simp at hstep
    · split at hstep
      · split at hstep <;> simp at hstep
      · split at hstep
        · simp at hstep
        · split at hstep
          · exact absurd hstep (atStep_ne_finished _ _ _)
          · exact absurd hstep (plainStep_ne_finished _ _ _)

/-! ## All pieces of a text -/

/-- The text of several pieces. -/
def renderPieces (ps : List Piece) : Text := ps.flatMap Piece.render

/-- What is found behind the last piece. -/
def Ending.toStep : Ending → Step
  | finished after => .finished after
  | fault cause offset => .fault cause offset

/-- The pieces of a text stand at its beginning, and behind the last one none is found. -/
theorem exists_append_of_pieces (s : Text) :
    ∃ rest, renderPieces (pieces s).1 ++ rest = s ∧ step rest = (pieces s).2.toStep := by
  fun_induction pieces s with
  | case1 s p rest hstep ps ending hpieces ih =>
      rw [hpieces] at ih
      obtain ⟨behind, hbehind, hend⟩ := ih
      refine ⟨behind, ?_, hend⟩
      rw [← render_append_of_step hstep]
      simpa [renderPieces] using congrArg (p.render ++ ·) hbehind
  | case2 s blanks hstep => exact ⟨s, rfl, hstep⟩
  | case3 s cause offset hstep => exact ⟨s, rfl, hstep⟩

/-- The pieces of a text tile it up to the blanks at its end. -/
theorem renderPieces_append_of_pieces {s after : Text}
    (hend : (pieces s).2 = .finished after) : renderPieces (pieces s).1 ++ after = s := by
  obtain ⟨rest, hrest, hstep⟩ := exists_append_of_pieces s
  rw [hend] at hstep
  rw [eq_of_step_finished hstep]
  exact hrest

/-! ## The tree -/

/-- The text of the blocks that are not closed, up to their innermost opening brace. -/
def renderOpen : List OpenBlock → Text
  | [] => []
  | block :: outer => renderOpen outer ++ renderNodes block.earlier.reverse ++ block.head.render

/-- Closing a block puts its closing brace behind its content. -/
theorem render_close (head : Head) (nodes : List Node) (after : Text) :
    (head.close nodes after).render = head.render ++ renderNodes nodes ++ after ++ ['\x7d'] := by
  cases head <;> simp [Head.close, Head.render, Node.render]

theorem renderNodes_reverse_cons (node : Node) (nodes : List Node) :
    renderNodes (node :: nodes).reverse = renderNodes nodes.reverse ++ node.render := by
  rw [List.reverse_cons, renderNodes_append]
  simp [renderNodes]

/-- Assembling moves text from the pieces to the tree: what was written so far and
the pieces that are left stay the same text. -/
theorem render_of_assemble {stack : List OpenBlock} {nodes : List Node} {offset : Nat}
    {ps : List Piece} {after : Text} {sheet : Stylesheet}
    (hassemble : assemble stack nodes offset ps (.finished after) = .ok sheet) :
    sheet.render =
      renderOpen stack ++ renderNodes nodes.reverse ++ renderPieces ps ++ after := by
  induction ps generalizing stack nodes offset with
  | nil =>
      cases stack with
      | nil =>
          simp only [assemble, Except.ok.injEq] at hassemble
          simp [← hassemble, render, renderOpen, renderPieces]
      | cons block outer => simp [assemble] at hassemble
  | cons p rest ih =>
      cases p with
      | leaf node =>
          rw [assemble] at hassemble
          rw [ih hassemble, renderNodes_reverse_cons]
          simp [renderPieces, Piece.render]
      | opening head =>
          rw [assemble] at hassemble
          rw [ih hassemble]
          simp [renderOpen, renderPieces, Piece.render, renderNodes]
      | closing before =>
          cases stack with
          | nil => simp [assemble] at hassemble
          | cons block outer =>
              rw [assemble] at hassemble
              rw [ih hassemble, renderNodes_reverse_cons, render_close]
              simp [renderOpen, renderPieces, Piece.render]

/-- Only a text that ends with blanks is read. -/
theorem finished_of_assemble {stack : List OpenBlock} {nodes : List Node} {offset : Nat}
    {ps : List Piece} {ending : Ending} {sheet : Stylesheet}
    (hassemble : assemble stack nodes offset ps ending = .ok sheet) :
    ∃ after, ending = .finished after := by
  cases ending with
  | finished after => exact ⟨after, rfl⟩
  | fault cause further =>
      induction ps generalizing stack nodes offset with
      | nil => simp [assemble] at hassemble
      | cons p rest ih =>
          cases p with
          | leaf node => exact ih hassemble
          | opening head => exact ih hassemble
          | closing before =>
              cases stack with
              | nil => simp [assemble] at hassemble
              | cons block outer => exact ih hassemble

/-- A style sheet that was read is written back to the text it was read from:
every blank, comment, string, escape and semicolon is in its place again. -/
theorem render_of_parse {css : Text} {sheet : Stylesheet} (hparse : parse css = .ok sheet) :
    sheet.render = css := by
  simp only [parse] at hparse
  obtain ⟨after, hend⟩ := finished_of_assemble hparse
  rw [hend] at hparse
  rw [render_of_assemble hparse]
  simpa [renderOpen, renderNodes] using renderPieces_append_of_pieces hend

/-- A rule with an escaped brace, a quoted one, a stray semicolon and a last
declaration without its own, then a text that ends in the middle of an escape. -/
theorem render_of_parse_escapes :
    ∃ sheet, parse "a\\\x7b b[c='\x7d'] \x7bp : v;; q:r \x7d \\".toList = .ok sheet ∧
      sheet.nodes.length = 2 ∧
      sheet.render = "a\\\x7b b[c='\x7d'] \x7bp : v;; q:r \x7d \\".toList := by
  refine ⟨⟨[.rule [] "a\\\x7b b[c='\x7d']".toList [' ']
      [.declaration { prop := ['p'], between := " : ".toList, value := ['v'] },
        .raw [] [] true,
        .declaration { before := [' '], prop := ['q'], value := ['r'], semicolon := false }]
      [' '], .raw [' '] ['\\'] false], []⟩, ?_, rfl, render_of_parse ?_⟩
  all_goals with_unfolding_all rfl

end ComponentCompiler.Stylesheet
