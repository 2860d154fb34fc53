import Mathlib.Data.List.Induction
import ComponentCompiler.Proofs.Stylesheet.Legibility
import ComponentCompiler.Proofs.Text.LinePositions

/-!
# Where a fault is reported

The pieces of a text are found before it is known which blocks are open, so a fault has
one of two origins.  The pieces may open and close blocks that do not fit together, or
none begins at some place: a comment there is not closed, or an at-rule has no name.  The
report shows the brace, the comment or the at-sign that is to blame.
-/

namespace ComponentCompiler.Stylesheet

open Text (AllBlank leading trimStart lineStart lines)

variable {css s tail before : Text} {ps : List Piece} {cause : Cause} {k : Nat}

/-! ## Blocks -/

/-- Whether pieces close every block that they open, and no other one. -/
inductive Balanced : List Piece → Prop
  | nil : Balanced []
  | leaf {node : Node} {rest : List Piece} (hrest : Balanced rest) : Balanced (.leaf node :: rest)
  | block {head : Head} {inner rest : List Piece} {before : Text} (hinner : Balanced inner)
      (hrest : Balanced rest) : Balanced (.opening head :: (inner ++ .closing before :: rest))

/-- The offsets of the braces whose blocks are open behind some pieces, the innermost one
first. -/
inductive LeavesOpen : List Piece → List Nat → Prop
  | none {ps : List Piece} (h : Balanced ps) : LeavesOpen ps []
  | block {outer inner : List Piece} {head : Head} {braces : List Nat}
      (houter : LeavesOpen outer braces) (hinner : Balanced inner) :
      LeavesOpen (outer ++ .opening head :: inner)
        (((renderPieces outer).length + head.render.length - 1) :: braces)

theorem Balanced.append {qs : List Piece} (hps : Balanced ps) (hqs : Balanced qs) :
    Balanced (ps ++ qs) := by
  induction hps with
  | nil => exact hqs
  | leaf _ ih => exact .leaf ih
  | block hinner _ _ ih =>
      rw [List.cons_append, List.append_assoc, List.cons_append]
      exact .block hinner ih

theorem LeavesOpen.append {braces : List Nat} {qs : List Piece} (hps : LeavesOpen ps braces)
    (hqs : Balanced qs) : LeavesOpen (ps ++ qs) braces := by
  cases hps with
  | none h => exact .none (h.append hqs)
  | block houter hinner =>
      rw [List.append_assoc, List.cons_append]
      exact .block houter (hinner.append hqs)

/-- A closing brace ends the innermost open block. -/
theorem LeavesOpen.close {brace : Nat} {braces : List Nat} (h : LeavesOpen ps (brace :: braces))
    (before : Text) : LeavesOpen (ps ++ [.closing before]) braces := by
  cases h with
  | block houter hinner =>
      rw [List.append_assoc, List.cons_append]
      exact houter.append (.block hinner .nil)

/-- Pieces leave some blocks open, or one of them closes a block where none is open. -/
theorem exists_leavesOpen_or (ps : List Piece) :
    (∃ braces, LeavesOpen ps braces) ∨
      ∃ done before rest, ps = done ++ .closing before :: rest ∧ Balanced done := by
  induction ps using List.reverseRecOn with
  | nil => exact Or.inl ⟨[], .none .nil⟩
  | append_singleton ps p ih =>
      rcases ih with ⟨braces, hopen⟩ | ⟨done, before, rest, rfl, hdone⟩
      · cases p with
        | leaf node => exact Or.inl ⟨braces, hopen.append (.leaf .nil)⟩
        | opening head => exact Or.inl ⟨_, .block hopen .nil⟩
        | closing before =>
            cases braces with
            | nil =>
                cases hopen with
                | none h => exact Or.inr ⟨ps, before, [], rfl, h⟩
            | cons brace braces => exact Or.inl ⟨braces, hopen.close before⟩
      · refine Or.inr ⟨done, before, rest ++ [p], ?_, hdone⟩
        rw [List.append_assoc, List.cons_append]

/-! ## What assembling reports -/

theorem length_renderPieces_cons (p : Piece) (ps : List Piece) :
    (renderPieces (p :: ps)).length = p.render.length + (renderPieces ps).length := by
  rw [renderPieces_cons, List.length_append]

theorem length_renderPieces_append (ps qs : List Piece) :
    (renderPieces (ps ++ qs)).length = (renderPieces ps).length + (renderPieces qs).length := by
  rw [renderPieces_append, List.length_append]

/-- Balanced pieces leave the stack as it is. -/
theorem exists_assemble_of_balanced (h : Balanced ps) (stack : List OpenBlock) (nodes : List Node)
    (offset : Nat) (rest : List Piece) (ending : Ending) :
    ∃ nodes', assemble stack nodes offset (ps ++ rest) ending =
      assemble stack nodes' (offset + (renderPieces ps).length) rest ending := by
  induction h generalizing stack nodes offset rest with
  | nil => exact ⟨nodes, rfl⟩
  | @leaf node inner _ ih =>
      obtain ⟨nodes', h⟩ := ih stack (node :: nodes) (offset + node.render.length) rest
      refine ⟨nodes', ?_⟩
      rw [List.cons_append, assemble, h, length_renderPieces_cons, Nat.add_assoc]
      rfl
  | @block head inner more before _ _ ihinner ihmore =>
      obtain ⟨inside, hinside⟩ := ihinner
        (⟨head, offset + head.render.length - 1, nodes⟩ :: stack) []
        (offset + head.render.length) (.closing before :: (more ++ rest))
      obtain ⟨nodes', hbehind⟩ := ihmore stack (head.close inside.reverse before :: nodes)
        (offset + head.render.length + (renderPieces inner).length + before.length + 1) rest
      refine ⟨nodes', ?_⟩
      have hlength : offset + head.render.length + (renderPieces inner).length + before.length + 1 +
            (renderPieces more).length =
          offset + (renderPieces (.opening head :: (inner ++ .closing before :: more))).length := by
        simp only [length_renderPieces_cons, length_renderPieces_append, Piece.render,
          List.length_append, List.length_singleton]
        omega
      rw [List.cons_append, List.append_assoc, List.cons_append, assemble, hinside, assemble,
        hbehind, hlength]

/-- The braces of the blocks on the stack are the open ones. -/
theorem exists_assemble_of_leavesOpen {braces : List Nat} (h : LeavesOpen ps braces)
    (rest : List Piece) (ending : Ending) :
    ∃ stack nodes, stack.map (·.brace) = braces ∧
      assemble [] [] 0 (ps ++ rest) ending =
        assemble stack nodes (renderPieces ps).length rest ending := by
  induction h generalizing rest with
  | none h =>
      obtain ⟨nodes, hassemble⟩ := exists_assemble_of_balanced h [] [] 0 rest ending
      rw [Nat.zero_add] at hassemble
      exact ⟨[], nodes, rfl, hassemble⟩
  | @block outer inner head braces _ hinner ih =>
      obtain ⟨stack, earlier, hstack, houter⟩ := ih (.opening head :: (inner ++ rest))
      obtain ⟨nodes, hinside⟩ := exists_assemble_of_balanced hinner
        (⟨head, (renderPieces outer).length + head.render.length - 1, earlier⟩ :: stack) []
        ((renderPieces outer).length + head.render.length) rest ending
      refine ⟨⟨head, _, earlier⟩ :: stack, nodes, congrArg (List.cons _) hstack, ?_⟩
      rw [List.append_assoc, List.cons_append, houter, assemble, hinside,
        length_renderPieces_append, length_renderPieces_cons, Nat.add_assoc]
      rfl

/-- What makes a text no style sheet, as far as its pieces tell. -/
inductive Faulty (css : Text) : Fault → Prop
  /-- The text ends within a block. -/
  | unclosedBlock {ps : List Piece} {after : Text} {brace : Nat} {outer : List Nat}
      (hpieces : pieces css = (ps, .finished after)) (hopen : LeavesOpen ps (brace :: outer)) :
      Faulty css ⟨.unclosedBlock, brace⟩
  /-- A brace closes a block where none is open. -/
  | unexpectedBrace {done rest : List Piece} {before : Text} {ending : Ending}
      (hpieces : pieces css = (done ++ .closing before :: rest, ending)) (hdone : Balanced done) :
      Faulty css ⟨.unexpectedBrace, (renderPieces done).length + before.length⟩
  /-- No piece begins behind the last one. -/
  | noPiece {ps : List Piece} {cause : Cause} {further : Nat} {braces : List Nat}
      (hpieces : pieces css = (ps, .fault cause further)) (hopen : LeavesOpen ps braces) :
      Faulty css ⟨cause, (renderPieces ps).length + further⟩

theorem parse_of_pieces {ending : Ending} (hpieces : pieces css = (ps, ending)) :
    parse css = assemble [] [] 0 ps ending := by
  rw [parse, hpieces]

/-- The end of the pieces is reached with the open blocks on the stack. -/
theorem exists_parse_of_leavesOpen {ending : Ending} {braces : List Nat}
    (hpieces : pieces css = (ps, ending)) (hopen : LeavesOpen ps braces) :
    ∃ stack nodes, stack.map (·.brace) = braces ∧
      parse css = assemble stack nodes (renderPieces ps).length [] ending := by
  rw [parse_of_pieces hpieces, ← List.append_nil ps]
  rw [← List.append_nil ps] at hopen
  simpa using exists_assemble_of_leavesOpen hopen [] ending

theorem parse_of_faulty {fault : Fault} (h : Faulty css fault) : parse css = .error fault := by
  cases h with
  | unclosedBlock hpieces hopen =>
      obtain ⟨stack, nodes, hstack, hparse⟩ := exists_parse_of_leavesOpen hpieces hopen
      obtain ⟨block, outer, rfl, rfl, -⟩ := List.map_eq_cons_iff.mp hstack
      rw [hparse, assemble]
  | unexpectedBrace hpieces hdone =>
      obtain ⟨nodes, hassemble⟩ := exists_assemble_of_balanced hdone [] [] 0 _ _
      rw [parse_of_pieces hpieces, hassemble, assemble, Nat.zero_add]
  | noPiece hpieces hopen =>
      obtain ⟨stack, nodes, -, hparse⟩ := exists_parse_of_leavesOpen hpieces hopen
      rw [hparse, assemble]

/-- A fault is reported exactly if it is one, and of several faults the first. -/
theorem parse_eq_error_iff {fault : Fault} : parse css = .error fault ↔ Faulty css fault := by
  refine ⟨fun hparse => ?_, parse_of_faulty⟩
  have hsame {other : Fault} (h : Faulty css other) : Faulty css fault := by
    rw [parse_of_faulty h] at hparse
    exact Except.error.inj hparse ▸ h
  obtain ⟨ps, ending, hpieces⟩ : ∃ ps ending, pieces css = (ps, ending) := ⟨_, _, rfl⟩
  rcases exists_leavesOpen_or ps with ⟨braces, hopen⟩ | ⟨done, before, rest, rfl, hdone⟩
  · cases ending with
    | finished after =>
        cases braces with
        | nil =>
            obtain ⟨stack, nodes, hstack, hread⟩ := exists_parse_of_leavesOpen hpieces hopen
            obtain rfl := List.map_eq_nil_iff.mp hstack
            rw [hread, assemble] at hparse
            cases hparse
        | cons brace outer => exact hsame (.unclosedBlock hpieces hopen)
    | fault cause further => exact hsame (.noPiece hpieces hopen)
  · exact hsame (.unexpectedBrace hpieces hdone)

/-! ## Where no piece begins -/

/-- Whether a comment begins here that is not closed. -/
def BeginsOpenComment (s : Text) : Prop :=
  ∃ tail, s = '/' :: '*' :: tail ∧ ¬ ['*', '/'] <:+: tail

/-- Whether a name begins here, as an at-rule has one: a letter or an underscore, perhaps
after a hyphen. -/
def BeginsName (s : Text) : Prop :=
  ∃ hyphen c rest, s = hyphen ++ c :: rest ∧ hyphen <+: ['-'] ∧ (c.isAlpha ∨ c = '_')

theorem beginsOpenComment_of_length (hstart : startsComment s = true)
    (hlength : commentLength? s = none) : BeginsOpenComment s := by
  obtain ⟨tail, rfl⟩ := List.isPrefixOf_iff_prefix.mp hstart
  refine ⟨tail, rfl, ?_⟩
  exact (Text.endOfFirst?_eq_none_iff (by simp)).mp (Option.map_eq_none_iff.mp hlength)

theorem atNameLength_ne_zero_of_beginsName (h : BeginsName s) : atNameLength s ≠ 0 := by
  obtain ⟨hyphen, c, rest, rfl, hhyphen, hletter⟩ := h
  have hhead : (c.isAlpha || c == '_') = true := by simpa using hletter
  rcases List.prefix_cons_iff.mp hhyphen with rfl | ⟨more, rfl, hmore⟩
  · have hother : c ≠ '-' := by
      rintro rfl
      simp at hletter
    rw [List.nil_append, atNameLength_cons hother, if_pos hhead]
    omega
  · obtain rfl := List.prefix_nil.mp hmore
    rw [List.singleton_append, atNameLength_hyphen_cons, if_pos hhead]
    omega

theorem beginsOpenComment_of_unitAt {stop : Char → Bool} {depth : Nat} {c : Char} {rest : Text}
    (h : unitAt stop depth c rest = .unclosed) : BeginsOpenComment (c :: rest) := by
  rw [unitAt] at h
  split at h
  · cases h
  · split at h
    · cases h
    · split at h
      · rename_i hstart
        split at h
        · rename_i hlength
          exact beginsOpenComment_of_length hstart hlength
        · cases h
      · split at h
        · cases h
        · split at h
          · cases h
          · split at h <;> cases h

/-- What a scan takes for a comment that is not closed. -/
theorem beginsOpenComment_of_scan {stop : Char → Bool} {depth n : Nat} {s : Text}
    (h : scan stop depth s = .unclosedComment n) : BeginsOpenComment (s.drop n) := by
  match s with
  | [] =>
      rw [scan] at h
      cases h
  | c :: rest =>
      rw [scan_cons] at h
      cases hunit : unitAt stop depth c rest with
      | stop =>
          rw [hunit] at h
          cases h
      | unclosed =>
          rw [hunit] at h
          obtain rfl := Scan.unclosedComment.inj h
          exact beginsOpenComment_of_unitAt hunit
      | pass k depth' =>
          rw [hunit] at h
          dsimp only at h
          cases hscan : scan stop depth' (rest.drop k) with
          | length m =>
              rw [hscan] at h
              cases h
          | unclosedComment m =>
              rw [hscan] at h
              obtain rfl := Scan.unclosedComment.inj h
              have hopen := beginsOpenComment_of_scan hscan
              rwa [List.drop_drop, Nat.add_comm] at hopen
termination_by s.length
decreasing_by simp only [List.length_cons, List.length_drop]; omega

theorem fault_of_plainStep (h : plainStep before s = .fault cause k) :
    cause = .unclosedComment ∧ ∃ n, k = before.length + n ∧ BeginsOpenComment (s.drop n) := by
  simp only [plainStep] at h
  split at h
  · rename_i n hscan
    obtain ⟨rfl, rfl⟩ := Step.fault.inj h
    exact ⟨rfl, n, rfl, beginsOpenComment_of_scan hscan⟩
  · split at h <;> cases h

theorem fault_of_atStep (h : atStep before ('@' :: tail) = .fault cause k) :
    (cause = .invalidAtRule ∧ k = before.length ∧ ¬ BeginsName tail) ∨
      (cause = .unclosedComment ∧
        ∃ n, k = before.length + n ∧ BeginsOpenComment (('@' :: tail).drop n)) := by
  simp only [atStep, List.drop_succ_cons, List.drop_zero] at h
  split at h
  · rename_i hname
    obtain ⟨rfl, rfl⟩ := Step.fault.inj h
    exact Or.inl ⟨rfl, rfl, fun hbegins => atNameLength_ne_zero_of_beginsName hbegins hname⟩
  · split at h
    · rename_i n hscan
      obtain ⟨rfl, rfl⟩ := Step.fault.inj h
      refine Or.inr ⟨rfl, _, Nat.add_assoc _ _ _, ?_⟩
      rw [← List.drop_drop]
      exact beginsOpenComment_of_scan hscan
    · split at h <;> cases h

/-- A text at which no piece begins has an open comment in it, or begins, blanks aside, with
an at-sign without a name. -/
theorem fault_of_step (h : step s = .fault cause k) :
    (cause = .unclosedComment ∧ BeginsOpenComment (s.drop k)) ∨
      (cause = .invalidAtRule ∧ k = (leading s).length ∧
        ∃ tail, s.drop k = '@' :: tail ∧ ¬ BeginsName tail) := by
  have hdrop (n : Nat) : s.drop ((leading s).length + n) = (trimStart s).drop n := by
    rw [← List.drop_drop, Text.drop_length_leading]
  have hplain (hfound : cause = .unclosedComment ∧
      ∃ n, k = (leading s).length + n ∧ BeginsOpenComment ((trimStart s).drop n)) :
      cause = .unclosedComment ∧ BeginsOpenComment (s.drop k) := by
    obtain ⟨rfl, n, rfl, hopen⟩ := hfound
    exact ⟨rfl, (hdrop n).symm ▸ hopen⟩
  rw [step] at h
  split at h
  · cases h
  · rename_i c rest htrim
    rw [htrim] at hplain
    split at h
    · cases h
    · split at h
      · rename_i hstart
        split at h
        · rename_i hlength
          obtain ⟨rfl, rfl⟩ := Step.fault.inj h
          exact Or.inl (hplain ⟨rfl, 0, rfl, beginsOpenComment_of_length hstart hlength⟩)
        · cases h
      · split at h
        · cases h
        · split at h
          · rename_i hat
            subst hat
            rcases fault_of_atStep h with ⟨rfl, rfl, hname⟩ | hopen
            · exact Or.inr ⟨rfl, rfl, rest, (Text.drop_length_leading s).trans htrim, hname⟩
            · exact Or.inl (hplain hopen)
          · exact Or.inl (hplain (fault_of_plainStep h))

/-! ## The report -/

/-- What a message about a style text says of the offset that it points at. -/
inductive PointsAt (css : Text) : String → Nat → Prop
  /-- The innermost block that is open at the end of the text begins there. -/
  | unclosedBlock {outer inner : List Piece} {head : Head} {after : Text} {o : Nat}
      (hpieces : pieces css = (outer ++ .opening head :: inner, .finished after))
      (hinner : Balanced inner) (hoffset : o + 1 = (renderPieces outer ++ head.render).length)
      (hbrace : css[o]? = some '\x7b') : PointsAt css "Unclosed block" o
  /-- A brace stands there, and no block is open in front of it. -/
  | unexpectedBrace {done rest : List Piece} {before : Text} {ending : Ending} {o : Nat}
      (hpieces : pieces css = (done ++ .closing before :: rest, ending))
      (hdone : Balanced done) (hoffset : o = (renderPieces done ++ before).length)
      (hbrace : css[o]? = some '\x7d') : PointsAt css "Unexpected '\x7d'" o
  /-- A comment begins there, and nothing behind its beginning closes it. -/
  | unclosedComment {o : Nat} (hopen : BeginsOpenComment (css.drop o)) :
      PointsAt css "Unclosed comment" o
  /-- A statement begins there with an at-sign that no name follows. -/
  | invalidAtRule {done : List Piece} {blanks tail : Text} {o : Nat}
      (hpieces : pieces css = (done, .fault .invalidAtRule blanks.length))
      (hblanks : AllBlank blanks) (hbefore : css.take o = renderPieces done ++ blanks)
      (hat : css.drop o = '@' :: tail) (hname : ¬ BeginsName tail) :
      PointsAt css "Invalid at-rule" o

theorem Head.render_eq_append (head : Head) : ∃ text, head.render = text ++ ['\x7b'] := by
  cases head <;> exact ⟨_, rfl⟩

theorem getElem?_of_append_cons {front back : Text} {c : Char}
    (hcss : front ++ c :: back = css) :
    front.length < css.length ∧ css[front.length]? = some c := by
  subst hcss
  simp

theorem lt_length_of_drop {c : Char} {o : Nat} (hdrop : css.drop o = c :: tail) :
    o < css.length := by
  have hlength := congrArg List.length hdrop
  rw [List.length_drop, List.length_cons] at hlength
  omega

/-- A fault is within the text, at what its message says. -/
theorem pointsAt_of_faulty {fault : Fault} (h : Faulty css fault) :
    fault.offset < css.length ∧ PointsAt css fault.message fault.offset := by
  obtain ⟨rest, hcss, hstep⟩ := exists_append_of_pieces css
  cases h with
  | unclosedBlock hpieces hopen =>
      rw [hpieces] at hcss
      cases hopen with
      | @block front inner head _ _ hinner =>
          obtain ⟨text, htext⟩ := head.render_eq_append
          have hbrace : (renderPieces front).length + head.render.length - 1 =
              (renderPieces front ++ text).length := by
            simp [htext]
          have hsplit : (renderPieces front ++ text) ++ '\x7b' :: (renderPieces inner ++ rest) =
              css := by
            rw [← hcss, renderPieces_append, renderPieces_cons, Piece.render, htext]
            simp
          obtain ⟨hlt, hget⟩ := getElem?_of_append_cons hsplit
          rw [hbrace]
          exact ⟨hlt, .unclosedBlock hpieces hinner (by simp [htext, Nat.add_assoc]) hget⟩
  | @unexpectedBrace done more before ending hpieces hdone =>
      rw [hpieces] at hcss
      have hsplit : (renderPieces done ++ before) ++ '\x7d' :: (renderPieces more ++ rest) =
          css := by
        rw [← hcss, renderPieces_append, renderPieces_cons, Piece.render]
        simp
      obtain ⟨hlt, hget⟩ := getElem?_of_append_cons hsplit
      rw [← List.length_append]
      exact ⟨hlt, .unexpectedBrace hpieces hdone rfl hget⟩
  | @noPiece ps cause further braces hpieces hopen =>
      rw [hpieces] at hcss hstep
      have hdrop : css.drop ((renderPieces ps).length + further) = rest.drop further := by
        rw [← hcss, List.drop_length_add_append]
      rcases fault_of_step hstep with
        ⟨rfl, hcomment⟩ | ⟨rfl, rfl, tail, hat, hname⟩
      · rw [← hdrop] at hcomment
        obtain ⟨tail, htail, hnone⟩ := hcomment
        exact ⟨lt_length_of_drop htail, .unclosedComment ⟨tail, htail, hnone⟩⟩
      · have htake : css.take ((renderPieces ps).length + (leading rest).length) =
            renderPieces ps ++ leading rest := by
          have hleading : (leading rest ++ trimStart rest).take (leading rest).length =
              leading rest := List.take_left
          rw [Text.leading_append_trimStart] at hleading
          rw [← hcss, List.take_length_add_append, hleading]
        rw [← hdrop] at hat
        exact ⟨lt_length_of_drop hat,
          .invalidAtRule hpieces (Text.allBlank_leading rest) htake hat hname⟩

/-- A style text is refused exactly if it is faulty, and what is reported then gives the line
and the column of what the message blames, and shows this line. -/
theorem diagnostic_pointsAt (css : Text) (fault : Fault) (filePath : Option String) :
    (parse css = .error fault ↔ Faulty css fault) ∧
      (parse css = .error fault →
        let d := fault.diagnostic css filePath
        d.kind = .style ∧ fault.offset < css.length ∧ PointsAt css d.message fault.offset ∧
          ∃ (line column : Nat) (shown : Text),
            d.line = some ((line : Int) + 1) ∧ d.column = some ((column : Int) + 1) ∧
              lineStart css line + column = fault.offset ∧
              (lines css)[line]? = some shown ∧ column ≤ shown.length ∧
              d.context = some (String.ofList (Text.trim shown))) := by
  refine ⟨parse_eq_error_iff, fun hparse => ?_⟩
  obtain ⟨hlt, hpoints⟩ := pointsAt_of_faulty (parse_eq_error_iff.mp hparse)
  obtain ⟨line, column, shown, hposition, hline, hcolumn, hstart⟩ :=
    Text.exists_position (Nat.le_of_lt hlt)
  have hcss : css ≠ [] := List.ne_nil_of_length_pos (Nat.zero_lt_of_lt hlt)
  have hcontext := Text.lineContext_of_getElem? hcss hline
  refine ⟨rfl, hlt, hpoints, line, column, shown, ?_, ?_, hstart, hline, hcolumn, ?_⟩
  · exact congrArg (fun p => some p.1) hposition
  · exact congrArg (fun p => some p.2) hposition
  · change (Text.lineContext css (some (Text.position css fault.offset).1)).map String.ofList = _
    rw [hposition, hcontext]
    rfl

/-- A style text that ends in the block of a rule, behind one of an at-rule that is closed. -/
theorem diagnostic_pointsAt_of_nested :
    let css := "a\x7b\n @media x\x7bb\x7b\x7d\x7d\n c\x7bd:\"\x7d\" /*e*/".toList
    let fault : Fault := ⟨.unclosedBlock, 20⟩
    parse css = .error fault ∧ PointsAt css "Unclosed block" 20 ∧
      (fault.diagnostic css none).line = some 3 ∧
      (fault.diagnostic css none).column = some 3 ∧
      lineStart css 2 + 2 = 20 := by
  intro css fault
  have hparse : parse css = .error fault := by with_unfolding_all rfl
  obtain ⟨-, -, hpoints, -⟩ := (diagnostic_pointsAt css fault none).2 hparse
  exact ⟨hparse, hpoints, rfl, rfl, rfl⟩

end ComponentCompiler.Stylesheet
