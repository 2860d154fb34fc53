import Mathlib.Logic.ExistsUnique
import ComponentCompiler.Proofs.Result
import ComponentCompiler.Proofs.Stylesheet.Legibility

/-!
# Reading block by block

A sheet can also be read by descending into each block where it is found.  Reading a block
takes turns, each of which ends the block, fails, adds a statement, or enters a block inside
and goes on behind it.  A turn that goes on does so further ahead in the text, and so does
one that comes back from an inner block.  So every block is read to an end, with the outcome
that putting the pieces of the text together has.
-/

namespace ComponentCompiler.Stylesheet

open Text (AllBlank)

variable {css rest before text after : Text} {brace? : Option Nat} {position next start : Nat}
  {p : Piece} {node : Node} {head : Head} {fault : Fault}

/-! ## Turns -/

/-- What a turn of reading a block finds. -/
inductive Turn
  /-- The end of the block, or of the sheet outside all blocks. -/
  | ends (after : Text) (next : Nat)
  | fails (fault : Fault)
  /-- A statement without a block. -/
  | adds (node : Node) (next : Nat)
  /-- A block inside, which starts behind its opening brace. -/
  | enters (head : Head) (start : Nat)

/-- One turn at a position in the block with the given opening brace, or outside all blocks.
A position past the end of the text counts as its end. -/
def turn (css : Text) (brace? : Option Nat) (position : Nat) : Turn :=
  match step (css.drop position), brace? with
  | .finished after, none => .ends after css.length
  | .finished _, some brace => .fails ⟨.unclosedBlock, brace⟩
  | .fault cause offset, _ => .fails ⟨cause, position + offset⟩
  | .piece (.closing before) _, none => .fails ⟨.unexpectedBrace, position + before.length⟩
  | .piece (.closing before) rest, some _ => .ends before (css.length - rest.length)
  | .piece (.leaf node) rest, _ => .adds node (css.length - rest.length)
  | .piece (.opening head) rest, _ => .enters head (css.length - rest.length)

/-- The content of a block, and the position behind it. -/
structure Content where
  nodes : List Node
  after : Text
  next : Nat

/-- The content with a statement in front. -/
def Content.prepend (node : Node) (content : Content) : Content :=
  { content with nodes := node :: content.nodes }

/-- Reading a block from a position on has the outcome. -/
inductive Reads (css : Text) : Option Nat → Nat → Except Fault Content → Prop
  | ends {brace? : Option Nat} {position next : Nat} {after : Text}
      (hturn : turn css brace? position = .ends after next) :
      Reads css brace? position (.ok ⟨[], after, next⟩)
  | fails {brace? : Option Nat} {position : Nat} {fault : Fault}
      (hturn : turn css brace? position = .fails fault) :
      Reads css brace? position (.error fault)
  | adds {brace? : Option Nat} {position next : Nat} {node : Node}
      {outcome : Except Fault Content} (hturn : turn css brace? position = .adds node next)
      (hmore : Reads css brace? next outcome) :
      Reads css brace? position (outcome.map (·.prepend node))
  | enters {brace? : Option Nat} {position start : Nat} {head : Head} {content : Content}
      {outcome : Except Fault Content} (hturn : turn css brace? position = .enters head start)
      (hinner : Reads css (some (start - 1)) start (.ok content))
      (hmore : Reads css brace? content.next outcome) :
      Reads css brace? position
        (outcome.map (·.prepend (head.close content.nodes content.after)))
  /-- A fault in a block inside is one of the blocks around it. -/
  | failsInside {brace? : Option Nat} {position start : Nat} {head : Head} {fault : Fault}
      (hturn : turn css brace? position = .enters head start)
      (hinner : Reads css (some (start - 1)) start (.error fault)) :
      Reads css brace? position (.error fault)

/-! ## Progress -/

/-- The blanks that a head begins with. -/
def Head.blanks : Head → Text
  | rule before _ _ => before
  | atRule before _ _ _ => before

/-- The blanks that a statement begins with. -/
def Node.blanks : Node → Text
  | .comment before _ => before
  | .declaration d => d.before
  | .raw before _ _ => before
  | .rule before _ _ _ _ => before
  | .atBlock before _ _ _ _ _ => before
  | .atStatement before _ _ _ _ => before

/-- The blanks that a piece begins with. -/
def Piece.blanks : Piece → Text
  | leaf node => node.blanks
  | opening head => head.blanks
  | closing before => before

theorem blanks_statement (before text : Text) (semicolon : Bool) :
    (statement before text semicolon).blanks = before := by
  rw [statement]
  split <;> rfl

/-- An open statement is not empty.  A text that begins with the end of a block begins with a
closing brace, and the end of the sheet is no statement. -/
theorem ne_nil_of_endsOpen {blanks : Text} (hbegins : BeginsPlain (text ++ (blanks ++ rest)))
    (hblanks : AllBlank blanks) (hopen : EndsOpen (text ++ blanks) rest) : text ≠ [] := by
  rintro rfl
  obtain ⟨c, tail, hsplit, hblank, hclose, -⟩ := hbegins
  cases blanks with
  | nil =>
      rw [List.nil_append, List.nil_append] at hsplit
      subst hsplit
      rcases hopen with ⟨hnil, -⟩ | ⟨more, hcons, -⟩
      · cases hnil
      · exact hclose (List.cons.inj hcons).1
  | cons b blanks =>
      obtain ⟨rfl, -⟩ := List.cons.inj hsplit
      rw [hblanks b List.mem_cons_self] at hblank
      cases hblank

/-- A piece goes on behind its blanks. -/
theorem Stands.length_blanks_lt (h : Stands p rest) : p.blanks.length < p.render.length := by
  cases h with
  | closing | stray | atBlock | atStatement | atOpen | rule =>
      simp [Piece.blanks, Node.blanks, Head.blanks, Piece.render, Node.render, Head.render,
        semicolonText]
  | comment _ _ hlength =>
      have hpos := commentLength?_pos hlength
      simpa [Piece.blanks, Node.blanks, Piece.render, Node.render] using hpos
  | statement =>
      simp [Piece.blanks, blanks_statement, Piece.render, render_statement, semicolonText]
  | @openStatement before text blanks _ _ hbegins _ hblanks hopen =>
      have hpos := List.length_pos_iff.mpr (ne_nil_of_endsOpen hbegins hblanks hopen)
      simpa [Piece.blanks, blanks_statement, Piece.render, render_statement, semicolonText]
        using hpos

/-! ## Positions -/

/-- Behind a piece the text goes on at a later position. -/
theorem position_behind (h : step (css.drop position) = .piece p rest) :
    position + p.blanks.length < css.length - rest.length ∧
      css.length - rest.length = position + p.render.length ∧
      css.drop (css.length - rest.length) = rest := by
  have hblanks := (stands_of_step h).length_blanks_lt
  have htext := render_append_of_step h
  have hlength := congrArg List.length htext
  rw [List.length_append, List.length_drop] at hlength
  have hbehind : css.length - rest.length = position + p.render.length := by omega
  refine ⟨by omega, hbehind, ?_⟩
  rw [hbehind, ← List.drop_drop, ← htext, List.drop_left]

theorem step_of_turn_ends (h : turn css brace? position = .ends after next) :
    (brace? = none ∧ step (css.drop position) = .finished after ∧ next = css.length) ∨
      ∃ brace rest, brace? = some brace ∧ step (css.drop position) = .piece (.closing after) rest ∧
        next = css.length - rest.length := by
  unfold turn at h
  split at h <;> cases h
  · exact Or.inl ⟨rfl, ‹_›, rfl⟩
  · exact Or.inr ⟨_, _, rfl, ‹_›, rfl⟩

theorem step_of_turn_fails (h : turn css brace? position = .fails fault) :
    (∃ brace after, brace? = some brace ∧ step (css.drop position) = .finished after ∧
        fault = ⟨.unclosedBlock, brace⟩) ∨
      (∃ offset, step (css.drop position) = .fault fault.cause offset ∧
        fault.offset = position + offset) ∨
      ∃ before rest, brace? = none ∧ step (css.drop position) = .piece (.closing before) rest ∧
        fault = ⟨.unexpectedBrace, position + before.length⟩ := by
  unfold turn at h
  split at h <;> cases h
  · exact Or.inl ⟨_, _, rfl, ‹_›, rfl⟩
  · exact Or.inr (Or.inl ⟨_, ‹_›, rfl⟩)
  · exact Or.inr (Or.inr ⟨_, _, rfl, ‹_›, rfl⟩)

theorem exists_step_of_adds (h : turn css brace? position = .adds node next) :
    ∃ rest, step (css.drop position) = .piece (.leaf node) rest ∧
      next = css.length - rest.length := by
  unfold turn at h
  split at h <;> cases h
  exact ⟨_, ‹_›, rfl⟩

theorem exists_step_of_enters (h : turn css brace? position = .enters head start) :
    ∃ rest, step (css.drop position) = .piece (.opening head) rest ∧
      start = css.length - rest.length := by
  unfold turn at h
  split at h <;> cases h
  exact ⟨_, ‹_›, rfl⟩

/-- A statement ends further ahead than its blanks. -/
theorem lt_of_turn_adds (h : turn css brace? position = .adds node next) :
    position + node.blanks.length < next ∧ next ≤ css.length := by
  obtain ⟨rest, hstep, rfl⟩ := exists_step_of_adds h
  exact ⟨(position_behind hstep).1, Nat.sub_le _ _⟩

/-- A block inside starts further ahead than the blanks of its head. -/
theorem lt_of_turn_enters (h : turn css brace? position = .enters head start) :
    position + head.blanks.length < start ∧ start ≤ css.length := by
  obtain ⟨rest, hstep, rfl⟩ := exists_step_of_enters h
  exact ⟨(position_behind hstep).1, Nat.sub_le _ _⟩

theorem le_of_turn_ends (h : turn css brace? position = .ends after next) :
    min position css.length ≤ next ∧ next ≤ css.length := by
  rcases step_of_turn_ends h with ⟨-, -, rfl⟩ | ⟨brace, rest, -, hstep, rfl⟩
  · exact ⟨Nat.min_le_right _ _, Nat.le_refl _⟩
  · have hbehind := (position_behind hstep).1
    exact ⟨by omega, Nat.sub_le _ _⟩

/-- A block ends no earlier than its reading begins. -/
theorem Reads.le_next {content : Content} (h : Reads css brace? position (.ok content)) :
    min position css.length ≤ content.next ∧ content.next ≤ css.length := by
  generalize houtcome : Except.ok content = outcome at h
  induction h generalizing content with
  | ends hturn =>
      obtain rfl := Except.ok.inj houtcome
      exact le_of_turn_ends hturn
  | fails => exact nomatch houtcome
  | failsInside => exact nomatch houtcome
  | @adds brace? position next node outcome hturn _ ih =>
      obtain ⟨inner, rfl, rfl⟩ := Result.exists_of_map_eq_ok houtcome.symm
      have hnext := lt_of_turn_adds hturn
      have hmore := ih rfl
      exact ⟨by simp only [Content.prepend]; omega, hmore.2⟩
  | @enters brace? position start head content outcome hturn _ _ ihinner ihmore =>
      obtain ⟨inner, rfl, rfl⟩ := Result.exists_of_map_eq_ok houtcome.symm
      have hstart := lt_of_turn_enters hturn
      have hinner := ihinner rfl
      have hmore := ihmore rfl
      exact ⟨by simp only [Content.prepend]; omega, hmore.2⟩

/-- Where a block inside starts, it is read to a place no earlier. -/
theorem Reads.start_le_next {content : Content}
    (hturn : turn css brace? position = .enters head start)
    (h : Reads css (some (start - 1)) start (.ok content)) : start ≤ content.next := by
  have hstart := lt_of_turn_enters hturn
  have hnext := h.le_next
  omega

/-! ## Outcomes -/

/-- Reading a block comes to an end. -/
theorem exists_reads (css : Text) (brace? : Option Nat) (position : Nat) :
    ∃ outcome, Reads css brace? position outcome := by
  induction hleft : css.length - position using Nat.strongRecOn generalizing brace? position with
  | ind left ih =>
      subst hleft
      cases hturn : turn css brace? position with
      | ends after next => exact ⟨_, .ends hturn⟩
      | fails fault => exact ⟨_, .fails hturn⟩
      | adds node next =>
          have hnext := lt_of_turn_adds hturn
          obtain ⟨outcome, hmore⟩ := ih _ (by omega) brace? next rfl
          exact ⟨_, .adds hturn hmore⟩
      | enters head start =>
          have hstart := lt_of_turn_enters hturn
          obtain ⟨inner, hinner⟩ := ih _ (by omega) (some (start - 1)) start rfl
          cases inner with
          | error fault => exact ⟨_, .failsInside hturn hinner⟩
          | ok content =>
              have hbehind := Reads.start_le_next hturn hinner
              obtain ⟨outcome, hmore⟩ := ih _ (by omega) brace? content.next rfl
              exact ⟨_, .enters hturn hinner hmore⟩

/-- Reading a block has one outcome. -/
theorem Reads.unique {outcome other : Except Fault Content} (h : Reads css brace? position outcome)
    (h' : Reads css brace? position other) : other = outcome := by
  induction h generalizing other with
  | ends hturn =>
      cases h' with
      | ends hother => cases hturn.symm.trans hother; rfl
      | fails hother | adds hother | enters hother | failsInside hother =>
          cases hturn.symm.trans hother
  | fails hturn =>
      cases h' with
      | fails hother => cases hturn.symm.trans hother; rfl
      | ends hother | adds hother | enters hother | failsInside hother =>
          cases hturn.symm.trans hother
  | adds hturn _ ih =>
      cases h' with
      | adds hother hmore =>
          cases hturn.symm.trans hother
          rw [ih hmore]
      | ends hother | fails hother | enters hother | failsInside hother =>
          cases hturn.symm.trans hother
  | enters hturn _ _ ihinner ihmore =>
      cases h' with
      | enters hother hinner hmore =>
          cases hturn.symm.trans hother
          cases ihinner hinner
          rw [ihmore hmore]
      | failsInside hother hinner =>
          cases hturn.symm.trans hother
          cases ihinner hinner
      | ends hother | fails hother | adds hother => cases hturn.symm.trans hother
  | failsInside hturn _ ihinner =>
      cases h' with
      | failsInside hother hinner =>
          cases hturn.symm.trans hother
          cases ihinner hinner
          rfl
      | enters hother hinner =>
          cases hturn.symm.trans hother
          cases ihinner hinner
      | ends hother | fails hother | adds hother => cases hturn.symm.trans hother

/-! ## The tree -/

theorem pieces_eq (s : Text) :
    pieces s =
      match step s with
      | .piece p rest => (p :: (pieces rest).1, (pieces rest).2)
      | .finished after => ([], .finished after)
      | .fault cause offset => ([], .fault cause offset) := by
  rw [pieces]
  split <;> rename_i hstep <;> rw [hstep]

/-- The pieces from a position on, put together with some blocks open. -/
def assembleFrom (css : Text) (stack : List OpenBlock) (nodes : List Node) (position : Nat) :
    Except Fault Stylesheet :=
  assemble stack nodes position (pieces (css.drop position)).1 (pieces (css.drop position)).2

variable {stack : List OpenBlock} {nodes : List Node}

/-- The innermost open block, or the sheet, closed with the content found for it. -/
def close (css : Text) (nodes : List Node) (content : Content) :
    List OpenBlock → Except Fault Stylesheet
  | [] => .ok ⟨nodes.reverse ++ content.nodes, content.after⟩
  | block :: outer =>
      assembleFrom css outer
        (block.head.close (nodes.reverse ++ content.nodes) content.after :: block.earlier)
        content.next

theorem assembleFrom_of_piece (h : step (css.drop position) = .piece p rest) :
    assembleFrom css stack nodes position =
      assemble stack nodes position (p :: (pieces rest).1) (pieces rest).2 := by
  rw [assembleFrom, pieces_eq, h]

theorem assembleFrom_of_ends
    (h : turn css (stack.head?.map (·.brace)) position = .ends after next) :
    assembleFrom css stack nodes position = close css nodes ⟨[], after, next⟩ stack := by
  rcases step_of_turn_ends h with ⟨hnone, hstep, rfl⟩ | ⟨brace, rest, hsome, hstep, rfl⟩
  · obtain rfl : stack = [] := List.head?_eq_none_iff.mp (Option.map_eq_none_iff.mp hnone)
    rw [assembleFrom, pieces_eq, hstep, assemble, close, List.append_nil]
  · obtain ⟨-, hnext, hrest⟩ := position_behind hstep
    rw [assembleFrom_of_piece hstep]
    cases stack with
    | nil => cases hsome
    | cons block outer =>
        rw [assemble, close, assembleFrom, hrest, hnext, List.append_nil]
        simp [Piece.render, Nat.add_assoc]

theorem assembleFrom_of_fails
    (h : turn css (stack.head?.map (·.brace)) position = .fails fault) :
    assembleFrom css stack nodes position = .error fault := by
  rcases step_of_turn_fails h with ⟨brace, after, hsome, hstep, rfl⟩ | ⟨offset, hstep, hoffset⟩ |
    ⟨before, rest, hnone, hstep, rfl⟩
  · rw [assembleFrom, pieces_eq, hstep]
    cases stack with
    | nil => cases hsome
    | cons block outer =>
        cases hsome
        rfl
  · rw [assembleFrom, pieces_eq, hstep, assemble, ← hoffset]
  · obtain rfl : stack = [] := List.head?_eq_none_iff.mp (Option.map_eq_none_iff.mp hnone)
    rw [assembleFrom_of_piece hstep, assemble]

theorem assembleFrom_of_adds (h : turn css brace? position = .adds node next) :
    assembleFrom css stack nodes position = assembleFrom css stack (node :: nodes) next := by
  obtain ⟨rest, hstep, rfl⟩ := exists_step_of_adds h
  obtain ⟨-, hnext, hrest⟩ := position_behind hstep
  rw [assembleFrom_of_piece hstep, assemble, assembleFrom, hrest, hnext]
  rfl

theorem assembleFrom_of_enters (h : turn css brace? position = .enters head start) :
    assembleFrom css stack nodes position =
      assembleFrom css (⟨head, start - 1, nodes⟩ :: stack) [] start := by
  obtain ⟨rest, hstep, rfl⟩ := exists_step_of_enters h
  obtain ⟨-, hnext, hrest⟩ := position_behind hstep
  rw [assembleFrom_of_piece hstep, assemble, assembleFrom, hrest, hnext]
  rfl

/-- What putting the pieces together makes of reading the innermost open block. -/
def conclude (css : Text) (stack : List OpenBlock) (nodes : List Node) :
    Except Fault Content → Except Fault Stylesheet
  | .ok content => close css nodes content stack
  | .error fault => .error fault

theorem close_prepend (css : Text) (nodes : List Node) (node : Node) (content : Content)
    (stack : List OpenBlock) :
    close css nodes (content.prepend node) stack = close css (node :: nodes) content stack := by
  cases stack <;> simp [close, Content.prepend]

theorem conclude_map_prepend (outcome : Except Fault Content) :
    conclude css stack nodes (outcome.map (·.prepend node)) =
      conclude css stack (node :: nodes) outcome := by
  cases outcome with
  | error fault => rfl
  | ok content => exact close_prepend css nodes node content stack

/-- The pieces are put together to what reading the blocks one by one gives. -/
theorem assembleFrom_of_reads {outcome : Except Fault Content}
    (h : Reads css brace? position outcome) :
    ∀ stack nodes, stack.head?.map (·.brace) = brace? →
      assembleFrom css stack nodes position = conclude css stack nodes outcome := by
  induction h with
  | ends hturn =>
      rintro stack nodes rfl
      exact assembleFrom_of_ends hturn
  | fails hturn =>
      rintro stack nodes rfl
      exact assembleFrom_of_fails hturn
  | adds hturn _ ih =>
      intro stack nodes hstack
      rw [assembleFrom_of_adds hturn, ih stack _ hstack, conclude_map_prepend]
  | enters hturn _ _ ihinner ihmore =>
      intro stack nodes hstack
      rw [assembleFrom_of_enters hturn, ihinner _ _ rfl, conclude, close, List.reverse_nil,
        List.nil_append, ihmore stack _ hstack, conclude_map_prepend]
  | failsInside hturn _ ihinner =>
      intro stack nodes hstack
      rw [assembleFrom_of_enters hturn, ihinner _ _ rfl]
      rfl

theorem parse_of_reads {outcome : Except Fault Content} (h : Reads css none 0 outcome) :
    parse css = outcome.map fun content => ⟨content.nodes, content.after⟩ := by
  have hparse : parse css = assembleFrom css [] [] 0 := rfl
  rw [hparse, assembleFrom_of_reads h [] [] rfl]
  cases outcome <;> rfl

/-! ## The whole reading -/

/-- An open statement that a turn adds is not empty, and the turn goes on behind it. -/
theorem ne_nil_of_turn_adds
    (h : turn css brace? position = .adds (statement before text false) next) :
    text ≠ [] ∧ next = position + before.length + text.length := by
  obtain ⟨rest, hstep, rfl⟩ := exists_step_of_adds h
  obtain ⟨hlt, hnext, -⟩ := position_behind hstep
  have hrender : (Piece.leaf (statement before text false)).render.length =
      before.length + text.length := by
    simp [Piece.render, render_statement, semicolonText]
  rw [hrender, ← Nat.add_assoc] at hnext
  rw [hnext, Piece.blanks, blanks_statement] at hlt
  exact ⟨List.length_pos_iff.mp (by omega), hnext⟩

/-- Whether a turn at the position comes to an end or goes on further ahead. -/
def Turn.Advances (css : Text) (position : Nat) : Turn → Prop
  | .ends _ next => min position css.length ≤ next
  | .fails _ => True
  | .adds node next =>
      min (position + node.blanks.length) css.length < min next css.length ∧
        ∀ before text, node = statement before text false →
          text ≠ [] ∧ next = position + before.length + text.length
  | .enters head start =>
      position + head.blanks.length < start ∧
        ∀ content, Reads css (some (start - 1)) start (.ok content) →
          start ≤ content.next ∧
            min (position + head.blanks.length) css.length < min content.next css.length

theorem advances_turn (css : Text) (brace? : Option Nat) (position : Nat) :
    (turn css brace? position).Advances css position := by
  cases hturn : turn css brace? position with
  | ends after next => exact (le_of_turn_ends hturn).1
  | fails fault => trivial
  | adds node next =>
      obtain ⟨hlt, hle⟩ := lt_of_turn_adds hturn
      refine ⟨by omega, fun before text hnode => ?_⟩
      rw [hnode] at hturn
      exact ne_nil_of_turn_adds hturn
  | enters head start =>
      obtain ⟨hlt, hle⟩ := lt_of_turn_enters hturn
      refine ⟨hlt, fun content hinner => ?_⟩
      have hnext := Reads.start_le_next hturn hinner
      exact ⟨hnext, by omega⟩

/-- Every turn ends its block, fails, or goes on further ahead, so that every block is read to
an end, wherever the reading begins.  Reading from the start gives the sheet. -/
theorem reading_advances (css : Text) :
    (∀ brace? position, (turn css brace? position).Advances css position ∧
      ∃! outcome, Reads css brace? position outcome) ∧
      ∃ outcome, Reads css none 0 outcome ∧
        parse css = outcome.map fun content => ⟨content.nodes, content.after⟩ := by
  refine ⟨fun brace? position => ⟨advances_turn css brace? position, ?_⟩, ?_⟩
  · obtain ⟨outcome, hreads⟩ := exists_reads css brace? position
    exact ⟨outcome, hreads, fun _ => hreads.unique⟩
  · obtain ⟨outcome, hreads⟩ := exists_reads css none 0
    exact ⟨outcome, hreads, parse_of_reads hreads⟩

/-- A rule inside an at-rule, whose statement stops short of the blanks before the brace, and a
backslash with nothing behind it. -/
theorem reading_advances_nested :
    let css := "@m\x7ba\x7bb \x7d\x7d\\".toList
    let rule := Node.rule [] ['a'] [] [.raw [] ['b'] false] [' ']
    let whole := Content.mk [.atBlock [] ['m'] [] [] [rule] [], .raw [] ['\\'] false] [] 10
    (turn css none 0 = .enters (.atRule [] ['m'] [] []) 3 ∧
        Reads css (some 2) 3 (.ok ⟨[rule], [], 9⟩) ∧ min 0 10 < min 9 10) ∧
      (turn css (some 4) 5 = .adds (statement [] ['b'] false) 6 ∧ 6 = 5 + 0 + 1) ∧
      (∀ other, Reads css none 0 other → other = .ok whole) ∧
      parse css = .ok ⟨whole.nodes, whole.after⟩ := by
  intro css rule whole
  have hmedia : turn css none 0 = .enters (.atRule [] ['m'] [] []) 3 := by with_unfolding_all rfl
  have hrule : turn css (some 2) 3 = .enters (.rule [] ['a'] []) 5 := by with_unfolding_all rfl
  have hadds : turn css (some 4) 5 = .adds (statement [] ['b'] false) 6 := by
    with_unfolding_all rfl
  have hinner : Reads css (some 4) 5 (.ok ⟨[.raw [] ['b'] false], [' '], 8⟩) :=
    .adds hadds (.ends (by with_unfolding_all rfl))
  have hblock : Reads css (some 2) 3 (.ok ⟨[rule], [], 9⟩) :=
    .enters hrule hinner (.ends (by with_unfolding_all rfl))
  have hlast : turn css none 9 = .adds (.raw [] ['\\'] false) 10 := by with_unfolding_all rfl
  have hwhole : Reads css none 0 (.ok whole) :=
    .enters hmedia hblock (.adds hlast (.ends (by with_unfolding_all rfl)))
  obtain ⟨hturns, outcome, hreads, hparse⟩ := reading_advances css
  have hone : ∀ other, Reads css none 0 other → other = .ok whole := fun other hother =>
    (hturns none 0).2.unique hother hwhole
  obtain rfl := hone outcome hreads
  have hentered := (hturns none 0).1
  rw [hmedia] at hentered
  have hadded := (hturns (some 4) 5).1
  rw [hadds] at hadded
  exact ⟨⟨hmedia, hblock, (hentered.2 _ hblock).2⟩, ⟨hadds, (hadded.2 _ _ rfl).2⟩, hone, hparse⟩

end ComponentCompiler.Stylesheet
