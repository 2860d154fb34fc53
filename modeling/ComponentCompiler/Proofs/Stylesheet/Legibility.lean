import ComponentCompiler.Proofs.Stylesheet.Reading

/-!
# Sheets that are read back

The pieces of a tree in their order are what its text has to be cut into for it to be
read as this tree.  That is so just when each piece can stand in front of the text of
those behind it.
-/

namespace ComponentCompiler.Stylesheet

open Text (AllBlank)

variable {ps : List Piece} {after css : Text} {sheet : Stylesheet} {nodes : List Node}
  {d : Declaration}

/-! ## The pieces of a tree -/

mutual

/-- The pieces of a statement. -/
def Node.flatten : Node → List Piece
  | .rule before selector between nodes after =>
      .opening (.rule before selector between) :: (flatten nodes ++ [.closing after])
  | .atBlock before name params between nodes after =>
      .opening (.atRule before name params between) :: (flatten nodes ++ [.closing after])
  | node => [.leaf node]

/-- The pieces of a list of statements. -/
def flatten : List Node → List Piece
  | [] => []
  | node :: rest => node.flatten ++ flatten rest

end

theorem flatten_append (nodes rest : List Node) :
    flatten (nodes ++ rest) = flatten nodes ++ flatten rest := by
  induction nodes with
  | nil => rfl
  | cons node nodes ih => rw [List.cons_append, flatten, ih, flatten, List.append_assoc]

theorem flatten_close (head : Head) (nodes : List Node) (after : Text) :
    (head.close nodes after).flatten = .opening head :: (flatten nodes ++ [.closing after]) := by
  cases head <;> rfl

theorem renderPieces_append (ps qs : List Piece) :
    renderPieces (ps ++ qs) = renderPieces ps ++ renderPieces qs :=
  List.flatMap_append

theorem renderPieces_cons (p : Piece) (ps : List Piece) :
    renderPieces (p :: ps) = p.render ++ renderPieces ps := rfl

theorem renderPieces_close {nodes : List Node}
    (h : renderPieces (flatten nodes) = renderNodes nodes) (head : Head) (after : Text) :
    renderPieces (head.close nodes after).flatten = (head.close nodes after).render := by
  rw [flatten_close, renderPieces_cons, renderPieces_append, h, render_close]
  simp [renderPieces, Piece.render]

mutual

theorem Node.renderPieces_flatten (node : Node) : renderPieces node.flatten = node.render := by
  cases node with
  | rule before selector between nodes after =>
      exact renderPieces_close (Stylesheet.renderPieces_flatten nodes)
        (.rule before selector between) after
  | atBlock before name params between nodes after =>
      exact renderPieces_close (Stylesheet.renderPieces_flatten nodes)
        (.atRule before name params between) after
  | comment | declaration | raw | atStatement => exact List.append_nil _

theorem renderPieces_flatten (nodes : List Node) :
    renderPieces (flatten nodes) = renderNodes nodes := by
  cases nodes with
  | nil => rfl
  | cons node rest =>
      rw [flatten, renderPieces_append, Node.renderPieces_flatten node,
        Stylesheet.renderPieces_flatten rest, renderNodes]

end

/-! ## Assembling -/

/-- Whether the pieces of some statements are put together to these statements. -/
def Reassembles (pieces : List Piece) (new : List Node) : Prop :=
  ∀ stack nodes offset rest ending,
    assemble stack nodes offset (pieces ++ rest) ending =
      assemble stack (new.reverse ++ nodes) (offset + (renderNodes new).length) rest ending

theorem reassembles_close {inner : List Node} (h : Reassembles (flatten inner) inner) (head : Head)
    (after : Text) : Reassembles (head.close inner after).flatten [head.close inner after] := by
  intro stack nodes offset rest ending
  rw [flatten_close, List.cons_append, List.append_assoc, assemble, h, List.append_nil,
    List.singleton_append, assemble, List.reverse_reverse]
  congr 1
  rw [renderNodes, renderNodes, List.append_nil, render_close]
  simp only [List.length_append, List.length_singleton]
  omega

mutual

theorem Node.reassembles_flatten (node : Node) : Reassembles node.flatten [node] := by
  cases node with
  | rule before selector between inner after =>
      exact reassembles_close (Stylesheet.reassembles_flatten inner)
        (.rule before selector between) after
  | atBlock before name params between inner after =>
      exact reassembles_close (Stylesheet.reassembles_flatten inner)
        (.atRule before name params between) after
  | comment | declaration | raw | atStatement =>
      intro stack nodes offset rest ending
      rw [renderNodes, renderNodes, List.append_nil]
      rfl

theorem reassembles_flatten (new : List Node) : Reassembles (flatten new) new := by
  cases new with
  | nil => exact fun _ _ _ _ _ => rfl
  | cons node more =>
      intro stack nodes offset rest ending
      have hoffset : offset + (renderNodes [node]).length + (renderNodes more).length =
          offset + (renderNodes (node :: more)).length := by
        simp only [renderNodes, List.append_nil, List.length_append, Nat.add_assoc]
      have hnodes : more.reverse ++ ([node].reverse ++ nodes) =
          (node :: more).reverse ++ nodes := by
        simp
      rw [flatten, List.append_assoc, Node.reassembles_flatten node,
        Stylesheet.reassembles_flatten more, hoffset, hnodes]

end

/-- The pieces of the blocks that are not closed, up to their innermost opening brace. -/
def openPieces : List OpenBlock → List Piece
  | [] => []
  | block :: outer => openPieces outer ++ flatten block.earlier.reverse ++ [.opening block.head]

theorem flatten_reverse_cons (node : Node) (nodes : List Node) :
    flatten (node :: nodes).reverse = flatten nodes.reverse ++ node.flatten := by
  rw [List.reverse_cons, flatten_append, flatten, flatten, List.append_nil]

/-- Assembling only moves pieces to the tree. -/
theorem flatten_of_assemble {stack : List OpenBlock} {nodes : List Node} {offset : Nat}
    (hleaf : ∀ node, .leaf node ∈ ps → node.flatten = [.leaf node])
    (h : assemble stack nodes offset ps (.finished after) = .ok sheet) :
    flatten sheet.nodes = openPieces stack ++ flatten nodes.reverse ++ ps ∧
      sheet.after = after := by
  induction ps generalizing stack nodes offset with
  | nil =>
      cases stack with
      | nil =>
          obtain rfl := Except.ok.inj h
          simp [openPieces]
      | cons block outer => cases h
  | cons p rest ih =>
      have hmore : ∀ node, .leaf node ∈ rest → node.flatten = [.leaf node] := fun node hnode =>
        hleaf node (List.mem_cons_of_mem _ hnode)
      cases p with
      | leaf node =>
          obtain ⟨hnodes, hafter⟩ := ih hmore h
          rw [hnodes, flatten_reverse_cons, hleaf node List.mem_cons_self]
          simp [hafter]
      | opening head =>
          obtain ⟨hnodes, hafter⟩ := ih hmore h
          rw [hnodes]
          simp [hafter, openPieces, flatten]
      | closing before =>
          cases stack with
          | nil => cases h
          | cons block outer =>
              obtain ⟨hnodes, hafter⟩ := ih hmore h
              rw [hnodes, flatten_reverse_cons, flatten_close]
              simp [hafter, openPieces]

/-! ## Reading -/

/-- Whether each piece can stand in front of the text of those behind it. -/
inductive Legible : List Piece → Text → Prop
  | done {after : Text} (hafter : AllBlank after) : Legible [] after
  | cons {p : Piece} {ps : List Piece} {after : Text}
      (hstands : Stands p (renderPieces ps ++ after)) (hrest : Legible ps after) :
      Legible (p :: ps) after

theorem step_of_allBlank (h : AllBlank after) : step after = .finished after := by
  have hleading := Text.leading_append h []
  have htrim := Text.trimStart_append h []
  rw [List.append_nil] at hleading htrim
  rw [step, htrim, hleading]
  simp [Text.leading, Text.trimStart]

theorem allBlank_of_step (h : step css = .finished after) : AllBlank after := by
  rw [step] at h
  split at h
  · obtain rfl := Step.finished.inj h
    exact Text.allBlank_leading css
  · split at h
    · cases h
    · split at h
      · split at h <;> cases h
      · split at h
        · cases h
        · split at h
          · exact absurd h (atStep_ne_finished _ _ _)
          · exact absurd h (plainStep_ne_finished _ _ _)

theorem pieces_of_legible (h : Legible ps after) :
    pieces (renderPieces ps ++ after) = (ps, .finished after) := by
  induction h with
  | done hafter =>
      rw [pieces]
      split
      · rename_i hstep
        cases hstep.symm.trans (step_of_allBlank hafter)
      · rename_i hstep
        obtain rfl := Step.finished.inj (hstep.symm.trans (step_of_allBlank hafter))
        rfl
      · rename_i hstep
        cases hstep.symm.trans (step_of_allBlank hafter)
  | @cons p ps after hstands hrest ih =>
      have hnext := step_of_stands hstands
      rw [← List.append_assoc, ← renderPieces_cons] at hnext
      rw [pieces]
      split
      · rename_i hstep
        obtain ⟨rfl, rfl⟩ := Step.piece.inj (hstep.symm.trans hnext)
        rw [ih]
      · rename_i hstep
        cases hstep.symm.trans hnext
      · rename_i hstep
        cases hstep.symm.trans hnext

theorem legible_of_pieces (h : (pieces css).2 = .finished after) :
    Legible (pieces css).1 after := by
  fun_induction pieces css with
  | case1 s p rest hstep ps ending hpieces ih =>
      rw [hpieces] at ih
      have hend : (pieces rest).2 = .finished after := by
        rw [hpieces]
        exact h
      have htext := renderPieces_append_of_pieces hend
      rw [hpieces] at htext
      have hstands := stands_of_step hstep
      rw [← htext] at hstands
      exact .cons hstands (ih h)
  | case2 s blanks hstep =>
      obtain rfl := Ending.finished.inj h
      exact .done (allBlank_of_step hstep)
  | case3 s cause offset hstep => cases h

theorem flatten_of_stands {node : Node} {rest : Text} (h : Stands (.leaf node) rest) :
    node.flatten = [.leaf node] := by
  have hstatement : ∀ before text semicolon,
      (statement before text semicolon).flatten = [.leaf (statement before text semicolon)] := by
    intro before text semicolon
    rw [statement]
    split <;> rfl
  cases h with
  | comment | stray | atStatement | atOpen => rfl
  | statement | openStatement => exact hstatement _ _ _

theorem Legible.exists_stands (h : Legible ps after) {p : Piece} (hp : p ∈ ps) :
    ∃ rest, Stands p rest := by
  induction h with
  | done => exact absurd hp List.not_mem_nil
  | cons hstands _ ih =>
      rcases List.mem_cons.mp hp with rfl | hmore
      · exact ⟨_, hstands⟩
      · exact ih hmore

theorem render_eq (sheet : Stylesheet) :
    sheet.render = renderPieces (flatten sheet.nodes) ++ sheet.after := by
  rw [render, renderPieces_flatten]

/-- A text is read as a sheet if and only if it is the text of the sheet and the pieces
of the sheet are legible. -/
theorem parse_eq_ok_iff :
    parse css = .ok sheet ↔ css = sheet.render ∧ Legible (flatten sheet.nodes) sheet.after := by
  constructor
  · intro h
    refine ⟨(render_of_parse h).symm, ?_⟩
    simp only [parse] at h
    obtain ⟨after, hend⟩ := finished_of_assemble h
    have hlegible := legible_of_pieces hend
    rw [hend] at h
    obtain ⟨hnodes, rfl⟩ := flatten_of_assemble (fun node hnode =>
      flatten_of_stands (hlegible.exists_stands hnode).choose_spec) h
    rw [hnodes]
    simpa [openPieces, flatten] using hlegible
  · rintro ⟨rfl, hlegible⟩
    have hassemble := reassembles_flatten sheet.nodes [] [] 0 [] (.finished sheet.after)
    rw [parse, render_eq, pieces_of_legible hlegible]
    dsimp only
    rw [List.append_nil] at hassemble
    rw [hassemble, List.append_nil, assemble, List.reverse_reverse]

/-! ## Part of what is legible -/

theorem Legible.of_append {qs : List Piece} (h : Legible (qs ++ ps) after) : Legible ps after := by
  induction qs with
  | nil => exact h
  | cons q qs ih =>
      cases h with
      | cons _ hrest => exact ih hrest

/-- Behind an open statement its block is closed, or there is nothing. -/
theorem Legible.closing_of_isOpen {p : Piece} (h : Legible (p :: ps) after) (hopen : p.IsOpen) :
    ps = [] ∨ ∃ before more, ps = .closing before :: more := by
  cases h with
  | cons hstands hrest =>
      have hclosing := hstands.closing_of_isOpen hopen
      cases hrest with
      | done => exact Or.inl rfl
      | @cons q qs _ hnext _ =>
          have hstep := step_of_stands hnext
          rw [renderPieces_cons, List.append_assoc] at hclosing
          rcases hclosing with hblank | ⟨before, more, hbefore, htext⟩
          · rw [step_of_allBlank hblank] at hstep
            cases hstep
          · rw [htext, step_append hbefore (by decide), if_pos rfl] at hstep
            obtain ⟨rfl, rfl⟩ := Step.piece.inj hstep
            exact Or.inr ⟨before, qs, rfl⟩

theorem flatten_isInfix_close (head : Head) (inner : List Node) (after : Text) :
    flatten inner <:+: (head.close inner after).flatten :=
  ⟨[.opening head], [.closing after], (flatten_close head inner after).symm⟩

mutual

theorem Node.flatten_isInfix {block : List Node} (node : Node) (h : block ∈ node.blocks) :
    Stylesheet.flatten block <:+: node.flatten := by
  cases node with
  | rule before selector between inner after =>
      have hinner := flatten_isInfix_close (.rule before selector between) inner after
      rcases List.mem_cons.mp h with rfl | h
      · exact hinner
      · exact (Stylesheet.flatten_isInfix inner h).trans hinner
  | atBlock before name params between inner after =>
      have hinner := flatten_isInfix_close (.atRule before name params between) inner after
      rcases List.mem_cons.mp h with rfl | h
      · exact hinner
      · exact (Stylesheet.flatten_isInfix inner h).trans hinner
  | comment | declaration | raw | atStatement => exact absurd h List.not_mem_nil

/-- The pieces of a block stand together among those of the statements around it. -/
theorem flatten_isInfix {block : List Node} (nodes : List Node) (h : block ∈ blocksOf nodes) :
    flatten block <:+: flatten nodes := by
  cases nodes with
  | nil => exact absurd h List.not_mem_nil
  | cons node rest =>
      rcases List.mem_append.mp h with h | h
      · exact (Node.flatten_isInfix node h).trans (List.prefix_append _ _).isInfix
      · exact (Stylesheet.flatten_isInfix rest h).trans (List.suffix_append _ _).isInfix

end

theorem flatten_isInfix_of_container (h : nodes ∈ sheet.containers) :
    flatten nodes <:+: flatten sheet.nodes := by
  rcases List.mem_cons.mp h with rfl | h
  · exact List.infix_rfl
  · exact flatten_isInfix sheet.nodes h

/-! ## The declarations of a sheet -/

theorem leaf_mem_flatten (hd : d ∈ declarations nodes) :
    Piece.leaf (.declaration d) ∈ flatten nodes := by
  induction nodes with
  | nil => exact absurd hd List.not_mem_nil
  | cons node rest ih =>
      cases node with
      | declaration e =>
          rcases List.mem_cons.mp hd with rfl | hd
          · exact List.mem_cons_self
          · exact List.mem_cons_of_mem _ (ih hd)
      | comment | raw | rule | atBlock | atStatement => exact List.mem_append_right _ (ih hd)

/-- The declarations of all blocks of a sheet that is read are found as pieces. -/
theorem exists_stands_of_declared (hparse : parse css = .ok sheet)
    (hnodes : nodes ∈ sheet.containers) (hd : d ∈ declarations nodes) :
    ∃ rest, Stands (.leaf (.declaration d)) rest := by
  obtain ⟨-, hlegible⟩ := parse_eq_ok_iff.mp hparse
  exact hlegible.exists_stands ((flatten_isInfix_of_container hnodes).subset (leaf_mem_flatten hd))

end ComponentCompiler.Stylesheet
