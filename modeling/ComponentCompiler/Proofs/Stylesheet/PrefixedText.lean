import ComponentCompiler.Proofs.Stylesheet.CopyText

/-!
# Reading a sheet with its copies

The text of a sheet with its copies is read as this sheet if and only if a semicolon ends
the value of each copy.  The pieces of the sheet with its copies are those of the sheet
with pieces put in front of declarations, so that nothing else has to be read anew.
-/

namespace ComponentCompiler.Stylesheet

variable {table : PrefixTable} {d : Declaration} {after css : Text} {ps qs ps' qs' : List Piece}
  {nodes : List Node} {sheet : Stylesheet}

/-! ## Pieces with copies -/

/-- The second pieces are the first ones with copies of closed values in front of their
declarations. -/
inductive Prefixed (table : PrefixTable) : List Piece → List Piece → Prop
  | nil : Prefixed table [] []
  | keep (p : Piece) {ps qs : List Piece} (hrest : Prefixed table ps qs) :
      Prefixed table (p :: ps) (p :: qs)
  | copy {d : Declaration} {name : Text} {ps qs : List Piece} (hname : name ∈ table.wanted d)
      (hclosed : IsClosed d.value)
      (hrest : Prefixed table (.leaf (.declaration d) :: ps) qs) :
      Prefixed table (.leaf (.declaration d) :: ps) (.leaf (.declaration (copyUnder name d)) :: qs)

theorem Prefixed.append (h : Prefixed table ps qs) (h' : Prefixed table ps' qs') :
    Prefixed table (ps ++ ps') (qs ++ qs') := by
  induction h with
  | nil => exact h'
  | keep p _ ih => exact .keep p ih
  | copy hname hclosed _ ih => exact .copy hname hclosed ih

/-- Behind an open statement the pieces are the same up to the end of its block. -/
theorem Prefixed.agreesToClosing (h : Prefixed table ps qs) {p : Piece}
    (hlegible : Legible (p :: ps) after) (hopen : p.IsOpen) :
    AgreesToClosing (renderPieces ps ++ after) (renderPieces qs ++ after) := by
  rcases hlegible.closing_of_isOpen hopen with rfl | ⟨before, more, rfl⟩
  · cases h
    exact Or.inl rfl
  · have hsplit : ∀ more, renderPieces (.closing before :: more) ++ after =
        before ++ '\x7d' :: (renderPieces more ++ after) := by
      intro more
      simp [renderPieces_cons, Piece.render]
    obtain ⟨_, hclosing⟩ := hlegible.exists_stands (List.mem_cons_of_mem p List.mem_cons_self)
    cases hclosing with
    | closing hbefore =>
        cases h with
        | keep _ hmore => exact Or.inr ⟨before, _, _, hbefore, hsplit _, hsplit _⟩

/-- Copies of closed values leave all pieces legible. -/
theorem Prefixed.legible (hplain : table.IsPlain) (h : Prefixed table ps qs)
    (hlegible : Legible ps after) : Legible qs after := by
  induction h with
  | nil => exact hlegible
  | keep p hrest ih =>
      cases hlegible with
      | cons hstands hmore =>
          have hagrees (hopen : p.IsOpen) := hrest.agreesToClosing (.cons hstands hmore) hopen
          exact .cons (hstands.replace hagrees) (ih hmore)
  | copy hname hclosed hrest ih =>
      have hqs := ih hlegible
      cases hlegible with
      | cons hstands _ =>
          obtain ⟨hcut, -⟩ := isCut_of_stands hstands
          exact .cons (stands_copyUnder hplain hname hcut hclosed _) hqs

/-! ## Blocks with copies -/

/-- Whether a semicolon ends the values of all copies that are put into a block. -/
def ClosesCopies (table : PrefixTable) (nodes : List Node) : Prop :=
  ∀ entry ∈ withCopies table (names nodes) nodes, ∀ copy ∈ entry.1, IsClosed copy.value

instance (table : PrefixTable) (nodes : List Node) : Decidable (ClosesCopies table nodes) :=
  inferInstanceAs (Decidable (∀ entry ∈ withCopies table (names nodes) nodes, _))

theorem prefixed_copies {copies : List Declaration}
    (hcopies : ∀ copy ∈ copies, copy = copyUnder copy.prop d ∧ copy.prop ∈ table.wanted d ∧
      IsClosed copy.value)
    (h : Prefixed table ps qs) :
    Prefixed table (.leaf (.declaration d) :: ps)
      (flatten (copies.map .declaration) ++ .leaf (.declaration d) :: qs) := by
  induction copies with
  | nil => exact .keep _ h
  | cons copy copies ih =>
      rw [List.forall_mem_cons] at hcopies
      obtain ⟨⟨hcopy, hname, hclosed⟩, hmore⟩ := hcopies
      have hrest := ih hmore
      rw [hcopy] at hclosed ⊢
      exact .copy hname hclosed hrest

theorem prefixed_entry {f : List Node → List Node} {copies : List Declaration} {node : Node}
    (hcopies : ∀ copy ∈ copies, ∃ d, node = .declaration d ∧ copy = copyUnder copy.prop d ∧
      copy.prop ∈ table.wanted d ∧ IsClosed copy.value)
    (hnode : Prefixed table node.flatten (node.mapBlocks f).flatten) (h : Prefixed table ps qs) :
    Prefixed table (node.flatten ++ ps)
      (flatten (copies.map .declaration) ++ ((node.mapBlocks f).flatten ++ qs)) := by
  cases hcopy : copies with
  | nil => exact hnode.append h
  | cons copy more =>
      -- only a declaration has copies
      obtain ⟨d, rfl, -⟩ := hcopies copy (by rw [hcopy]; exact List.mem_cons_self)
      rw [← hcopy]
      refine prefixed_copies (fun copy hmem => ?_) h
      obtain ⟨e, he, hcopy⟩ := hcopies copy hmem
      obtain rfl := Node.declaration.inj he
      exact hcopy

theorem prefixed_interleave {f : List Node → List Node}
    {copied : List (List Declaration × Node)}
    (hcopies : ∀ entry ∈ copied, ∀ copy ∈ entry.1, ∃ d, entry.2 = .declaration d ∧
      copy = copyUnder copy.prop d ∧ copy.prop ∈ table.wanted d ∧ IsClosed copy.value)
    (hnodes : ∀ entry ∈ copied, Prefixed table entry.2.flatten (entry.2.mapBlocks f).flatten) :
    Prefixed table (flatten (copied.map (·.2)))
      (flatten (interleave (copied.map fun entry => (entry.1, entry.2.mapBlocks f)))) := by
  induction copied with
  | nil => exact .nil
  | cons entry copied ih =>
      rw [List.forall_mem_cons] at hcopies hnodes
      have hrest := ih hcopies.2 hnodes.2
      rw [List.map_cons, List.map_cons, interleave_cons, flatten_append, flatten_append, flatten,
        flatten, flatten, List.append_nil]
      exact prefixed_entry hcopies.1 hnodes.1 hrest

theorem prefixed_prefixBlock (hcopies : ClosesCopies table nodes)
    (hnodes : ∀ node ∈ nodes,
      Prefixed table node.flatten (node.mapBlocks (prefixBlock table)).flatten) :
    Prefixed table (flatten nodes)
      (flatten (prefixBlock table (mapBlocksOf (prefixBlock table) nodes))) := by
  have hkept := map_snd_withCopies table (names nodes) nodes
  have hwithCopies : ∀ entry ∈ withCopies table (names nodes) nodes, ∀ copy ∈ entry.1,
      ∃ d, entry.2 = .declaration d ∧ copy = copyUnder copy.prop d ∧
        copy.prop ∈ table.wanted d ∧ IsClosed copy.value := by
    intro entry hentry copy hcopy
    obtain ⟨d, hd, hunder, hname, -⟩ := exists_of_mem_withCopies hentry hcopy
    exact ⟨d, hd, hunder, hname, hcopies entry hentry copy hcopy⟩
  have hkeeps : ∀ entry ∈ withCopies table (names nodes) nodes,
      Prefixed table entry.2.flatten (entry.2.mapBlocks (prefixBlock table)).flatten := by
    intro entry hentry
    exact hnodes _ (mem_of_mem_withCopies hentry)
  have hall := prefixed_interleave hwithCopies hkeeps
  rwa [hkept, ← withCopies_mapBlocksOf, ← prefixBlock_mapBlocksOf] at hall

theorem Prefixed.close {inner results : List Node}
    (h : Prefixed table (flatten inner) (flatten results)) (head : Head) (after : Text) :
    Prefixed table (head.close inner after).flatten (head.close results after).flatten := by
  rw [flatten_close, flatten_close]
  exact .keep _ (h.append (.keep _ .nil))

mutual

theorem Node.prefixed_flatten (node : Node) (h : ∀ inner ∈ node.blocks, ClosesCopies table inner) :
    Prefixed table node.flatten (node.mapBlocks (prefixBlock table)).flatten := by
  cases node with
  | rule before selector between inner after =>
      rw [Node.blocks, List.forall_mem_cons] at h
      have hinner := prefixed_prefixBlock h.1 (forall_prefixed_flatten inner h.2)
      exact hinner.close (.rule before selector between) after
  | atBlock before name params between inner after =>
      rw [Node.blocks, List.forall_mem_cons] at h
      have hinner := prefixed_prefixBlock h.1 (forall_prefixed_flatten inner h.2)
      exact hinner.close (.atRule before name params between) after
  | comment | declaration | raw | atStatement => exact .keep _ .nil

theorem forall_prefixed_flatten (nodes : List Node)
    (h : ∀ inner ∈ blocksOf nodes, ClosesCopies table inner) :
    ∀ node ∈ nodes, Prefixed table node.flatten (node.mapBlocks (prefixBlock table)).flatten := by
  cases nodes with
  | nil => exact fun _ hnode => absurd hnode List.not_mem_nil
  | cons node rest =>
      rw [blocksOf, List.forall_mem_append] at h
      rw [List.forall_mem_cons]
      exact ⟨Node.prefixed_flatten node h.1, forall_prefixed_flatten rest h.2⟩

end

/-! ## Sheets with copies -/

/-- A copy that is read as a declaration of its own has a closed value. -/
theorem closesCopies_of_parse (hplain : table.IsPlain)
    (h : parse css = .ok (sheet.addPrefixes table)) :
    ∀ nodes ∈ sheet.containers, ClosesCopies table nodes := by
  intro nodes hnodes entry hentry copy hcopy
  have hblock : prefixBlock table (mapBlocksOf (prefixBlock table) nodes) ∈
      (sheet.addPrefixes table).containers := by
    rw [addPrefixes, containers_mapContainers (blocksOf_prefixBlock table)]
    exact List.mem_map_of_mem hnodes
  have hdeclared : copy ∈
      declarations (prefixBlock table (mapBlocksOf (prefixBlock table) nodes)) := by
    rw [prefixBlock_mapBlocksOf, withCopies_mapBlocksOf, mem_declarations_interleave]
    exact Or.inl ⟨_, List.mem_map_of_mem hentry, hcopy⟩
  obtain ⟨rest, hstands⟩ := exists_stands_of_declared h hblock hdeclared
  obtain ⟨d, -, hunder, hname, -⟩ := exists_of_mem_withCopies hentry hcopy
  have hprop : ∀ c ∈ copy.prop, IsPlainChar c := fun c hc =>
    isPlainChar_of_isPropertyChar ((hplain.of_wanted hname).2.1 c hc)
  refine isClosed_of_stands hstands hprop ?_
  rw [hunder]
  rfl

theorem parse_render_addPrefixes (hplain : table.IsPlain) (hparse : parse css = .ok sheet)
    (hcloses : ∀ nodes ∈ sheet.containers, ClosesCopies table nodes) :
    parse (sheet.addPrefixes table).render = .ok (sheet.addPrefixes table) := by
  obtain ⟨-, hlegible⟩ := parse_eq_ok_iff.mp hparse
  rw [containers, List.forall_mem_cons] at hcloses
  have hprefixed := prefixed_prefixBlock hcloses.1 (forall_prefixed_flatten _ hcloses.2)
  exact parse_eq_ok_iff.mpr ⟨rfl, hprefixed.legible hplain hlegible⟩

/-- A declaration that has a semicolon of its own is copied safely. -/
theorem closesCopies_of_semicolon (hplain : table.IsPlain) (hparse : parse css = .ok sheet)
    (hnodes : nodes ∈ sheet.containers)
    (hsemicolon : ∀ d ∈ declarations nodes, table.wanted d ≠ [] → d.semicolon = true) :
    ClosesCopies table nodes := by
  intro entry hentry copy hcopy
  obtain ⟨d, hd, hunder, hname, -⟩ := exists_of_mem_withCopies hentry hcopy
  have hmem : Node.declaration d ∈ nodes := hd ▸ mem_of_mem_withCopies hentry
  have hdeclared : d ∈ declarations nodes := List.mem_filterMap.mpr ⟨_, hmem, rfl⟩
  obtain ⟨rest, hstands⟩ := exists_stands_of_declared hparse hnodes hdeclared
  have hclosed := isClosed_of_stands hstands (hplain.of_wanted hname).2.2
    (hsemicolon d hdeclared (List.ne_nil_of_mem hname))
  rwa [hunder]

/-- The prefixed names of the default table are written with letters and hyphens. -/
theorem isPlain_defaultPrefixedProperties :
    (StyleStage.prefixTable Settings.defaultPrefixedProperties).IsPlain := by
  decide

/-- The text of a sheet with its copies is read as this sheet if and only if a semicolon
ends the value of each copy. -/
theorem parse_render_addPrefixes_iff (hplain : table.IsPlain) (hparse : parse css = .ok sheet) :
    parse (sheet.addPrefixes table).render = .ok (sheet.addPrefixes table) ↔
      ∀ nodes ∈ sheet.containers, ClosesCopies table nodes := by
  constructor
  · intro hreads
    exact closesCopies_of_parse hplain hreads
  · intro hcloses
    exact parse_render_addPrefixes hplain hparse hcloses

/-- A string that a line feed ends, with a semicolon behind it, and a last declaration
without a semicolon whose value holds one in brackets, in a block inside a block. -/
theorem parse_render_addPrefixes_nested :
    let table := StyleStage.prefixTable Settings.defaultPrefixedProperties
    let css := "@media x\x7b.a\x7bmask:\"a\n;Hyphens : (a;b)\n\x7d\x7d".toList
    let block : List Node :=
      [.declaration ⟨[], "mask".toList, [':'], "\"a\n".toList, true⟩,
        .declaration ⟨[], "Hyphens".toList, " : ".toList, "(a;b)".toList, false⟩]
    let sheet : Stylesheet :=
      ⟨[.atBlock [] "media".toList " x".toList [] [.rule [] ".a".toList [] block ['\n']] []], []⟩
    table.IsPlain ∧ parse css = .ok sheet ∧ (∀ nodes ∈ sheet.containers, ClosesCopies table nodes) ∧
      (sheet.addPrefixes table).render =
        ("@media x\x7b.a\x7b-webkit-mask:\"a\n;mask:\"a\n;" ++
          "-webkit-hyphens : (a;b);-ms-hyphens : (a;b);Hyphens : (a;b)\n\x7d\x7d").toList ∧
      parse (sheet.addPrefixes table).render = .ok (sheet.addPrefixes table) := by
  intro table css block sheet
  have hplain : table.IsPlain := isPlain_defaultPrefixedProperties
  have hparse : parse css = .ok sheet := by with_unfolding_all rfl
  have hcloses : ∀ nodes ∈ sheet.containers, ClosesCopies table nodes := by decide +kernel
  exact ⟨hplain, hparse, hcloses, by decide +kernel,
    (parse_render_addPrefixes_iff hplain hparse).mpr hcloses⟩

/-- The copy of a string without its closing quotation mark takes in the semicolon behind
it and the declaration it was made of. -/
theorem parse_render_addPrefixes_of_open_string :
    let table := StyleStage.prefixTable Settings.defaultPrefixedProperties
    let sheet : Stylesheet := ⟨[.rule [] ".a".toList []
      [.declaration ⟨[], "mask".toList, [':'], "\"a".toList, false⟩] ['\n']], []⟩
    let other : Stylesheet := ⟨[.rule [] ".a".toList []
      [.declaration ⟨[], "-webkit-mask".toList, [':'], "\"a;mask:\"a".toList, false⟩] ['\n']], []⟩
    parse ".a\x7bmask:\"a\n\x7d".toList = .ok sheet ∧
      (sheet.addPrefixes table).render = ".a\x7b-webkit-mask:\"a;mask:\"a\n\x7d".toList ∧
      (sheet.addPrefixes table).containers.map names =
        [[], ["-webkit-mask".toList, "mask".toList]] ∧
      parse (sheet.addPrefixes table).render = .ok other ∧
      other ≠ sheet.addPrefixes table := by
  intro table sheet other
  have hrender : (sheet.addPrefixes table).render =
      ".a\x7b-webkit-mask:\"a;mask:\"a\n\x7d".toList := by decide +kernel
  have hnames : (sheet.addPrefixes table).containers.map names =
      [[], ["-webkit-mask".toList, "mask".toList]] := by decide +kernel
  have hothers : other.containers.map names = [[], ["-webkit-mask".toList]] := by decide +kernel
  refine ⟨by with_unfolding_all rfl, hrender, hnames, ?_, fun hsame => ?_⟩
  · rw [hrender]
    with_unfolding_all rfl
  · rw [← hsame, hothers] at hnames
    exact absurd hnames (by decide)

end ComponentCompiler.Stylesheet
