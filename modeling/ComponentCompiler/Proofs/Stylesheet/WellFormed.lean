import ComponentCompiler.Proofs.Component.Outcome
import ComponentCompiler.Proofs.Selector.Idempotence
import ComponentCompiler.Proofs.Stylesheet.PrefixedText
import ComponentCompiler.Proofs.Stylesheet.ScopedRules

/-!
# Well-formed sheets

A tree can be put together whose text means something else: a declaration without its
semicolon runs into the one behind it, a property with a colon in it is cut at that colon,
and a comment is over where its text first says so.  Reading a text gives no such tree, and
scoping and prefixing make none of it.
-/

namespace ComponentCompiler.Stylesheet

open Text (AllBlank leading trailing trimEnd apostrophe)

variable {table : PrefixTable} {id css text after rest : Text} {node result : Node}
  {nodes : List Node} {sheet : Stylesheet} {more : List Piece}

/-! ## Statements that can be told apart -/

/-- Whether only the end of its block ends a statement, which has no semicolon and no block
of its own. -/
def Node.IsOpen (node : Node) : Prop := (Piece.leaf node).IsOpen

/-- Whether a text is one comment, up to the first closing delimiter in it. -/
def IsComment (text : Text) : Prop :=
  ∃ body, text = '/' :: '*' :: body ∧ ['*', '/'] <:+ body ∧
    ∀ front back, body = front ++ '*' :: '/' :: back → back = []

/-- The characters that the property of a declaration does not hold. -/
def colonBars : List Char := [':', '"', apostrophe, '(', '/']

/-- Whether blanks are all that stands around a text, and none of them belongs to its end. -/
structure IsFramed (before text between : Text) : Prop where
  before : AllBlank before
  text : trailing text = []
  between : AllBlank between

/-- Whether the parts of a statement, those of its block apart, are what they are named. -/
def Node.IsTidy : Node → Prop
  | .comment before text => AllBlank before ∧ IsComment text
  | .declaration d => IsCut d ∧ trailing d.prop = [] ∧ ∀ c ∈ d.prop, c ∉ colonBars
  | .raw before _ _ => AllBlank before
  | .rule before selector between _ after => IsFramed before selector between ∧ AllBlank after
  | .atBlock before _ params between _ after => IsFramed before params between ∧ AllBlank after
  | .atStatement before _ params between _ => IsFramed before params between

/-- Whether the statements of one block are tidy, and nothing stands behind an open one. -/
structure IsSound (nodes : List Node) : Prop where
  tidy : ∀ node ∈ nodes, node.IsTidy
  closed : nodes.Pairwise fun node _ => ¬ node.IsOpen

/-- Whether the statements of a sheet and those of every block in it are sound. -/
structure IsWellFormed (sheet : Stylesheet) : Prop where
  containers : ∀ nodes ∈ sheet.containers, IsSound nodes
  after : AllBlank sheet.after

theorem isSound_nil : IsSound [] := ⟨fun _ hnode => absurd hnode List.not_mem_nil, .nil⟩

theorem isSound_cons_iff {rest : List Node} :
    IsSound (node :: rest) ↔ node.IsTidy ∧ (node.IsOpen → rest = []) ∧ IsSound rest := by
  have hlast : (∀ other ∈ rest, ¬ node.IsOpen) ↔ (node.IsOpen → rest = []) := by
    rw [List.eq_nil_iff_forall_not_mem]
    exact ⟨fun h hopen other hother => h other hother hopen,
      fun h other hother hopen => h hopen other hother⟩
  constructor
  · rintro ⟨htidy, hclosed⟩
    rw [List.forall_mem_cons] at htidy
    rw [List.pairwise_cons, hlast] at hclosed
    exact ⟨htidy.1, hclosed.1, htidy.2, hclosed.2⟩
  · rintro ⟨hnode, hopen, htidy, hclosed⟩
    exact ⟨List.forall_mem_cons.mpr ⟨hnode, htidy⟩, .cons (hlast.mpr hopen) hclosed⟩

/-! ## Reading -/

theorem isComment_of_length (hstart : startsComment (text ++ rest) = true)
    (hlength : commentLength? (text ++ rest) = some text.length) : IsComment text := by
  obtain ⟨m, hend, hm⟩ := Option.map_eq_some_iff.mp hlength
  have htwo : ['/', '*'] <+: text := by
    refine List.prefix_of_prefix_length_le (List.isPrefixOf_iff_prefix.mp hstart)
      (List.prefix_append text rest) ?_
    simp only [List.length_cons, List.length_nil]
    omega
  obtain ⟨body, rfl⟩ := htwo
  obtain rfl : m = body.length := by simpa using hm
  replace hend : Text.endOfFirst? ['*', '/'] (body ++ rest) = some body.length := hend
  have hfound : ['*', '/'] <:+: body ++ rest := by
    by_contra hnone
    rw [(Text.endOfFirst?_eq_none_iff (by simp)).mpr hnone] at hend
    cases hend
  obtain ⟨first, later, hsplit, hfirst, hearliest⟩ := Text.exists_first_occurrence hfound
  have hsame : body.length = (first ++ ['*', '/']).length := by
    rw [List.length_append]
    exact Option.some.inj (hend.symm.trans hfirst)
  obtain ⟨hbody, -⟩ := List.append_inj hsplit hsame
  refine ⟨body, rfl, ⟨first, hbody.symm⟩, fun front back heq => ?_⟩
  have hearlier := hearliest front (back ++ rest) (by rw [heq]; simp)
  have hle := hearlier.length_le
  rw [heq] at hsame
  simp only [List.length_append, List.length_cons, List.length_nil] at hsame
  exact List.eq_nil_of_length_eq_zero (by omega)

/-- The colon of a declaration is the first of the characters that it is looked for among. -/
theorem not_mem_colonBars_of_colonIndex? {colon : Nat} (h : colonIndex? text = some colon) :
    ∀ c ∈ text.take colon, c ∉ colonBars := by
  induction text generalizing colon with
  | nil => cases h
  | cons c text ih =>
      rw [colonIndex?] at h
      split at h
      · obtain rfl := Option.some.inj h
        exact fun _ hc => absurd hc List.not_mem_nil
      · rename_i hcolon
        split at h
        · cases h
        · rename_i hbar
          obtain ⟨further, hfurther, rfl⟩ := Option.map_eq_some_iff.mp h
          rw [List.take_succ_cons, List.forall_mem_cons]
          refine ⟨?_, ih hfurther⟩
          simp only [colonBars, List.mem_cons, List.not_mem_nil, or_false]
          exact not_or.mpr ⟨hcolon, hbar⟩

theorem Node.isTidy_statement {before : Text} (hbefore : AllBlank before) (text : Text)
    (semicolon : Bool) : (statement before text semicolon).IsTidy := by
  rw [statement]
  split
  · exact hbefore
  · rename_i colon hcolon
    have hhead : trimEnd (text.take colon) <+: text.take colon :=
      ⟨_, Text.trimEnd_append_trailing _⟩
    refine ⟨⟨hbefore, ?_, Text.leading_trimStart _⟩, Text.trailing_trimEnd _, fun c hc => ?_⟩
    · exact ⟨_, _, Text.allBlank_trailing _, Text.allBlank_leading _, rfl⟩
    · exact not_mem_colonBars_of_colonIndex? hcolon c (hhead.subset hc)

theorem isFramed_trimEnd {before : Text} (hbefore : AllBlank before) (text : Text) :
    IsFramed before (trimEnd text) (trailing text) :=
  ⟨hbefore, Text.trailing_trimEnd text, Text.allBlank_trailing text⟩

theorem Node.isTidy_of_stands (h : Stands (.leaf node) rest) : node.IsTidy := by
  cases h with
  | comment hbefore hstart hlength => exact ⟨hbefore, isComment_of_length hstart hlength⟩
  | stray hbefore => exact hbefore
  | atStatement hbefore | atOpen hbefore => exact isFramed_trimEnd hbefore _
  | statement hbefore | openStatement hbefore => exact isTidy_statement hbefore _ _

theorem Node.isTidy_of_flatten (h : ∀ p ∈ node.flatten, ∃ rest, Stands p rest) : node.IsTidy := by
  cases node with
  | rule before selector between nodes after =>
      obtain ⟨_, hopening⟩ := h _ List.mem_cons_self
      obtain ⟨_, hclosing⟩ := h (.closing after) (by simp [Node.flatten])
      cases hopening with
      | rule hbefore =>
          cases hclosing with
          | closing hafter => exact ⟨isFramed_trimEnd hbefore _, hafter⟩
  | atBlock before name params between nodes after =>
      obtain ⟨_, hopening⟩ := h _ List.mem_cons_self
      obtain ⟨_, hclosing⟩ := h (.closing after) (by simp [Node.flatten])
      cases hopening with
      | atBlock hbefore =>
          cases hclosing with
          | closing hafter => exact ⟨isFramed_trimEnd hbefore _, hafter⟩
  | comment | declaration | raw | atStatement =>
      obtain ⟨_, hleaf⟩ := h _ List.mem_cons_self
      exact isTidy_of_stands hleaf

/-- No statement begins with the end of a block. -/
theorem flatten_cons_ne_closing (node : Node) (rest : List Node) (more qs : List Piece) :
    flatten (node :: rest) ++ more ≠ .closing after :: qs := by
  cases node <;> simp [flatten, Node.flatten]

theorem isSound_of_legible (h : Legible (flatten nodes ++ more) after) : IsSound nodes := by
  induction nodes with
  | nil => exact isSound_nil
  | cons node rest ih =>
      rw [flatten, List.append_assoc] at h
      refine isSound_cons_iff.mpr ⟨?_, fun hopen => ?_, ih h.of_append⟩
      · exact Node.isTidy_of_flatten fun p hp => h.exists_stands (List.mem_append_left _ hp)
      · have hleaf : node.flatten = [.leaf node] := by
          cases node <;> first | rfl | cases hopen
        rw [hleaf] at h
        cases rest with
        | nil => rfl
        | cons next rest =>
            rcases h.closing_of_isOpen hopen with hnil | ⟨before, qs, hclosing⟩
            · cases next <;> simp [flatten, Node.flatten] at hnil
            · exact absurd hclosing (flatten_cons_ne_closing next rest more qs)

theorem Legible.allBlank {ps : List Piece} (h : Legible ps after) : AllBlank after := by
  induction h with
  | done hafter => exact hafter
  | cons _ _ ih => exact ih

/-- Reading a text gives a well-formed sheet. -/
theorem isWellFormed_of_parse (h : parse css = .ok sheet) : sheet.IsWellFormed := by
  obtain ⟨-, hlegible⟩ := parse_eq_ok_iff.mp h
  refine ⟨fun nodes hnodes => ?_, hlegible.allBlank⟩
  obtain ⟨front, back, hinfix⟩ := flatten_isInfix_of_container hnodes
  rw [← hinfix, List.append_assoc] at hlegible
  exact isSound_of_legible hlegible.of_append

/-! ## Scoping -/

theorem Node.isOpen_of_scoped (h : node.Scoped id result) (hopen : result.IsOpen) :
    node.IsOpen := by
  cases h with
  | rule | media => cases hopen
  | other => exact hopen

/-- Scoping does not bring blanks to the end of a selector. -/
theorem trailing_of_scopeSelector {selector confined : Text}
    (h : Selector.scopeSelector id selector = .ok confined) :
    trailing confined = trailing selector := by
  rcases Selector.scopeSelector_cases h with ⟨_, rfl⟩ | ⟨list, _, hlist, rfl⟩
  · rfl
  · exact (Selector.trim_scope id hlist).2.2

theorem Node.isTidy_of_scoped (h : node.Scoped id result) (htidy : node.IsTidy) :
    result.IsTidy := by
  cases h with
  | rule hconfined =>
      obtain ⟨⟨hbefore, hselector, hbetween⟩, hafter⟩ := htidy
      rw [← trailing_of_scopeSelector hconfined] at hselector
      exact ⟨⟨hbefore, hselector, hbetween⟩, hafter⟩
  | media | other => exact htidy

mutual

theorem Node.isSound_blocks_of_scope {node result : Node} (h : node.scope id = .ok result)
    (hsound : ∀ inner ∈ node.blocks, IsSound inner) : ∀ inner ∈ result.blocks, IsSound inner := by
  cases Node.scoped_of_scope h with
  | rule | other => exact hsound
  | media _ hinner => exact isSound_of_scopeNodes hinner hsound

/-- Scoping keeps the statements of a list and of all blocks in it sound. -/
theorem isSound_of_scopeNodes {nodes results : List Node} (h : scopeNodes id nodes = .ok results)
    (hsound : ∀ inner ∈ nodes :: blocksOf nodes, IsSound inner) :
    ∀ inner ∈ results :: blocksOf results, IsSound inner := by
  cases nodes with
  | nil =>
      obtain rfl := Except.ok.inj h
      exact hsound
  | cons node rest =>
      obtain ⟨first, others, hfirst, hothers, rfl⟩ := exists_of_scopeNodes_cons h
      have hscoped := Node.scoped_of_scope hfirst
      rw [List.forall_mem_cons, blocksOf, List.forall_mem_append, isSound_cons_iff] at hsound ⊢
      obtain ⟨⟨htidy, hopen, hrest⟩, hblocks, hinner⟩ := hsound
      have hall := isSound_of_scopeNodes hothers (List.forall_mem_cons.mpr ⟨hrest, hinner⟩)
      rw [List.forall_mem_cons] at hall
      refine ⟨⟨Node.isTidy_of_scoped hscoped htidy, fun hlast => ?_, hall.1⟩,
        Node.isSound_blocks_of_scope hfirst hblocks, hall.2⟩
      obtain rfl := hopen (Node.isOpen_of_scoped hscoped hlast)
      exact (Except.ok.inj hothers).symm

end

theorem IsWellFormed.of_scope {confined : Stylesheet} (hsheet : sheet.IsWellFormed)
    (h : sheet.scope id = .ok confined) : confined.IsWellFormed := by
  obtain ⟨results, hresults, hconfined⟩ := Result.exists_of_bind_eq_ok h
  obtain rfl := Except.ok.inj hconfined
  exact ⟨isSound_of_scopeNodes hresults hsheet.containers, hsheet.after⟩

/-! ## Prefixing -/

theorem isSound_mapBlocksOf (f : List Node → List Node) (h : IsSound nodes) :
    IsSound (mapBlocksOf f nodes) := by
  have htidy : ∀ node : Node, node.IsTidy → (node.mapBlocks f).IsTidy := by
    intro node hnode
    cases node <;> exact hnode
  have hopen : ∀ node : Node, (node.mapBlocks f).IsOpen → node.IsOpen := by
    intro node hnode
    cases node <;> exact hnode
  rw [mapBlocksOf_eq_map]
  refine ⟨List.forall_mem_map.mpr fun node hnode => htidy node (h.tidy node hnode), ?_⟩
  exact List.pairwise_map.mpr (h.closed.imp fun hnode => mt (hopen _) hnode)

/-- Declarations that are tidy and have semicolons may be put in front. -/
theorem isSound_declarations_append {copies : List Declaration}
    (hcopies : ∀ copy ∈ copies, (Node.declaration copy).IsTidy ∧ copy.semicolon = true)
    (h : IsSound nodes) : IsSound (copies.map .declaration ++ nodes) := by
  induction copies with
  | nil => exact h
  | cons copy copies ih =>
      rw [List.forall_mem_cons] at hcopies
      obtain ⟨⟨htidy, hsemicolon⟩, hmore⟩ := hcopies
      refine isSound_cons_iff.mpr ⟨htidy, fun hopen => ?_, ih hmore⟩
      cases hsemicolon.symm.trans hopen

theorem isSound_interleave {copied : List (List Declaration × Node)}
    (hcopies : ∀ entry ∈ copied, ∀ copy ∈ entry.1,
      (Node.declaration copy).IsTidy ∧ copy.semicolon = true)
    (h : IsSound (copied.map (·.2))) : IsSound (interleave copied) := by
  induction copied with
  | nil => exact isSound_nil
  | cons entry copied ih =>
      rw [List.forall_mem_cons] at hcopies
      obtain ⟨htidy, hopen, hrest⟩ := isSound_cons_iff.mp h
      rw [interleave_cons]
      refine isSound_declarations_append hcopies.1 (isSound_cons_iff.mpr ⟨htidy, ?_, ?_⟩)
      · intro hlast
        obtain rfl := List.map_eq_nil_iff.mp (hopen hlast)
        rfl
      · exact ih hcopies.2 hrest

/-- A copy of a tidy declaration is tidy. -/
theorem isTidy_copyUnder (hplain : table.IsPlain) {d : Declaration} {name : Text}
    (hname : name ∈ table.wanted d) (hd : (Node.declaration d).IsTidy) :
    (Node.declaration (copyUnder name d)).IsTidy := by
  obtain ⟨hcut, -, -⟩ := hd
  obtain ⟨-, hchars, -⟩ := hplain.of_wanted hname
  have hmarks : colonBars ⊆ propertyMarks := by decide
  refine ⟨⟨hcut.before, hcut.between, hcut.value⟩, hplain.trailing_of_wanted hname, ?_⟩
  exact fun c hc hbar => isPlainChar_of_isPropertyChar (hchars c hc) (hmarks hbar)

theorem isSound_prefixBlock (hplain : table.IsPlain) (h : IsSound nodes) :
    IsSound (prefixBlock table nodes) := by
  rw [prefixBlock_eq_interleave]
  refine isSound_interleave (fun entry hentry copy hcopy => ?_) (by rwa [map_snd_withCopies])
  obtain ⟨d, hd, hunder, hname, -⟩ := exists_of_mem_withCopies hentry hcopy
  have hmem : Node.declaration d ∈ nodes := hd ▸ mem_of_mem_withCopies hentry
  rw [hunder]
  exact ⟨isTidy_copyUnder hplain hname (h.tidy _ hmem), rfl⟩

theorem IsWellFormed.addPrefixes (hsheet : sheet.IsWellFormed) (hplain : table.IsPlain) :
    (sheet.addPrefixes table).IsWellFormed := by
  refine ⟨?_, hsheet.after⟩
  rw [Stylesheet.addPrefixes, containers_mapContainers (blocksOf_prefixBlock table),
    List.forall_mem_map]
  exact fun nodes hnodes =>
    isSound_prefixBlock hplain (isSound_mapBlocksOf _ (hsheet.containers nodes hnodes))

end ComponentCompiler.Stylesheet

namespace ComponentCompiler.StyleStage

open Build Stylesheet

variable {around : Surroundings} {sheet result : Stylesheet} {s : BuildState}

/-- The stages that are there without being configured, prefixing with the default table. -/
def builtIn : List StyleStage := [scope, prefixes Settings.defaultPrefixedProperties]

/-- One run of a built-in stage keeps a sheet well-formed. -/
theorem isWellFormed_of_apply {context : StageContext} {stage : StyleStage}
    (hstage : stage ∈ builtIn) (hsheet : sheet.IsWellFormed)
    (h : (stage.apply around context sheet).outcome s = .ok result) : result.IsWellFormed := by
  simp only [builtIn, List.mem_cons, List.not_mem_nil, or_false] at hstage
  rcases hstage with rfl | rfl
  · rw [apply] at h
    cases hscope : sheet.scope context.scopeId.toList with
    | ok confined =>
        rw [hscope] at h
        obtain rfl := Except.ok.inj h
        exact hsheet.of_scope hscope
    | error invalid =>
        rw [hscope] at h
        cases h
  · obtain rfl := Except.ok.inj h
    exact hsheet.addPrefixes isPlain_defaultPrefixedProperties

/-- A sheet that is read is well-formed, and so is what runs of the built-in stages make of
it, in any order, any number of times and under any scopes. -/
theorem isWellFormed_of_runs {css : Text} {runs : List (StageContext × StyleStage)}
    (hparse : parse css = .ok sheet) (hruns : ∀ run ∈ runs, run.2 ∈ builtIn)
    (h : outcome (runs.foldlM (fun sheet run => run.2.apply around run.1 sheet) sheet) s =
      .ok result) : result.IsWellFormed := by
  have hsheet := isWellFormed_of_parse hparse
  clear hparse
  induction runs generalizing sheet s with
  | nil =>
      obtain rfl := Except.ok.inj h
      exact hsheet
  | cons run runs ih =>
      rw [List.forall_mem_cons] at hruns
      rw [List.foldlM_cons] at h
      cases hfirst : (run.2.apply around run.1 sheet).outcome s with
      | error e =>
          rw [outcome_bind_of_error hfirst] at h
          cases h
      | ok changed =>
          rw [outcome_bind_of_ok hfirst] at h
          exact ih hruns.2 h (isWellFormed_of_apply hruns.1 hsheet hfirst)

/-- Two scopes with prefixing between them, over a comment, a media query with a block whose
last declaration has no semicolon, and an import without one at the end. -/
theorem isWellFormed_of_runs_nested :
    let around : Surroundings :=
      { disk := { workingDirectory := "/work" }, extensions := Extensions.none }
    let context (id : String) : StageContext := ⟨id, none, {}⟩
    let runs := [(context "v", scope), (context "v", prefixes Settings.defaultPrefixedProperties),
      (context "w", scope)]
    let css := "/*a*/@media x\x7b.a:b \x7bmask : c;Hyphens:d\n\x7d\x7d@import y\n".toList
    let block : List Node :=
      [.declaration ⟨[], "mask".toList, " : ".toList, ['c'], true⟩,
        .declaration ⟨[], "Hyphens".toList, [':'], ['d'], false⟩]
    let sheet : Stylesheet :=
      ⟨[.comment [] "/*a*/".toList,
        .atBlock [] "media".toList " x".toList [] [.rule [] ".a:b".toList [' '] block ['\n']] [],
        .atStatement [] "import".toList " y".toList ['\n'] false], []⟩
    parse css = .ok sheet ∧ (∀ run ∈ runs, run.2 ∈ builtIn) ∧
      ∃ result, outcome (runs.foldlM (fun sheet run => run.2.apply around run.1 sheet) sheet) {} =
          .ok result ∧
        result.render = ("/*a*/@media x\x7b.a[v][w]:b \x7b-webkit-mask : c;mask : c;" ++
          "-webkit-hyphens:d;-ms-hyphens:d;Hyphens:d\n\x7d\x7d@import y\n").toList ∧
        result.IsWellFormed := by
  intro around context runs css block sheet
  have hparse : parse css = .ok sheet := by with_unfolding_all rfl
  have hruns : ∀ run ∈ runs, run.2 ∈ builtIn := by simp [runs, builtIn]
  have hrendered : (outcome (runs.foldlM (fun sheet run => run.2.apply around run.1 sheet) sheet)
      {}).toOption.map (·.render) = some ("/*a*/@media x\x7b.a[v][w]:b \x7b-webkit-mask : c;" ++
        "mask : c;-webkit-hyphens:d;-ms-hyphens:d;Hyphens:d\n\x7d\x7d@import y\n").toList := by
    decide +kernel
  refine ⟨hparse, hruns, ?_⟩
  cases hresult : outcome (runs.foldlM (fun sheet run => run.2.apply around run.1 sheet) sheet)
      {} with
  | error e =>
      rw [hresult] at hrendered
      cases hrendered
  | ok result =>
      rw [hresult] at hrendered
      exact ⟨result, rfl, Option.some.inj hrendered, isWellFormed_of_runs hparse hruns hresult⟩

end ComponentCompiler.StyleStage
