import ComponentCompiler.Proofs.Stylesheet.Prefixing
import ComponentCompiler.Proofs.Stylesheet.ScopedRules

/-!
# The order of scoping and prefixing

Scoping changes selectors and looks at no declaration; prefixing puts declarations in front
of declarations and looks at no selector.  So it does not matter which of them is done
first, and a selector that cannot be read is reported in both orders, the same one of
several: prefixing leaves the statements with selectors in their order.
-/

namespace ComponentCompiler

namespace Stylesheet

variable {id : Text} {f : List Node → List Node} {node result : Node} {nodes results : List Node}

/-! ## A change to every block -/

mutual

theorem Node.scope_mapBlocks
    (hf : ∀ nodes, scopeNodes id (f nodes) = (scopeNodes id nodes).map f) (node : Node) :
    (node.mapBlocks f).scope id = (node.scope id).map (·.mapBlocks f) := by
  cases node with
  | rule before selector between nodes after =>
      rw [Node.mapBlocks, Node.scope, Node.scope]
      cases Selector.scopeSelector id selector <;> rfl
  | atBlock before name params between nodes after =>
      rw [Node.mapBlocks, Node.scope, Node.scope]
      split
      · rw [hf, scopeNodes_mapBlocksOf hf nodes]
        cases scopeNodes id nodes <;> rfl
      · rfl
  | comment | declaration | raw | atStatement => rfl

/-- If scoping can be done before or after a change to one block, so it can before or after
this change to every block. -/
theorem scopeNodes_mapBlocksOf
    (hf : ∀ nodes, scopeNodes id (f nodes) = (scopeNodes id nodes).map f) (nodes : List Node) :
    scopeNodes id (mapBlocksOf f nodes) = (scopeNodes id nodes).map (mapBlocksOf f) := by
  cases nodes with
  | nil => rfl
  | cons node rest =>
      rw [mapBlocksOf, scopeNodes, scopeNodes, Node.scope_mapBlocks hf node,
        scopeNodes_mapBlocksOf hf rest]
      cases node.scope id with
      | error e => rfl
      | ok first => cases scopeNodes id rest <;> rfl

end

theorem scope_mapContainers
    (hf : ∀ nodes, scopeNodes id (f nodes) = (scopeNodes id nodes).map f) (sheet : Stylesheet) :
    (sheet.mapContainers f).scope id = (sheet.scope id).map (·.mapContainers f) := by
  rw [mapContainers, scope, scope, hf, scopeNodes_mapBlocksOf hf]
  cases scopeNodes id sheet.nodes <;> rfl

/-! ## One block with its copies -/

/-- Scoping changes no declaration, and makes none of another statement. -/
theorem Node.declaration?_of_scope (h : node.scope id = .ok result) :
    result.declaration? = node.declaration? := by
  cases Node.scoped_of_scope h <;> rfl

theorem declarations_of_scopeNodes (h : scopeNodes id nodes = .ok results) :
    declarations results = declarations nodes := by
  induction nodes generalizing results with
  | nil =>
      obtain rfl := Except.ok.inj h
      rfl
  | cons node rest ih =>
      obtain ⟨first, others, hfirst, hothers, rfl⟩ := exists_of_scopeNodes_cons h
      rw [declarations, List.filterMap_cons, Node.declaration?_of_scope hfirst, ← declarations,
        ih hothers, declarations, declarations, List.filterMap_cons]

theorem scopeNodes_cons_declaration (d : Declaration) (rest : List Node) :
    scopeNodes id (.declaration d :: rest) = (scopeNodes id rest).map (.declaration d :: ·) := by
  rw [scopeNodes]
  cases scopeNodes id rest <;> rfl

theorem scopeNodes_declarations_append (copies : List Declaration) (rest : List Node) :
    scopeNodes id (copies.map .declaration ++ rest) =
      (scopeNodes id rest).map (copies.map .declaration ++ ·) := by
  induction copies with
  | nil => cases h : scopeNodes id rest <;> simp [h, Except.map]
  | cons copy copies ih =>
      rw [List.map_cons, List.cons_append, scopeNodes_cons_declaration, ih]
      cases scopeNodes id rest <;> rfl

theorem prefixStatements_of_declaration? (table : PrefixTable) (present : List Text)
    (h : node.declaration? = none) (rest : List Node) :
    prefixStatements table present (node :: rest) =
      node :: prefixStatements table present rest := by
  cases node <;> first | rfl | cases h

theorem scopeNodes_prefixStatements (table : PrefixTable) (present : List Text)
    (nodes : List Node) :
    scopeNodes id (prefixStatements table present nodes) =
      (scopeNodes id nodes).map (prefixStatements table present) := by
  fun_induction prefixStatements table present nodes with
  | case1 present => rfl
  | case2 present d rest copies present' hcopies ih =>
      rw [scopeNodes_declarations_append, scopeNodes_cons_declaration, scopeNodes_cons_declaration,
        ih]
      cases scopeNodes id rest with
      | error e => rfl
      | ok others => simp only [Except.map, prefixStatements, hcopies]
  | case3 present node rest hother ih =>
      rw [scopeNodes, scopeNodes, ih]
      cases hfirst : node.scope id with
      | error e => rfl
      | ok first =>
          have hnone : first.declaration? = none := by
            rw [Node.declaration?_of_scope hfirst]
            cases node with
            | declaration d => exact absurd rfl (hother d)
            | comment | raw | rule | atBlock | atStatement => rfl
          cases scopeNodes id rest with
          | error e => rfl
          | ok others =>
              exact congrArg _ (prefixStatements_of_declaration? table present hnone _).symm

theorem scopeNodes_prefixBlock (table : PrefixTable) (nodes : List Node) :
    scopeNodes id (prefixBlock table nodes) = (scopeNodes id nodes).map (prefixBlock table) := by
  rw [prefixBlock, scopeNodes_prefixStatements]
  cases hscope : scopeNodes id nodes with
  | error e => rfl
  | ok results =>
      have hnames := congrArg (List.map Declaration.name) (declarations_of_scopeNodes hscope)
      rw [Except.map, Except.map, prefixBlock, hnames]

/-- The sheet and the failure are the same whether it is scoped or prefixed first. -/
theorem scope_addPrefixes (id : Text) (table : PrefixTable) (sheet : Stylesheet) :
    (sheet.addPrefixes table).scope id = (sheet.scope id).map (·.addPrefixes table) :=
  scope_mapContainers (scopeNodes_prefixBlock table) sheet

end Stylesheet

namespace StyleStage

/-- The stage for prefixes, unless they are switched off. -/
def prefixing (options : Settings.Options) : List StyleStage :=
  match options.autoprefixer.properties? with
  | some properties => [prefixes properties]
  | none => []

/-- The built-in stages stand behind the configured ones, scoping before prefixing. -/
theorem stages_eq_append_prefixing (options : Settings.Options) (isScoped : Bool) :
    stages options isScoped =
      options.styleStages.map custom ++ ((if isScoped then [scope] else []) ++ prefixing options) :=
  List.append_assoc _ _ _

theorem apply_scope_bind_prefixes (around : Surroundings) (context : StageContext)
    (properties : Settings.PrefixedProperties) (sheet : Stylesheet) :
    (scope.apply around context sheet >>= fun confined =>
        (prefixes properties).apply around context confined) =
      ((prefixes properties).apply around context sheet >>= fun prefixed =>
        scope.apply around context prefixed) := by
  simp only [apply, pure_bind]
  rw [Stylesheet.scope_addPrefixes]
  cases sheet.scope context.scopeId.toList <;> rfl

/-- Scoping and prefixing may change places: from each sheet both orders come to the same
sheet or stop with the same report. -/
theorem applyAll_scope_prefixing_comm (around : Surroundings) (context : StageContext)
    (options : Settings.Options) (sheet : Stylesheet) :
    applyAll around context sheet (scope :: prefixing options) =
      applyAll around context sheet (prefixing options ++ [scope]) := by
  rw [prefixing]
  cases options.autoprefixer.properties? with
  | none => rfl
  | some properties =>
      have hcomm := apply_scope_bind_prefixes around context properties sheet
      simp only [applyAll, List.singleton_append, bind_pure]
      exact hcomm

end StyleStage

end ComponentCompiler
