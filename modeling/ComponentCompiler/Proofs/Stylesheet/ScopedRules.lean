import ComponentCompiler.Proofs.Selector.Insertion
import ComponentCompiler.Stylesheet.Scope

/-!
# Scoping a sheet reaches selectors only

Scoping reaches the rules at the top of a sheet and those inside media queries,
nested ones included, but no rule inside a rule or inside another at-rule.  It
changes their selectors and nothing else, each one by insertions only.
-/

namespace ComponentCompiler.Stylesheet

variable {id : Text}

mutual

/-- The selectors that scoping reaches in a statement. -/
def Node.reachedSelectors : Node → List Text
  | .rule _ selector _ _ _ => [selector]
  | .atBlock _ name _ _ nodes _ => if isMedia name then reachedSelectors nodes else []
  | _ => []

/-- The selectors that scoping reaches, in the order of the sheet. -/
def reachedSelectors : List Node → List Text
  | [] => []
  | node :: rest => node.reachedSelectors ++ reachedSelectors rest

end

mutual

/-- The statement with nothing in the place of the selectors that scoping reaches. -/
def Node.withoutReached : Node → Node
  | .rule before _ between nodes after => .rule before [] between nodes after
  | .atBlock before name params between nodes after =>
      if isMedia name then .atBlock before name params between (withoutReached nodes) after
      else .atBlock before name params between nodes after
  | node => node

/-- All of the statements but the selectors that scoping reaches. -/
def withoutReached : List Node → List Node
  | [] => []
  | node :: rest => node.withoutReached :: withoutReached rest

end

/-- What scoping makes of a statement: only a rule and a media query can change. -/
inductive Node.Scoped (id : Text) : Node → Node → Prop
  | rule {before selector confined between after : Text} {nodes : List Node}
      (hconfined : Selector.scopeSelector id selector = .ok confined) :
      Scoped id (.rule before selector between nodes after)
        (.rule before confined between nodes after)
  | media {before name params between after : Text} {nodes inner : List Node}
      (hmedia : isMedia name = true) (hinner : scopeNodes id nodes = .ok inner) :
      Scoped id (.atBlock before name params between nodes after)
        (.atBlock before name params between inner after)
  | other {node : Node} (hnone : node.reachedSelectors = []) : Scoped id node node

theorem Node.scoped_of_scope {node result : Node} (h : node.scope id = .ok result) :
    node.Scoped id result := by
  cases node with
  | rule before selector between nodes after =>
      obtain ⟨confined, hconfined, hresult⟩ := Result.exists_of_bind_eq_ok h
      obtain rfl := Except.ok.inj hresult
      exact .rule hconfined
  | atBlock before name params between nodes after =>
      rw [Node.scope] at h
      split at h
      · rename_i hmedia
        obtain ⟨inner, hinner, hresult⟩ := Result.exists_of_bind_eq_ok h
        obtain rfl := Except.ok.inj hresult
        exact .media hmedia hinner
      · rename_i hother
        obtain rfl := Except.ok.inj h
        exact .other (by rw [Node.reachedSelectors, if_neg hother])
  | comment | declaration | raw | atStatement =>
      obtain rfl := Except.ok.inj h
      exact .other rfl

theorem exists_of_scopeNodes_cons {node : Node} {rest results : List Node}
    (h : scopeNodes id (node :: rest) = .ok results) :
    ∃ first others, node.scope id = .ok first ∧ scopeNodes id rest = .ok others ∧
      results = first :: others := by
  obtain ⟨first, hfirst, hmore⟩ := Result.exists_of_bind_eq_ok h
  obtain ⟨others, hothers, hresults⟩ := Result.exists_of_bind_eq_ok hmore
  exact ⟨first, others, hfirst, hothers, (Except.ok.inj hresults).symm⟩

/-- The second statements are the first ones except for the selectors that scoping
reaches, each of which is related to the one in its place. -/
structure Reselected (R : Text → Text → Prop) (nodes results : List Node) : Prop where
  frame : withoutReached results = withoutReached nodes
  related : List.Forall₂ R (reachedSelectors nodes) (reachedSelectors results)

section

variable {R : Text → Text → Prop}

theorem Reselected.cons {node result : Node} {nodes results : List Node}
    (hhead : Reselected R [node] [result]) (htail : Reselected R nodes results) :
    Reselected R (node :: nodes) (result :: results) where
  frame := by
    have hsame : result.withoutReached = node.withoutReached :=
      (List.cons.inj hhead.frame).1
    rw [withoutReached, withoutReached, hsame, htail.frame]
  related := by
    have hnode := hhead.related
    simp only [reachedSelectors, List.append_nil] at hnode
    rw [reachedSelectors, reachedSelectors]
    exact List.rel_append hnode htail.related

/-- What holds inside a media query holds for the query. -/
theorem Reselected.media {name : Text} (hmedia : isMedia name = true)
    {nodes results : List Node} (hinner : Reselected R nodes results)
    (before params between after : Text) :
    Reselected R [.atBlock before name params between nodes after]
      [.atBlock before name params between results after] where
  frame := by
    simp only [withoutReached, Node.withoutReached, if_pos hmedia, hinner.frame]
  related := by
    simpa only [reachedSelectors, Node.reachedSelectors, if_pos hmedia, List.append_nil]
      using hinner.related

mutual

theorem Node.reselected_of_scope
    (hR : ∀ selector confined, Selector.scopeSelector id selector = .ok confined →
      R selector confined)
    {node result : Node} (h : node.scope id = .ok result) :
    Reselected R [node] [result] := by
  cases Node.scoped_of_scope h with
  | rule hconfined => exact ⟨rfl, .cons (hR _ _ hconfined) .nil⟩
  | media hmedia hinner => exact (reselected_of_scopeNodes hR hinner).media hmedia _ _ _ _
  | other hnone =>
      refine ⟨rfl, ?_⟩
      rw [reachedSelectors, hnone]
      exact .nil

/-- Scoping relates each selector that it reaches to the one in its place. -/
theorem reselected_of_scopeNodes
    (hR : ∀ selector confined, Selector.scopeSelector id selector = .ok confined →
      R selector confined)
    {nodes results : List Node} (h : scopeNodes id nodes = .ok results) :
    Reselected R nodes results := by
  cases nodes with
  | nil =>
      obtain rfl := Except.ok.inj h
      exact ⟨rfl, .nil⟩
  | cons node rest =>
      obtain ⟨first, others, hfirst, hothers, rfl⟩ := exists_of_scopeNodes_cons h
      exact (Node.reselected_of_scope hR hfirst).cons (reselected_of_scopeNodes hR hothers)

end

end

/-- Scoping leaves the sheet as it is except for the selectors that it reaches.  Each
of these gets the scope condition between two tokens in each of its selectors, unless
it is blank or the condition is there, and loses no character. -/
theorem scope_only_inserts {sheet result : Stylesheet} (h : sheet.scope id = .ok result) :
    result.after = sheet.after ∧
      withoutReached result.nodes = withoutReached sheet.nodes ∧
      List.Forall₂
        (fun selector confined =>
          Selector.IsConfined id selector confined ∧ selector.Sublist confined)
        (reachedSelectors sheet.nodes) (reachedSelectors result.nodes) := by
  obtain ⟨nodes, hnodes, hresult⟩ := Result.exists_of_bind_eq_ok h
  obtain rfl := Except.ok.inj hresult
  have hreselected := reselected_of_scopeNodes
    (fun selector confined hconfined =>
      And.intro (Selector.isConfined_of_scopeSelector hconfined)
        (Selector.sublist_of_scopeSelector hconfined)) hnodes
  exact ⟨rfl, hreselected.frame, hreselected.related⟩

/-- Two selectors with a comma inside an argument and a pseudo element at the end, one
that is scoped already, inside nested media queries, and rules out of reach. -/
theorem scope_only_inserts_nested :
    let rule (selector : String) (nodes : List Node) : Node :=
      .rule [' '] selector.toList [' '] nodes []
    let block (name : String) (nodes : List Node) : Node :=
      .atBlock [] name.toList [] [' '] nodes ['\n']
    let sheet (list last : String) : Stylesheet :=
      ⟨[rule list [rule ".in" []],
        block "MEDIA" [block "media" [rule "#f[v]:hover" [], rule last []]],
        block "supports" [rule ".out" []]], []⟩
    let before := sheet ".a, b:is(c, d) > e::x" ":root"
    let after := sheet ".a[v], b:is(c, d) > e[v]::x" "[v]:root"
    before.scope ['v'] = .ok after ∧
      withoutReached after.nodes = withoutReached before.nodes := by
  intro rule block sheet before after
  have hscope : before.scope ['v'] = .ok after := by with_unfolding_all rfl
  exact ⟨hscope, (scope_only_inserts hscope).2.1⟩

end ComponentCompiler.Stylesheet
