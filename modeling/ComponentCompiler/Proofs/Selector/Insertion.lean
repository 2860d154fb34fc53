import Mathlib.Data.List.Forall2
import Mathlib.Data.List.TakeWhile
import ComponentCompiler.Proofs.Selector.Lexing

/-!
# Scoping only inserts

A scope condition is put between two tokens of each selector of a list, or at
one end of it.  Only a selector that ends in this very condition, apart from
pseudos, comments and combinators, stays as it is.  All other characters of the
list stay where they are.
-/

namespace ComponentCompiler.Selector

variable {scope : Text} {parts : List Token}

/-! ## One selector -/

/-- The last token that a scope condition may follow. -/
def lastTarget? (parts : List Token) : Option Token :=
  (parts.filter (·.kind.isTarget)).getLast?

/-- The second selector is the first one with one scope condition more, put between
its tokens; nothing is put where that condition is the last target already. -/
def IsInserted (scope : Text) (parts inserted : List Token) : Prop :=
  if lastTarget? parts = some (scopeToken scope) then inserted = parts
  else ∃ before after, parts = before ++ after ∧ inserted = before ++ scopeToken scope :: after

/-- A selector has no target at all or a last one. -/
theorem target_cases (parts : List Token) :
    (∀ token ∈ parts, token.kind.isTarget = false) ∨
      ∃ before target after, parts = before ++ target :: after ∧
        target.kind.isTarget = true ∧ ∀ token ∈ after, token.kind.isTarget = false := by
  induction parts with
  | nil => exact Or.inl fun _ hmem => absurd hmem List.not_mem_nil
  | cons head rest ih =>
      rcases ih with hnone | ⟨before, target, after, rfl, htarget, hafter⟩
      · cases hhead : head.kind.isTarget with
        | false =>
            refine Or.inl fun token hmem => ?_
            rcases List.mem_cons.mp hmem with rfl | hrest
            · exact hhead
            · exact hnone token hrest
        | true => exact Or.inr ⟨[], head, rest, rfl, hhead, hnone⟩
      · exact Or.inr ⟨head :: before, target, after, rfl, htarget, hafter⟩

section Target

variable {before after : List Token} {target : Token}

theorem lastTarget?_of_none (hnone : ∀ token ∈ parts, token.kind.isTarget = false) :
    lastTarget? parts = none := by
  rw [lastTarget?, List.filter_eq_nil_iff.mpr fun token hmem => by simp [hnone token hmem]]
  rfl

theorem lastTarget?_of_target (htarget : target.kind.isTarget = true)
    (hafter : ∀ token ∈ after, token.kind.isTarget = false) :
    lastTarget? (before ++ target :: after) = some target := by
  have hrest : after.filter (·.kind.isTarget) = [] :=
    List.filter_eq_nil_iff.mpr fun token hmem => by simp [hafter token hmem]
  rw [lastTarget?, List.filter_append, List.filter_cons, if_pos htarget, hrest]
  exact List.getLast?_concat

theorem splitAtTarget_of_none (hnone : ∀ token ∈ parts, token.kind.isTarget = false) :
    splitAtTarget parts = ([], parts) := by
  have hall : parts.reverse.takeWhile (!·.kind.isTarget) = parts.reverse := by
    rw [List.takeWhile_eq_self_iff]
    intro token hmem
    simp [hnone token (List.mem_reverse.mp hmem)]
  unfold splitAtTarget
  dsimp only
  rw [hall, List.reverse_reverse, Nat.sub_self, List.take_zero]

theorem splitAtTarget_of_target (htarget : target.kind.isTarget = true)
    (hafter : ∀ token ∈ after, token.kind.isTarget = false) :
    splitAtTarget (before ++ target :: after) = (before ++ [target], after) := by
  have htail : (before ++ target :: after).reverse.takeWhile (!·.kind.isTarget) =
      after.reverse := by
    have hreverse : (before ++ target :: after).reverse =
        after.reverse ++ target :: before.reverse := by simp
    rw [hreverse, List.takeWhile_append_of_pos, List.takeWhile_cons_of_neg, List.append_nil]
    · simp [htarget]
    · intro token hmem
      simp [hafter token (List.mem_reverse.mp hmem)]
  have hlength : (before ++ target :: after).length - after.length =
      (before ++ [target]).length := by
    simp only [List.length_append, List.length_cons, List.length_nil]
    omega
  have hassoc : before ++ target :: after = (before ++ [target]) ++ after := by simp
  unfold splitAtTarget
  dsimp only
  rw [htail, List.reverse_reverse, hlength]
  refine Prod.ext ?_ rfl
  rw [hassoc]
  exact List.take_left

theorem scopeParts_of_target (htarget : target.kind.isTarget = true)
    (hafter : ∀ token ∈ after, token.kind.isTarget = false) :
    scopeParts scope (before ++ target :: after) =
      if target = scopeToken scope then before ++ target :: after
      else before ++ target :: scopeToken scope :: after := by
  rw [scopeParts, splitAtTarget_of_target htarget hafter]
  dsimp only
  rw [List.getLast?_concat]
  dsimp only
  split
  · rfl
  · simp

/-- A selector without a target gets the condition in front of its first pseudo. -/
theorem scopeParts_eq_of_none (hnone : ∀ token ∈ parts, token.kind.isTarget = false) :
    scopeParts scope parts =
      if parts.any (·.kind == .pseudo) then
        parts.takeWhile (·.kind != .pseudo) ++
          scopeToken scope :: parts.dropWhile (·.kind != .pseudo)
      else scopeToken scope :: parts := by
  rw [scopeParts, splitAtTarget_of_none hnone]
  rfl

theorem scopeParts_of_none (hnone : ∀ token ∈ parts, token.kind.isTarget = false) :
    ∃ before after, parts = before ++ after ∧
      scopeParts scope parts = before ++ scopeToken scope :: after := by
  rw [scopeParts_eq_of_none hnone]
  split
  · exact ⟨_, _, List.takeWhile_append_dropWhile.symm, rfl⟩
  · exact ⟨[], parts, rfl, rfl⟩

end Target

theorem isInserted_scopeParts (scope : Text) (parts : List Token) :
    IsInserted scope parts (scopeParts scope parts) := by
  rw [IsInserted]
  rcases target_cases parts with hnone | ⟨before, target, after, rfl, htarget, hafter⟩
  · rw [lastTarget?_of_none hnone, if_neg (by simp)]
    exact scopeParts_of_none hnone
  · rw [lastTarget?_of_target htarget hafter, scopeParts_of_target htarget hafter]
    by_cases hscoped : target = scopeToken scope
    · rw [if_pos (congrArg some hscoped), if_pos hscoped]
    · rw [if_neg fun heq => hscoped (Option.some.inj heq), if_neg hscoped]
      exact ⟨before ++ [target], after, by simp, by simp⟩

theorem IsInserted.sublist {inserted : List Token} (h : IsInserted scope parts inserted) :
    (render parts).Sublist (render inserted) := by
  rw [IsInserted] at h
  split at h
  · obtain rfl := h
    exact List.Sublist.refl _
  · obtain ⟨before, after, rfl, rfl⟩ := h
    rw [render_append, render_append, render_cons]
    exact (List.Sublist.refl _).append (List.sublist_append_right _ _)

/-! ## A selector list -/

namespace SelectorList

/-- The list with each selector replaced. -/
def mapSelectors (f : List Token → List Token) (list : SelectorList) : SelectorList :=
  ⟨f list.first, list.more.map fun (separator, parts) => (separator, f parts)⟩

theorem selectors_mapSelectors (f : List Token → List Token) (list : SelectorList) :
    (list.mapSelectors f).selectors = list.selectors.map f := by
  simp [mapSelectors, selectors, Function.comp_def]

theorem separators_mapSelectors (f : List Token → List Token) (list : SelectorList) :
    (list.mapSelectors f).separators = list.separators := by
  simp [mapSelectors, separators, Function.comp_def]

theorem scope_eq_render (scope : Text) (list : SelectorList) :
    list.scope scope = render (list.mapSelectors (scopeParts scope)).toTokens := by
  rw [SelectorList.scope, mapSelectors, toTokens, render_append]
  congr 1
  induction list.more with
  | nil => rfl
  | cons head rest ih =>
      obtain ⟨separator, parts⟩ := head
      rw [List.flatMap_cons, ih, List.map_cons, List.flatMap_cons, render_append, render_cons]

theorem sublist_render_mapSelectors {f : List Token → List Token}
    (hgrows : ∀ parts, (render parts).Sublist (render (f parts))) (list : SelectorList) :
    (render list.toTokens).Sublist (render (list.mapSelectors f).toTokens) := by
  obtain ⟨first, more⟩ := list
  simp only [mapSelectors, toTokens, render_append]
  apply (hgrows first).append
  induction more with
  | nil => exact List.Sublist.refl _
  | cons head rest ih =>
      obtain ⟨separator, parts⟩ := head
      rw [List.map_cons, List.flatMap_cons, List.flatMap_cons, render_append, render_append,
        render_cons, render_cons]
      exact ((List.Sublist.refl separator).append (hgrows parts)).append ih

theorem forall₂_selectors_mapSelectors {R : List Token → List Token → Prop}
    {f : List Token → List Token} (hrelated : ∀ parts, R parts (f parts))
    (list : SelectorList) :
    List.Forall₂ R list.selectors (list.mapSelectors f).selectors := by
  rw [selectors_mapSelectors, List.forall₂_map_right_iff, List.forall₂_same]
  exact fun parts _ => hrelated parts

end SelectorList

/-! ## The selector of a rule -/

theorem trailing_trimStart {s : Text} (hblank : Text.trim s ≠ []) :
    Text.trailing (Text.trimStart s) = Text.trailing s := by
  have hlength : ((Text.trimStart s).reverse.takeWhile Text.isBlank).length ≠
      (Text.trimStart s).reverse.length := by
    intro hall
    have hwhole := List.takeWhile_append_dropWhile
      (p := Text.isBlank) (l := (Text.trimStart s).reverse)
    have hdrop : (Text.trimStart s).reverse.dropWhile Text.isBlank = [] := by
      have hsum := congrArg List.length hwhole
      rw [List.length_append, hall] at hsum
      exact List.eq_nil_of_length_eq_zero (Nat.add_eq_left.mp hsum)
    exact hblank (by rw [Text.trim, Text.trimEnd, hdrop, List.reverse_nil])
  have hreverse : s.reverse = (Text.trimStart s).reverse ++ (Text.leading s).reverse := by
    rw [← List.reverse_append, Text.leading_append_trimStart]
  rw [Text.trailing, Text.trailing, hreverse, List.takeWhile_append, if_neg hlength]

/-- A text that is not blank consists of the blanks around it and the rest. -/
theorem leading_append_trim_append_trailing {s : Text} (hblank : Text.trim s ≠ []) :
    Text.leading s ++ Text.trim s ++ Text.trailing s = s := by
  calc
    Text.leading s ++ Text.trim s ++ Text.trailing s =
        Text.leading s ++ (Text.trim s ++ Text.trailing (Text.trimStart s)) := by
      rw [trailing_trimStart hblank, List.append_assoc]
    _ = Text.leading s ++ Text.trimStart s := by
      rw [Text.trim, Text.trimEnd_append_trailing]
    _ = s := Text.leading_append_trimStart s

/-- The selector of a rule before and after scoping: a blank one stays, any other one
is cut into tokens, and each selector between its commas gets the condition. -/
def IsConfined (scope selector confined : Text) : Prop :=
  if Text.trim selector = [] then confined = selector
  else ∃ list inserted : SelectorList,
    Lexes true (Text.trim selector) list.toTokens ∧
    (∀ parts ∈ list.selectors, ∀ token ∈ parts, token.kind ≠ .comma) ∧
    inserted.separators = list.separators ∧
    List.Forall₂ (IsInserted scope) list.selectors inserted.selectors ∧
    confined = Text.leading selector ++ render inserted.toTokens ++ Text.trailing selector

section

variable {selector confined : Text}

/-- What scoping a selector comes to if it does not fail. -/
theorem scopeSelector_cases (h : scopeSelector scope selector = .ok confined) :
    (Text.trim selector = [] ∧ confined = selector) ∨
      ∃ list, Text.trim selector ≠ [] ∧ SelectorList.parse (Text.trim selector) = .ok list ∧
        confined = Text.leading selector ++ list.scope scope ++ Text.trailing selector := by
  unfold scopeSelector at h
  dsimp only at h
  split at h
  · rename_i hblank
    exact Or.inl ⟨List.isEmpty_iff.mp hblank, (Except.ok.inj h).symm⟩
  · rename_i hblank
    cases hlist : SelectorList.parse (Text.trim selector) with
    | error cause => simp [hlist] at h
    | ok list =>
        rw [hlist] at h
        refine Or.inr ⟨list, ?_, rfl, (Except.ok.inj h).symm⟩
        exact fun hnil => hblank (List.isEmpty_iff.mpr hnil)

theorem isConfined_of_scopeSelector (h : scopeSelector scope selector = .ok confined) :
    IsConfined scope selector confined := by
  rw [IsConfined]
  rcases scopeSelector_cases h with ⟨hblank, rfl⟩ | ⟨list, hne, hlist, rfl⟩
  · rw [if_pos hblank]
  · rw [if_neg hne, SelectorList.scope_eq_render]
    refine ⟨list, list.mapSelectors (scopeParts scope), ?_, ?_, ?_, ?_, rfl⟩
    · exact SelectorList.lexes_toTokens_of_parse hlist
    · exact fun parts hparts token => SelectorList.kind_ne_comma_of_parse hlist hparts
    · exact SelectorList.separators_mapSelectors _ list
    · exact SelectorList.forall₂_selectors_mapSelectors (isInserted_scopeParts scope) list

/-- Scoping removes, replaces and moves no character. -/
theorem sublist_of_scopeSelector (h : scopeSelector scope selector = .ok confined) :
    selector.Sublist confined := by
  rcases scopeSelector_cases h with ⟨_, rfl⟩ | ⟨list, hne, hlist, rfl⟩
  · exact List.Sublist.refl _
  · have hgrows := SelectorList.sublist_render_mapSelectors
      (fun parts => (isInserted_scopeParts scope parts).sublist) list
    rw [(SelectorList.lexes_toTokens_of_parse hlist).render_eq,
      ← SelectorList.scope_eq_render] at hgrows
    have hwhole := ((List.Sublist.refl (Text.leading selector)).append hgrows).append
      (List.Sublist.refl (Text.trailing selector))
    rwa [leading_append_trim_append_trailing hne] at hwhole

end

end ComponentCompiler.Selector
