import ComponentCompiler.Component.Request
import ComponentCompiler.Proofs.Selector.Widening

/-!
# Scoping twice

Scoping a selector list that is scoped already changes nothing.  The text with the
conditions is cut into the old tokens and the conditions, so that each selector
ends in its own condition, but for pseudos, comments and combinators, and keeps it.
-/

namespace ComponentCompiler.Selector

open Text (leading trailing)

variable {scope : Text} {parts found widened : List Token}

/-! ## One selector -/

theorem widened_scopeParts (scope : Text) (parts : List Token) :
    Widened scope parts (scopeParts scope parts) := by
  have hinserted := isInserted_scopeParts scope parts
  rw [IsInserted] at hinserted
  split at hinserted
  · rw [hinserted]
    exact .refl scope parts
  · obtain ⟨before, after, hparts, hscoped⟩ := hinserted
    rw [hscoped, hparts]
    exact (Widened.refl scope before).append (.insert (.refl scope after))

/-- A selector that is scoped has the condition as its last target. -/
theorem scopeParts_scopeParts (scope : Text) (parts : List Token) :
    scopeParts scope (scopeParts scope parts) = scopeParts scope parts := by
  have hcondition : (scopeToken scope).kind.isTarget = true := rfl
  rcases target_cases parts with hnone | ⟨before, target, after, rfl, htarget, hafter⟩
  · obtain ⟨before, after, rfl, hscoped⟩ := @scopeParts_of_none scope _ hnone
    have hafter : ∀ token ∈ after, token.kind.isTarget = false := fun token hmem =>
      hnone token (List.mem_append_right before hmem)
    rw [hscoped, scopeParts_of_target hcondition hafter, if_pos rfl]
  · by_cases hscoped : target = scopeToken scope
    · rw [scopeParts_of_target htarget hafter, if_pos hscoped,
        scopeParts_of_target htarget hafter, if_pos hscoped]
    · have hassoc : before ++ target :: scopeToken scope :: after =
          (before ++ [target]) ++ scopeToken scope :: after := by simp
      rw [scopeParts_of_target htarget hafter, if_neg hscoped, hassoc,
        scopeParts_of_target hcondition hafter, if_pos rfl]

theorem Lexes.ne_nil {s : Text} (h : Lexes true s found) : s ≠ [] := by
  cases h
  assumption

/-- Conditions do not bring blanks to the end of a text. -/
theorem Widened.trailing_eq_nil (h : Widened scope found widened)
    (hfound : trailing (render found) = []) : trailing (render widened) = [] := by
  induction h with
  | nil => exact hfound
  | keep token hmore ih =>
      rw [render_cons, Text.trailing_append_eq_nil_iff] at hfound ⊢
      refine ⟨ih hfound.1, fun hnil => hfound.2 ?_⟩
      have hagrees := hmore.agreesToBracket
      rw [hnil] at hagrees
      rcases hagrees with heq | ⟨common, more, _, heq⟩
      · exact heq.symm
      · exact absurd heq.symm (by simp)
  | insert _ ih =>
      rw [render_cons, Text.trailing_append_eq_nil_iff]
      refine ⟨ih hfound, fun _ => Text.trailing_eq_nil_iff.mpr ?_⟩
      rw [scopeToken, ← List.cons_append, List.getLast?_concat]
      exact fun c hc => by
        obtain rfl := Option.some.inj hc
        decide

/-! ## A selector list -/

namespace SelectorList

variable {list : SelectorList}

/-- Grouping at the commas takes the tokens before the first comma together. -/
theorem ofTokens_append (hparts : ∀ token ∈ parts, token.kind ≠ .comma) (rest : List Token) :
    ofTokens (parts ++ rest) = ⟨parts ++ (ofTokens rest).first, (ofTokens rest).more⟩ := by
  induction parts with
  | nil => rfl
  | cons token parts ih =>
      have htail := ih fun other hmem => hparts other (List.mem_cons_of_mem _ hmem)
      rw [List.cons_append, ofTokens, if_neg (hparts token List.mem_cons_self), htail]
      rfl

/-- Selectors without commas are grouped again as they were. -/
theorem ofTokens_toTokens
    (hlist : ∀ parts ∈ list.selectors, ∀ token ∈ parts, token.kind ≠ .comma) :
    ofTokens list.toTokens = list := by
  obtain ⟨first, more⟩ := list
  have hmore : ofTokens (toTokens ⟨[], more⟩) = ⟨[], more⟩ := by
    replace hlist : ∀ entry ∈ more, ∀ token ∈ entry.2, token.kind ≠ .comma :=
      fun entry hentry => hlist entry.2
        (List.mem_cons_of_mem _ (List.mem_map_of_mem hentry))
    induction more with
    | nil => rfl
    | cons entry more ih =>
        obtain ⟨separator, parts⟩ := entry
        have htail := ih fun entry hentry => hlist entry (List.mem_cons_of_mem _ hentry)
        have hparts := hlist (separator, parts) List.mem_cons_self
        have htokens : toTokens ⟨[], (separator, parts) :: more⟩ =
            ⟨.comma, separator⟩ :: (parts ++ toTokens ⟨[], more⟩) := rfl
        rw [htokens, ofTokens]
        dsimp only
        rw [if_pos rfl, ofTokens_append hparts, htail, List.append_nil]
  have htokens : toTokens ⟨first, more⟩ = first ++ toTokens ⟨[], more⟩ := rfl
  rw [htokens, ofTokens_append (hlist first List.mem_cons_self), hmore, List.append_nil]

theorem widened_mapSelectors (scope : Text) (list : SelectorList) :
    Widened scope list.toTokens (list.mapSelectors (scopeParts scope)).toTokens := by
  obtain ⟨first, more⟩ := list
  refine (widened_scopeParts scope first).append ?_
  dsimp only
  induction more with
  | nil => exact .nil
  | cons entry more ih =>
      obtain ⟨separator, parts⟩ := entry
      exact ((widened_scopeParts scope parts).append ih).keep _

/-- A scoped selector list is read as the list with the conditions in it. -/
theorem parse_scope (hplain : IsPlain scope) {s : Text} (hs : leading s = [])
    (h : parse s = .ok list) :
    parse (list.scope scope) = .ok (list.mapSelectors (scopeParts scope)) := by
  have hlexes := (lexes_toTokens_of_parse h).widen hplain (fun _ => hs)
    (widened_mapSelectors scope list)
  have hcommas : ∀ parts ∈ (list.mapSelectors (scopeParts scope)).selectors,
      ∀ token ∈ parts, token.kind ≠ .comma := by
    rw [selectors_mapSelectors]
    intro parts hparts token htoken
    obtain ⟨old, hold, rfl⟩ := List.mem_map.mp hparts
    exact (widened_scopeParts scope old).forall_mem (P := (·.kind ≠ .comma)) (by simp [scopeToken])
      (fun token => kind_ne_comma_of_parse h hold) token htoken
  rw [scope_eq_render, parse, tokens, tokensFrom_of_lexes hlexes]
  exact congrArg Except.ok (ofTokens_toTokens hcommas)

/-- The conditions of a scoped list are found where they belong. -/
theorem scope_mapSelectors (scope : Text) (list : SelectorList) :
    (list.mapSelectors (scopeParts scope)).scope scope = list.scope scope := by
  have hagain : (list.mapSelectors (scopeParts scope)).mapSelectors (scopeParts scope) =
      list.mapSelectors (scopeParts scope) := by
    simp [mapSelectors, scopeParts_scopeParts, Function.comp_def]
  rw [scope_eq_render, hagain, scope_eq_render]

/-- Conditions come before, between and after the tokens, but blanks do not. -/
theorem trimmed_scope (scope : Text) {s : Text} (h : parse s = .ok list) (hleading : leading s = [])
    (htrailing : trailing s = []) :
    list.scope scope ≠ [] ∧ leading (list.scope scope) = [] ∧ trailing (list.scope scope) = [] := by
  have hlexes := lexes_toTokens_of_parse h
  have hwidened := widened_mapSelectors scope list
  have hagrees := hwidened.agreesToBracket
  rw [scope_eq_render]
  rw [hlexes.render_eq] at hagrees
  refine ⟨?_, hagrees.leading_eq_nil hleading, hwidened.trailing_eq_nil ?_⟩
  · rcases hagrees with rfl | ⟨common, more, _, heq⟩
    · exact hlexes.ne_nil
    · simp [heq]
  · rw [hlexes.render_eq, htrailing]

end SelectorList

/-! ## The selector of a rule -/

theorem isPlain_hexDigits (width n : Nat) : IsPlain (Text.hexDigits width n) := by
  induction width generalizing n with
  | zero => exact fun _ hc => absurd hc List.not_mem_nil
  | succ width ih =>
      have hdigit : ∀ digit < 16, Text.hexDigit digit ≠ ']' ∧ Text.hexDigit digit ≠ '"' ∧
          Text.hexDigit digit ≠ Text.apostrophe ∧ Text.hexDigit digit ≠ '\\' := by decide
      intro c hc
      rcases List.mem_append.mp hc with hmore | hlast
      · exact ih (n / 16) c hmore
      · obtain rfl := List.mem_singleton.mp hlast
        exact hdigit (n % 16) (Nat.mod_lt n (by decide))

/-- The scopes that are derived for components are plain. -/
theorem isPlain_scopeIdFor (filePath : Option String) (content : String) :
    IsPlain (scopeIdFor filePath content).toList := by
  intro c hc
  simp only [scopeIdFor, String.toList_append, List.mem_append, String.toList_ofList,
    List.mem_flatMap] at hc
  rcases hc with hprefix | ⟨byte, _, hdigit⟩
  · have hplain : IsPlain "_v-".toList := by decide
    exact hplain c hprefix
  · exact isPlain_hexDigits 2 byte.toNat c hdigit

/-- The blanks around a scoped selector are those around the selector. -/
theorem trim_scope (scope : Text) {selector : Text} {list : SelectorList}
    (h : SelectorList.parse (Text.trim selector) = .ok list) :
    let confined := leading selector ++ list.scope scope ++ trailing selector
    leading confined = leading selector ∧ Text.trim confined = list.scope scope ∧
      trailing confined = trailing selector := by
  obtain ⟨hne, hleading, htrailing⟩ := SelectorList.trimmed_scope scope h
    (Text.leading_trim selector) (Text.trailing_trim selector)
  exact Text.trim_frame (Text.allBlank_leading selector) (Text.allBlank_trailing selector) hne
    hleading htrailing

/-- Scoping a selector that is scoped already succeeds and changes nothing, for each
scope that has no character with a meaning inside a condition, as all derived ones. -/
theorem scopeSelector_of_confined :
    (∀ filePath content, IsPlain (scopeIdFor filePath content).toList) ∧
      ∀ scope selector confined, IsPlain scope → scopeSelector scope selector = .ok confined →
        scopeSelector scope confined = .ok confined := by
  refine ⟨isPlain_scopeIdFor, fun scope selector confined hplain h => ?_⟩
  rcases scopeSelector_cases h with ⟨_, rfl⟩ | ⟨list, _, hlist, rfl⟩
  · exact h
  · have hparse := SelectorList.parse_scope hplain (Text.leading_trim selector) hlist
    obtain ⟨hne, -, -⟩ := SelectorList.trimmed_scope scope hlist (Text.leading_trim selector)
      (Text.trailing_trim selector)
    obtain ⟨hleading, htrim, htrailing⟩ := trim_scope scope hlist
    rw [scopeSelector, hleading, htrim, htrailing, if_neg (mt List.isEmpty_iff.mp hne), hparse]
    dsimp only
    rw [SelectorList.scope_mapSelectors]


/-- An escape next to a condition with a bracket in a string, a comment in front of a
pseudo, and combinators alone: the second selector is what scoping makes of the first. -/
theorem scopeSelector_of_confined_list :
    let selector := " *|\\][c=\"]\"]::x(\"(\") ~, /*e*/:b, > /**/ + \n".toList
    ∃ confined, IsPlain ['v'] ∧ scopeSelector ['v'] selector = .ok confined ∧
      confined ≠ selector ∧ scopeSelector ['v'] confined = .ok confined := by
  intro selector
  have hconfined : scopeSelector ['v'] selector =
      .ok " *|\\][c=\"]\"][v]::x(\"(\") ~, /*e*/[v]:b, [v]> /**/ + \n".toList := by
    decide +kernel
  have hplain : IsPlain ['v'] := by decide
  exact ⟨_, hplain, hconfined, by decide, scopeSelector_of_confined.2 _ _ _ hplain hconfined⟩

end ComponentCompiler.Selector
