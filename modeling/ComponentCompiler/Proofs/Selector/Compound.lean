import ComponentCompiler.Proofs.Selector.Idempotence

/-!
# The compound that is confined

Combinators cut a selector into compounds, the last of which describes the styled
element.  The condition is looked for a place over the whole selector, so it may end
up in an earlier compound: just when the last one has pseudos only and there is
something to confine before it.
-/

namespace ComponentCompiler.Selector

open Text (leading trailing)

variable {scope : Text} {parts earlier compound placed : List Token}

/-! ## Compounds -/

/-- Whether a part says something of an element, as all but combinators and comments. -/
def TokenKind.isSimple : TokenKind → Bool
  | combinator | comment => false
  | _ => true

/-- Whether some combinator has a simple selector behind it. -/
def joins : List Token → Bool
  | [] => false
  | part :: rest => (part.kind == .combinator && rest.any (·.kind.isSimple)) || joins rest

/-- The parts after the last combinator that has a simple selector behind it. -/
def lastCompound : List Token → List Token
  | [] => []
  | part :: rest => if joins (part :: rest) then lastCompound rest else part :: rest

theorem TokenKind.isSimple_eq (kind : TokenKind) :
    kind.isSimple = (kind.isTarget || kind == .pseudo) := by
  cases kind <;> rfl

theorem lastCompound_of_not_joins (h : joins parts = false) : lastCompound parts = parts := by
  cases parts with
  | nil => rfl
  | cons part rest => rw [lastCompound, h, if_neg Bool.false_ne_true]

theorem joins_lastCompound (parts : List Token) : joins (lastCompound parts) = false := by
  induction parts with
  | nil => rfl
  | cons part rest ih =>
      rw [lastCompound]
      split
      · exact ih
      · rename_i hjoins
        exact Bool.eq_false_iff.mpr hjoins

/-- What stands before the last compound ends with the combinator that joins it. -/
theorem exists_earlier (parts : List Token) :
    ∃ earlier, parts = earlier ++ lastCompound parts ∧
      (earlier = [] ∨ (∃ part, earlier.getLast? = some part ∧ part.kind = .combinator) ∧
        (lastCompound parts).any (·.kind.isSimple) = true) := by
  induction parts with
  | nil => exact ⟨[], rfl, Or.inl rfl⟩
  | cons part rest ih =>
      obtain ⟨earlier, hrest, hearlier⟩ := ih
      rw [lastCompound]
      split
      · rename_i hjoins
        refine ⟨part :: earlier, congrArg (part :: ·) hrest, Or.inr ?_⟩
        rcases hearlier with rfl | ⟨⟨last, hlast, hkind⟩, hsimple⟩
        · have hnone := joins_lastCompound rest
          rw [List.nil_append] at hrest
          rw [← hrest] at hnone ⊢
          rw [joins, hnone, Bool.or_false, Bool.and_eq_true] at hjoins
          exact ⟨⟨part, rfl, eq_of_beq hjoins.1⟩, hjoins.2⟩
        · exact ⟨⟨last, by simp [List.getLast?_cons, hlast], hkind⟩, hsimple⟩
      · exact ⟨[], rfl, Or.inl rfl⟩

/-- Behind a combinator that joins it, a list without such a combinator is the last
compound. -/
theorem lastCompound_append {joint : Token} (hlast : earlier.getLast? = some joint)
    (hjoint : joint.kind = .combinator) (hsimple : compound.any (·.kind.isSimple) = true)
    (hjoins : joins compound = false) : lastCompound (earlier ++ compound) = compound := by
  have hall : ∀ front : List Token, joins (front ++ joint :: compound) = true := by
    intro front
    induction front with
    | nil => simp [joins, hjoint, hsimple]
    | cons part front ih => simp [joins, ih]
  obtain ⟨front, rfl⟩ := List.getLast?_eq_some_iff.mp hlast
  rw [List.append_assoc, List.singleton_append]
  induction front with
  | nil =>
      have hhere : joins (joint :: compound) = true := hall []
      rw [List.nil_append, lastCompound, if_pos hhere, lastCompound_of_not_joins hjoins]
  | cons part front ih =>
      have hhere : joins (part :: (front ++ joint :: compound)) = true := hall (part :: front)
      rw [List.cons_append, lastCompound, if_pos hhere]
      exact ih (by simp)

/-! ## The place of the condition -/

/-- The place of the condition among parts: directly behind the last target, in front of
the first pseudo if there is no target, and at the start if there are no pseudos either.
A condition that is the last target stays alone. -/
inductive Placed (scope : Text) : List Token → List Token → Prop
  | already {before after : List Token}
      (hafter : ∀ part ∈ after, part.kind.isTarget = false) :
      Placed scope (before ++ scopeToken scope :: after) (before ++ scopeToken scope :: after)
  | behind {before after : List Token} {target : Token} (hother : target ≠ scopeToken scope)
      (htarget : target.kind.isTarget = true)
      (hafter : ∀ part ∈ after, part.kind.isTarget = false) :
      Placed scope (before ++ target :: after) (before ++ target :: scopeToken scope :: after)
  | front {before after : List Token} {pseudo : Token}
      (hbefore : ∀ part ∈ before, part.kind.isSimple = false) (hpseudo : pseudo.kind = .pseudo)
      (hafter : ∀ part ∈ after, part.kind.isTarget = false) :
      Placed scope (before ++ pseudo :: after) (before ++ scopeToken scope :: pseudo :: after)
  | alone {parts : List Token} (hparts : ∀ part ∈ parts, part.kind.isSimple = false) :
      Placed scope parts (scopeToken scope :: parts)

theorem isTarget_eq_false {kind : TokenKind} (h : kind.isSimple = false) :
    kind.isTarget = false := by
  rw [TokenKind.isSimple_eq, Bool.or_eq_false_iff] at h
  exact h.1

theorem scopeParts_of_no_simple (hparts : ∀ part ∈ parts, part.kind.isSimple = false) :
    scopeParts scope parts = scopeToken scope :: parts := by
  rw [scopeParts_eq_of_none fun part hmem => isTarget_eq_false (hparts part hmem), if_neg]
  rw [List.any_eq_true]
  rintro ⟨part, hmem, hkind⟩
  have hsimple := hparts part hmem
  rw [eq_of_beq hkind] at hsimple
  cases hsimple

theorem scopeParts_of_pseudo {before after : List Token} {pseudo : Token}
    (hbefore : ∀ part ∈ before, part.kind.isSimple = false) (hpseudo : pseudo.kind = .pseudo)
    (hafter : ∀ part ∈ after, part.kind.isTarget = false) :
    scopeParts scope (before ++ pseudo :: after) =
      before ++ scopeToken scope :: pseudo :: after := by
  have hnone : ∀ part ∈ before ++ pseudo :: after, part.kind.isTarget = false := by
    intro part hmem
    rcases List.mem_append.mp hmem with hmem | hmem
    · exact isTarget_eq_false (hbefore part hmem)
    · rcases List.mem_cons.mp hmem with rfl | hmem
      · rw [hpseudo]
        rfl
      · exact hafter part hmem
  have hother : ∀ part ∈ before, (part.kind != .pseudo) = true := by
    intro part hmem
    rw [bne_iff_ne]
    intro hkind
    have hsimple := hbefore part hmem
    rw [hkind] at hsimple
    cases hsimple
  rw [scopeParts_eq_of_none hnone, if_pos (by simp [hpseudo]),
    List.takeWhile_append_of_pos hother, List.dropWhile_append_of_pos hother]
  simp [hpseudo]

/-- A selector without a target has a first pseudo or no simple selector at all. -/
theorem pseudo_cases (hnone : ∀ part ∈ parts, part.kind.isTarget = false) :
    (∀ part ∈ parts, part.kind.isSimple = false) ∨
      ∃ before pseudo after, parts = before ++ pseudo :: after ∧
        (∀ part ∈ before, part.kind.isSimple = false) ∧ pseudo.kind = .pseudo ∧
        ∀ part ∈ after, part.kind.isTarget = false := by
  induction parts with
  | nil => exact Or.inl fun _ hmem => absurd hmem List.not_mem_nil
  | cons head rest ih =>
      rw [List.forall_mem_cons] at hnone
      obtain ⟨hhead, hrest⟩ := hnone
      by_cases hpseudo : head.kind = .pseudo
      · exact Or.inr ⟨[], head, rest, rfl, fun _ hmem => absurd hmem List.not_mem_nil, hpseudo,
          hrest⟩
      · have hsimple : head.kind.isSimple = false := by
          simp [TokenKind.isSimple_eq, hhead, hpseudo]
        rcases ih hrest with hall | ⟨before, pseudo, after, rfl, hbefore, hpseudo, hafter⟩
        · exact Or.inl (List.forall_mem_cons.mpr ⟨hsimple, hall⟩)
        · exact Or.inr ⟨head :: before, pseudo, after, rfl,
            List.forall_mem_cons.mpr ⟨hsimple, hbefore⟩, hpseudo, hafter⟩

theorem placed_scopeParts (scope : Text) (parts : List Token) :
    Placed scope parts (scopeParts scope parts) := by
  rcases target_cases parts with hnone | ⟨before, target, after, rfl, htarget, hafter⟩
  · rcases pseudo_cases hnone with hall | ⟨before, pseudo, after, rfl, hbefore, hpseudo, hafter⟩
    · rw [scopeParts_of_no_simple hall]
      exact .alone hall
    · rw [scopeParts_of_pseudo hbefore hpseudo hafter]
      exact .front hbefore hpseudo hafter
  · rw [scopeParts_of_target htarget hafter]
    split
    · rename_i hscoped
      rw [hscoped]
      exact .already hafter
    · rename_i hother
      exact .behind hother htarget hafter

/-- Parts in front of a target have no say in the place. -/
theorem scopeParts_append_of_target (earlier : List Token)
    (htarget : ∃ part ∈ compound, part.kind.isTarget = true) :
    scopeParts scope (earlier ++ compound) = earlier ++ scopeParts scope compound := by
  rcases target_cases compound with hnone | ⟨before, target, after, rfl, hkind, hafter⟩
  · obtain ⟨part, hmem, hkind⟩ := htarget
    exact absurd (hnone part hmem) (by simp [hkind])
  · rw [← List.append_assoc, scopeParts_of_target hkind hafter, scopeParts_of_target hkind hafter]
    split <;> rw [List.append_assoc]

/-- Neither have combinators and comments in front of a simple selector. -/
theorem scopeParts_append_of_simple
    (hearlier : ∀ part ∈ earlier, part.kind.isSimple = false)
    (hsimple : earlier = [] ∨ compound.any (·.kind.isSimple) = true) :
    scopeParts scope (earlier ++ compound) = earlier ++ scopeParts scope compound := by
  rcases hsimple with rfl | hsimple
  · rfl
  · rcases target_cases compound with hnone | ⟨before, target, after, rfl, hkind, _⟩
    · rcases pseudo_cases hnone with hall | ⟨before, pseudo, after, rfl, hbefore, hpseudo, hafter⟩
      · obtain ⟨part, hmem, hkind⟩ := List.any_eq_true.mp hsimple
        exact absurd (hall part hmem) (by simp [hkind])
      · have hboth := List.forall_mem_append.mpr ⟨hearlier, hbefore⟩
        rw [← List.append_assoc, scopeParts_of_pseudo hboth hpseudo hafter,
          scopeParts_of_pseudo hbefore hpseudo hafter, List.append_assoc]
    · exact scopeParts_append_of_target earlier ⟨target, by simp, hkind⟩

/-- Without a target the compound behind simple selectors is left alone. -/
theorem scopeParts_append_of_none
    (hcompound : ∀ part ∈ compound, part.kind.isTarget = false)
    (hsimple : ∃ part ∈ earlier, part.kind.isSimple = true) :
    scopeParts scope (earlier ++ compound) = scopeParts scope earlier ++ compound := by
  have hbehind : ∀ {after : List Token}, (∀ part ∈ after, part.kind.isTarget = false) →
      ∀ part ∈ after ++ compound, part.kind.isTarget = false :=
    fun hafter => List.forall_mem_append.mpr ⟨hafter, hcompound⟩
  rcases target_cases earlier with hnone | ⟨before, target, after, rfl, hkind, hafter⟩
  · rcases pseudo_cases hnone with hall | ⟨before, pseudo, after, rfl, hbefore, hpseudo, hafter⟩
    · obtain ⟨part, hmem, hkind⟩ := hsimple
      exact absurd (hall part hmem) (by simp [hkind])
    · rw [List.append_assoc, List.cons_append,
        scopeParts_of_pseudo hbefore hpseudo (hbehind hafter),
        scopeParts_of_pseudo hbefore hpseudo hafter]
      simp
  · rw [List.append_assoc, List.cons_append, scopeParts_of_target hkind (hbehind hafter),
      scopeParts_of_target hkind hafter]
    split <;> simp

/-! ## The compound of the condition -/

/-- Parts up to a simple selector join something if there is a combinator among them. -/
theorem joins_append_cons {before after : List Token} {part : Token}
    (hsimple : part.kind.isSimple = true) :
    joins (before ++ part :: after) =
      (before.any (·.kind == .combinator) || joins (part :: after)) := by
  induction before with
  | nil => rfl
  | cons head before ih =>
      rw [List.cons_append, joins, ih]
      simp [hsimple, Bool.or_assoc]

theorem joins_cons_of_isSimple {part : Token} (hsimple : part.kind.isSimple = true)
    (rest : List Token) : joins (part :: rest) = joins rest := by
  have hkind : part.kind ≠ .combinator := fun h => by
    rw [h] at hsimple
    cases hsimple
  simp [joins, hkind]

/-- The condition is no combinator and gives none something to join. -/
theorem Placed.joins_eq (h : Placed scope parts placed) : joins placed = joins parts := by
  have hcondition : (scopeToken scope).kind.isSimple = true := rfl
  cases h with
  | already _ => rfl
  | @behind before after target _ htarget _ =>
      have hsimple : target.kind.isSimple = true := by
        rw [TokenKind.isSimple_eq, htarget, Bool.true_or]
      rw [joins_append_cons hsimple, joins_append_cons hsimple, joins_cons_of_isSimple hsimple,
        joins_cons_of_isSimple hsimple, joins_cons_of_isSimple hcondition]
  | @front before after pseudo _ hpseudo _ =>
      have hsimple : pseudo.kind.isSimple = true := by
        rw [hpseudo]
        rfl
      rw [joins_append_cons hsimple, joins_append_cons hcondition,
        joins_cons_of_isSimple hcondition]
  | alone _ => exact joins_cons_of_isSimple hcondition parts

theorem Placed.any_isSimple (h : Placed scope parts placed) :
    placed.any (·.kind.isSimple) = true := by
  rw [List.any_eq_true]
  refine ⟨scopeToken scope, ?_, rfl⟩
  cases h <;> simp

/-- The condition is not put behind a combinator at the end. -/
theorem Placed.getLast?_eq {joint : Token} (h : Placed scope parts placed)
    (hlast : parts.getLast? = some joint) (hjoint : joint.kind = .combinator) :
    placed.getLast? = some joint := by
  cases h with
  | already _ => exact hlast
  | @behind before after target _ htarget _ =>
      cases after with
      | nil =>
          obtain rfl : target = joint := by simpa using hlast
          rw [hjoint] at htarget
          cases htarget
      | cons => simpa [List.getLast?_append, List.getLast?_cons] using hlast
  | front _ _ _ => simpa [List.getLast?_append, List.getLast?_cons] using hlast
  | alone _ => simp [List.getLast?_cons, hlast]

/-- The compound that the condition is put in.  It is the last one unless that one has
no target and there are simple selectors before it. -/
inductive Confines (scope : Text) : List Token → List Token → Prop
  | last {earlier compound placed : List Token}
      (hcompound : lastCompound (earlier ++ compound) = compound)
      (hreached : (∃ part ∈ compound, part.kind.isTarget = true) ∨
        ∀ part ∈ earlier, part.kind.isSimple = false)
      (hplaced : Placed scope compound placed)
      (hlast : lastCompound (earlier ++ placed) = placed) :
      Confines scope (earlier ++ compound) (earlier ++ placed)
  | earlier {earlier compound placed : List Token}
      (hcompound : lastCompound (earlier ++ compound) = compound)
      (hpassed : ∀ part ∈ compound, part.kind.isTarget = false)
      (hsimple : ∃ part ∈ earlier, part.kind.isSimple = true)
      (hplaced : Placed scope earlier placed)
      (hlast : lastCompound (placed ++ compound) = compound) :
      Confines scope (earlier ++ compound) (placed ++ compound)

theorem confines_scopeParts (scope : Text) (parts : List Token) :
    Confines scope parts (scopeParts scope parts) := by
  obtain ⟨earlier, hparts, hearlier⟩ := exists_earlier parts
  have hjoins := joins_lastCompound parts
  have hcompound : lastCompound (earlier ++ lastCompound parts) = lastCompound parts :=
    congrArg lastCompound hparts.symm
  generalize lastCompound parts = compound at hparts hearlier hjoins hcompound
  subst hparts
  -- the compound in which a condition is put is still the last one
  have hlast : ∀ placed, Placed scope compound placed →
      lastCompound (earlier ++ placed) = placed := by
    intro placed hplaced
    have hsame := hplaced.joins_eq.trans hjoins
    rcases hearlier with rfl | ⟨⟨joint, hjoint, hkind⟩, -⟩
    · exact lastCompound_of_not_joins hsame
    · exact lastCompound_append hjoint hkind hplaced.any_isSimple hsame
  have hplaced := placed_scopeParts scope compound
  by_cases htarget : ∃ part ∈ compound, part.kind.isTarget = true
  · rw [scopeParts_append_of_target earlier htarget]
    exact .last hcompound (Or.inl htarget) hplaced (hlast _ hplaced)
  · by_cases hsimple : ∃ part ∈ earlier, part.kind.isSimple = true
    · have hpassed : ∀ part ∈ compound, part.kind.isTarget = false := by simpa using htarget
      rw [scopeParts_append_of_none hpassed hsimple]
      refine .earlier hcompound hpassed hsimple (placed_scopeParts scope earlier) ?_
      rcases hearlier with rfl | ⟨⟨joint, hjoint, hkind⟩, hcompound⟩
      · obtain ⟨_, hmem, _⟩ := hsimple
        exact absurd hmem List.not_mem_nil
      · have hend := (placed_scopeParts scope earlier).getLast?_eq hjoint hkind
        exact lastCompound_append hend hkind hcompound hjoins
    · have hnone : ∀ part ∈ earlier, part.kind.isSimple = false := by simpa using hsimple
      rw [scopeParts_append_of_simple hnone (hearlier.imp_right And.right)]
      exact .last hcompound (Or.inr hnone) hplaced (hlast _ hplaced)

/-- Scoping gives each selector of a list the condition in its place over the whole
selector, and says in which compound that is.  A plain scope is read back there. -/
theorem scopeSelector_confines {scope selector : Text} {list : SelectorList}
    (h : SelectorList.parse (Text.trim selector) = .ok list) :
    ∃ inserted : SelectorList, ∃ confined : Text,
      scopeSelector scope selector = .ok confined ∧
      confined = leading selector ++ render inserted.toTokens ++ trailing selector ∧
      inserted.separators = list.separators ∧
      List.Forall₂ (Placed scope) list.selectors inserted.selectors ∧
      List.Forall₂ (Confines scope) list.selectors inserted.selectors ∧
      (IsPlain scope → SelectorList.parse (Text.trim confined) = .ok inserted) := by
  obtain ⟨-, htrim, -⟩ := trim_scope scope h
  have hne : (Text.trim selector).isEmpty = false := by
    simpa using (SelectorList.lexes_toTokens_of_parse h).ne_nil
  refine ⟨list.mapSelectors (scopeParts scope), _, ?_, by rw [← SelectorList.scope_eq_render],
    SelectorList.separators_mapSelectors _ list,
    SelectorList.forall₂_selectors_mapSelectors (placed_scopeParts scope) list,
    SelectorList.forall₂_selectors_mapSelectors (confines_scopeParts scope) list,
    fun hplain => ?_⟩
  · rw [scopeSelector, hne, h]
    rfl
  · rw [htrim]
    exact SelectorList.parse_scope hplain (Text.leading_trim selector) h

/-- A selector whose last compound is a pseudo alone, and one where it has a type. -/
theorem scopeSelector_confines_each :
    let list : SelectorList :=
      ⟨[⟨.className, ".a".toList⟩, ⟨.combinator, [' ']⟩, ⟨.pseudo, ":b".toList⟩],
        [(", ".toList, [⟨.combinator, "> ".toList⟩, ⟨.typeName, ['c']⟩, ⟨.pseudo, "::d".toList⟩])]⟩
    SelectorList.parse (Text.trim " .a :b, > c::d".toList) = .ok list ∧
      ∃ inserted : SelectorList, ∃ confined : Text,
        scopeSelector ['v'] " .a :b, > c::d".toList = .ok confined ∧
        List.Forall₂ (Confines ['v']) list.selectors inserted.selectors ∧
        SelectorList.parse (Text.trim confined) = .ok inserted := by
  intro list
  have hlist : SelectorList.parse (Text.trim " .a :b, > c::d".toList) = .ok list := by
    decide +kernel
  obtain ⟨inserted, confined, hconfined, -, -, -, hconfines, hparse⟩ :=
    @scopeSelector_confines ['v'] _ _ hlist
  exact ⟨hlist, inserted, confined, hconfined, hconfines, hparse (by decide)⟩

/-- A pseudo of its own behind a class leaves the condition with the class, while the
combinator before the pseudo begins the last compound. -/
theorem scopeSelector_of_lone_pseudo :
    let inserted : List Token :=
      [⟨.className, ".a".toList⟩, scopeToken ['v'], ⟨.combinator, [' ']⟩, ⟨.pseudo, ":hover".toList⟩]
    scopeSelector ['v'] ".a :hover".toList = .ok ".a[v] :hover".toList ∧
      SelectorList.parse ".a[v] :hover".toList = .ok ⟨inserted, []⟩ ∧
      lastCompound inserted = [⟨.pseudo, ":hover".toList⟩] ∧
      scopeToken ['v'] ∉ lastCompound inserted ∧
      scopeSelector ['v'] ".a :hover".toList ≠ .ok ".a [v]:hover".toList := by
  decide +kernel

end ComponentCompiler.Selector
