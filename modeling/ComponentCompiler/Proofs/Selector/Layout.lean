import Mathlib.Data.List.Chain
import ComponentCompiler.Proofs.Selector.Widening

/-!
# The layout of a selector list

Commas and combinators take the blanks beside them, and a comma is tried before a
combinator.  So blanks are a combinator of their own only between two other parts: at an
end of a selector they belong to the comma there, beside a sign to that sign.  In a text
without blanks around it the two ends of the text act as commas.
-/

namespace ComponentCompiler.Selector

open Text (AllBlank leading trailing trimStart)

variable {s : Text} {left right : Token} {found parts : List Token} {atStart : Bool}
  {kind : TokenKind} {n : Nat}

/-! ## Blanks at a token -/

/-- Whether tokens of a kind take the blanks beside them. -/
def TokenKind.takesBlanks : TokenKind → Bool
  | comma | combinator => true
  | _ => false

/-- A combinator of blanks alone, which leads to a descendant. -/
def Token.IsDescendant (token : Token) : Prop :=
  token.kind = .combinator ∧ AllBlank token.text

/-- One comma with nothing but blanks around it. -/
def IsSeparator (separator : Text) : Prop :=
  ∃ before after, AllBlank before ∧ AllBlank after ∧ separator = before ++ ',' :: after

theorem TokenKind.takesBlanks_iff :
    kind.takesBlanks = true ↔ kind = .comma ∨ kind = .combinator := by
  cases kind <;> decide

theorem isSeparator_of_commaLength? (h : commaLength? s = some n) : IsSeparator (s.take n) := by
  rw [commaLength?] at h
  split at h
  · rename_i rest hdrop
    have hs : s = (leading s ++ ',' :: leading rest) ++ trimStart rest := by
      calc
        s = leading s ++ trimStart s := (Text.leading_append_trimStart s).symm
        _ = leading s ++ ',' :: (leading rest ++ trimStart rest) := by
          rw [← Text.drop_length_leading, hdrop, Text.leading_append_trimStart]
        _ = (leading s ++ ',' :: leading rest) ++ trimStart rest := by
          rw [List.append_assoc, List.cons_append]
    have hlength : n = (leading s ++ ',' :: leading rest).length := by
      rw [List.length_append, List.length_cons, ← Option.some.inj h]
      omega
    refine ⟨leading s, leading rest, Text.allBlank_leading s, Text.allBlank_leading rest, ?_⟩
    calc
      s.take n = ((leading s ++ ',' :: leading rest) ++ trimStart rest).take n := by rw [← hs]
      _ = leading s ++ ',' :: leading rest := List.take_left' hlength.symm
  · simp at h

theorem combinatorLength?_eq_none_iff :
    combinatorLength? s = none ↔ leading s = [] ∧ combinatorSignLength s = 0 := by
  rw [combinatorLength?_eq]
  dsimp only
  constructor
  · intro h
    split at h
    · rename_i hsign
      split at h
      · rename_i hbefore
        rw [hbefore, List.drop_zero] at hsign
        exact ⟨List.eq_nil_of_length_eq_zero hbefore, hsign⟩
      · simp at h
    · simp at h
  · rintro ⟨hblank, hsign⟩
    simp [hblank, hsign]

/-- No blanks are left behind a combinator. -/
theorem leading_drop_of_combinatorLength? (h : combinatorLength? s = some n) :
    leading (s.drop n) = [] := by
  rw [combinatorLength?_eq] at h
  dsimp only at h
  split at h
  · split at h
    · simp at h
    · rw [← Option.some.inj h, Text.drop_length_leading, Text.leading_trimStart]
  · rw [← Option.some.inj h, ← List.drop_drop, Text.drop_length_leading, Text.leading_trimStart]

/-- No blanks are left behind a token that takes blanks. -/
theorem leading_drop_of_takesBlanks (h : kind.length? s = some n)
    (hkind : kind.takesBlanks = true) : leading (s.drop n) = [] := by
  rcases TokenKind.takesBlanks_iff.mp hkind with rfl | rfl
  · exact leading_drop_of_commaLength? h
  · exact leading_drop_of_combinatorLength? h

/-- Blanks cut off a text are among those it begins with. -/
theorem le_length_leading (hn : n ≤ s.length) (hblank : AllBlank (s.take n)) :
    n ≤ (leading s).length := by
  calc
    n = (s.take n).length := (List.length_take_of_le hn).symm
    _ ≤ (s.take n ++ leading (s.drop n)).length := (List.prefix_append _ _).length_le
    _ = (leading s).length := by rw [← Text.leading_append hblank, List.take_append_drop]

/-- Blanks are a combinator of their own only where no sign stands behind them. -/
theorem descendant_cases (h : combinatorLength? s = some n) (hblank : AllBlank (s.take n)) :
    n = (leading s).length ∧ combinatorSignLength (s.drop n) = 0 := by
  have hle := le_length_leading (combinatorLength?_le h) hblank
  rw [combinatorLength?_eq] at h
  dsimp only at h
  split at h
  · rename_i hsign
    split at h
    · simp at h
    · obtain rfl := Option.some.inj h
      exact ⟨rfl, hsign⟩
  · rename_i hsign
    have := Option.some.inj h
    omega

/-- Behind blanks that are a combinator of their own, where no comma was to be had, no token
begins that takes blanks. -/
theorem length?_drop_of_descendant (h : combinatorLength? s = some n)
    (hblank : AllBlank (s.take n)) (hcomma : commaLength? s = none)
    (hkind : kind.takesBlanks = true) : kind.length? (s.drop n) = none := by
  obtain ⟨hn, hsign⟩ := descendant_cases h hblank
  have hleading := leading_drop_of_combinatorLength? h
  rcases TokenKind.takesBlanks_iff.mp hkind with rfl | rfl
  · apply commaLength?_eq_none_iff.mpr
    rw [hleading, List.length_nil, List.drop_zero, hn]
    exact commaLength?_eq_none_iff.mp hcomma
  · exact combinatorLength?_eq_none_iff.mpr ⟨hleading, hsign⟩

/-! ## Neighbouring tokens -/

/-- What a token says of the text behind it.  Behind a token that takes blanks none are left;
behind blanks alone the text goes on, with neither a comma nor a combinator. -/
structure Clears (left : Token) (rest : Text) : Prop where
  blanks : left.kind.takesBlanks = true → leading rest = []
  ne_nil : left.IsDescendant → rest ≠ []
  length?_eq_none : left.IsDescendant →
    ∀ kind : TokenKind, kind.takesBlanks = true → kind.length? rest = none

/-- Whether one token may stand directly behind the other. -/
structure MayMeet (left right : Token) : Prop where
  commas : left.kind = .comma → right.kind ≠ .comma
  before : left.IsDescendant → right.kind.takesBlanks = false
  behind : left.kind.takesBlanks = true → ¬ right.IsDescendant

/-- An end of a selector list, which acts as a comma. -/
def edge : Token := ⟨.comma, []⟩

theorem clears_of_nextToken? (h : nextToken? atStart s = some (kind, n))
    (hstart : atStart = true → leading s = []) (htrailing : trailing s = []) :
    Clears ⟨kind, s.take n⟩ (s.drop n) := by
  have hinside : nextToken? false s = some (kind, n) := by
    cases atStart with
    | false => exact h
    | true => exact nextToken?_inside h (hstart rfl)
  obtain ⟨hlength, -, hcomma⟩ := nextToken?_eq_some_iff.mp hinside
  refine ⟨leading_drop_of_takesBlanks hlength, ?_, ?_⟩
  · -- blanks up to the end of the text are blanks at its end
    rintro ⟨-, hblank⟩ hnil
    have hall : AllBlank s := by
      have htake := List.take_append_drop n s
      rw [hnil, List.append_nil] at htake
      rwa [htake] at hblank
    have hs : trailing ([] ++ s) = trailing [] ++ s := Text.trailing_append hall []
    exact ne_nil_of_length? hlength (hs.symm.trans htrailing)
  · rintro ⟨hkind, hblank⟩ other hother
    obtain rfl : kind = .combinator := hkind
    exact length?_drop_of_descendant hlength hblank (hcomma rfl rfl) hother

theorem clears_edge (h : leading s = []) : Clears edge s :=
  ⟨fun _ => h, nofun, nofun⟩

namespace Clears

/-- The next token of the text behind a token may stand there. -/
theorem mayMeet (h : Clears left s)
    (hnext : nextToken? (left.kind == .comma) s = some (kind, n)) :
    MayMeet left ⟨kind, s.take n⟩ := by
  obtain ⟨hlength, hstart, -⟩ := nextToken?_eq_some_iff.mp hnext
  refine ⟨?_, ?_, ?_⟩
  · intro hleft hkind
    exact beq_eq_false_iff_ne.mp (hstart hkind) hleft
  · intro hleft
    refine Bool.eq_false_iff.mpr fun hkind => ?_
    have hnone := h.length?_eq_none hleft kind hkind
    exact absurd (hnone.symm.trans hlength) (by simp)
  · rintro hleft ⟨-, hblank⟩
    have hle := le_length_leading (TokenKind.length?_le hlength) hblank
    rw [h.blanks hleft, List.length_nil] at hle
    exact absurd (TokenKind.length?_pos hlength) (Nat.not_lt.mpr hle)

/-- A token that is no comma may stand at the end. -/
theorem mayMeet_edge (h : Clears left []) (hleft : left.kind ≠ .comma) :
    MayMeet left edge :=
  ⟨fun hcomma => absurd hcomma hleft, fun hdescendant => absurd rfl (h.ne_nil hdescendant),
    fun _ => nofun⟩

end Clears

/-- Any two neighbours among the tokens of a text may meet. -/
theorem Lexes.isChain (h : Lexes atStart s found) (hkind : (left.kind == .comma) = atStart)
    (hleft : Clears left s) (htrailing : trailing s = []) :
    (left :: (found ++ [edge])).IsChain MayMeet := by
  -- what is known of the text that is left is what the token before it says
  induction h generalizing left with
  | done => exact List.isChain_pair.mpr (hleft.mayMeet_edge (beq_eq_false_iff_ne.mp hkind))
  | @token atStart s kind n rest hne hnext hrest ih =>
      have hstart : atStart = true → leading s = [] := by
        intro hatStart
        apply hleft.blanks
        rw [eq_of_beq (hkind.trans hatStart)]
        rfl
      have hbehind : trailing (s.drop n) = [] := by
        rw [← List.take_append_drop n s, Text.trailing_append_eq_nil_iff] at htrailing
        exact htrailing.1
      subst hkind
      exact List.isChain_cons_cons.mpr ⟨hleft.mayMeet hnext,
        ih rfl (clears_of_nextToken? hnext hstart htrailing) hbehind⟩

theorem Lexes.isSeparator (h : Lexes atStart s found) {token : Token} (htoken : token ∈ found)
    (hcomma : token.kind = .comma) : IsSeparator token.text := by
  induction h with
  | done => exact absurd htoken List.not_mem_nil
  | token _ hnext _ ih =>
      rcases List.mem_cons.mp htoken with rfl | hrest
      · obtain ⟨hlength, -, -⟩ := nextToken?_eq_some_iff.mp hnext
        obtain rfl := hcomma
        exact isSeparator_of_commaLength? hlength
      · exact ih hrest

/-! ## Selectors and separators -/

/-- Texts with separators between them; what is left of either stands at the end. -/
def alternate : List Text → List Text → Text
  | text :: texts, separator :: separators => text ++ separator ++ alternate texts separators
  | texts, separators => texts.flatten ++ separators.flatten

/-- What one selector of a list consists of: some parts, none of them a comma, where blanks
alone stand at neither end and beside no other combinator. -/
structure IsSelector (parts : List Token) : Prop where
  ne_nil : parts ≠ []
  kind_ne_comma : ∀ part ∈ parts, part.kind ≠ .comma
  first : ∀ part ∈ parts.head?, ¬ part.IsDescendant
  last : ∀ part ∈ parts.getLast?, ¬ part.IsDescendant
  beside : parts.IsChain fun left right =>
    (left.IsDescendant → right.kind ≠ .combinator) ∧
      (left.kind = .combinator → ¬ right.IsDescendant)

theorem MayMeet.beside (h : MayMeet left right) :
    (left.IsDescendant → right.kind ≠ .combinator) ∧
      (left.kind = .combinator → ¬ right.IsDescendant) := by
  constructor
  · intro hleft hright
    have hkind := h.before hleft
    rw [hright] at hkind
    cases hkind
  · exact fun hleft => h.behind (TokenKind.takesBlanks_iff.mpr (Or.inr hleft))

/-- Parts between two commas are a selector if any two neighbours may meet. -/
theorem isSelector_of_isChain (hleft : left.kind = .comma) (hright : right.kind = .comma)
    (h : (left :: (parts ++ [right])).IsChain MayMeet)
    (hparts : ∀ part ∈ parts, part.kind ≠ .comma) : IsSelector parts := by
  refine ⟨?_, hparts, ?_, ?_, ?_⟩
  · rintro rfl
    exact (List.isChain_pair.mp h).commas hleft hright
  · intro part hpart
    obtain ⟨rest, rfl⟩ := List.head?_eq_some_iff.mp hpart
    exact h.rel.behind (TokenKind.takesBlanks_iff.mpr (Or.inl hleft))
  · intro part hpart hdescendant
    obtain ⟨front, rfl⟩ := List.getLast?_eq_some_iff.mp hpart
    rw [List.append_assoc, List.singleton_append, List.isChain_cons_append_cons_cons] at h
    have hkind := h.2.1.before hdescendant
    rw [hright] at hkind
    cases hkind
  · exact h.tail.left_of_append.imp fun _ _ => MayMeet.beside

namespace SelectorList

variable {list : SelectorList}

theorem toTokens_cons (first next : List Token) (separator : Text)
    (more : List (Text × List Token)) :
    toTokens ⟨first, (separator, next) :: more⟩ =
      first ++ ⟨.comma, separator⟩ :: toTokens ⟨next, more⟩ := rfl

theorem alternate_selectors_separators (list : SelectorList) :
    alternate (list.selectors.map render) list.separators = render list.toTokens := by
  obtain ⟨first, more⟩ := list
  induction more generalizing first with
  | nil => simp [selectors, separators, alternate, toTokens]
  | cons head more ih =>
      obtain ⟨separator, next⟩ := head
      rw [toTokens_cons, render_append, render_cons, ← ih next, ← List.append_assoc]
      rfl

theorem mem_toTokens_of_mem_separators {separator : Text} (h : separator ∈ list.separators) :
    ⟨.comma, separator⟩ ∈ list.toTokens := by
  obtain ⟨⟨_, next⟩, hmem, rfl⟩ := List.mem_map.mp h
  exact List.mem_append_right _ (List.mem_flatMap.mpr ⟨_, hmem, List.mem_cons_self⟩)

/-- Each selector stands between two commas, if the ends of the list count as such. -/
theorem exists_commas_beside {R : Token → Token → Prop} (hleft : left.kind = .comma)
    (hright : right.kind = .comma) (h : (left :: (list.toTokens ++ [right])).IsChain R)
    (hparts : parts ∈ list.selectors) :
    ∃ before after : Token, before.kind = .comma ∧ after.kind = .comma ∧
      (before :: (parts ++ [after])).IsChain R := by
  obtain ⟨first, more⟩ := list
  induction more generalizing first left with
  | nil =>
      obtain rfl : parts = first := List.mem_singleton.mp hparts
      rw [toTokens, List.flatMap_nil, List.append_nil] at h
      exact ⟨left, right, hleft, hright, h⟩
  | cons head more ih =>
      obtain ⟨separator, next⟩ := head
      rw [toTokens_cons, List.append_assoc, List.cons_append, List.isChain_cons_split] at h
      rcases List.mem_cons.mp hparts with rfl | hmore
      · exact ⟨left, ⟨.comma, separator⟩, hleft, rfl, h.1⟩
      · exact ih rfl next h.2 hmore

/-- How the selectors and the separators of a list lie in a text: they are its tokens one
after the other, and commas get all blanks that could be part of one. -/
structure IsLaidOut (s : Text) (list : SelectorList) : Prop where
  lexes : Lexes true s list.toTokens
  length_selectors : list.selectors.length = list.separators.length + 1
  alternate_eq : alternate (list.selectors.map render) list.separators = s
  isSeparator : ∀ separator ∈ list.separators, IsSeparator separator
  isSelector : ∀ parts ∈ list.selectors, IsSelector parts

/-- A text without blanks around it is read as selectors with one comma between any two of
them; blanks alone lead to a descendant only inside of a selector, beside no other
combinator. -/
theorem isLaidOut_of_parse (h : parse s = .ok list) (hleading : leading s = [])
    (htrailing : trailing s = []) : IsLaidOut s list := by
  have hlexes := lexes_toTokens_of_parse h
  have hchain : (edge :: (list.toTokens ++ [edge])).IsChain MayMeet :=
    hlexes.isChain rfl (clears_edge hleading) htrailing
  refine ⟨hlexes, ?_, ?_, fun separator hseparator => ?_, fun parts hparts => ?_⟩
  · simp [selectors, separators]
  · rw [alternate_selectors_separators, hlexes.render_eq]
  · exact hlexes.isSeparator (mem_toTokens_of_mem_separators hseparator) rfl
  · obtain ⟨before, after, hbefore, hafter, hbetween⟩ :=
      exists_commas_beside rfl rfl hchain hparts
    exact isSelector_of_isChain hbefore hafter hbetween fun _ =>
      kind_ne_comma_of_parse h hparts

/-- Blanks beside commas, signs, a comment and inside of an argument, and blanks alone on
both sides of a comment. -/
theorem isLaidOut_of_parse_mixed :
    let s := ".a \t,  > b /*,*/\n c>>> d,*|e:not( f , g ) ~ h".toList
    let list : SelectorList :=
      ⟨[⟨.className, ".a".toList⟩],
        [(" \t,  ".toList,
            [⟨.combinator, "> ".toList⟩, ⟨.typeName, ['b']⟩, ⟨.combinator, [' ']⟩,
              ⟨.comment, "/*,*/".toList⟩, ⟨.combinator, "\n ".toList⟩, ⟨.typeName, ['c']⟩,
              ⟨.combinator, ">>> ".toList⟩, ⟨.typeName, ['d']⟩]),
          ([','],
            [⟨.typeName, "*|e".toList⟩, ⟨.pseudo, ":not( f , g )".toList⟩,
              ⟨.combinator, " ~ ".toList⟩, ⟨.typeName, ['h']⟩])]⟩
    parse s = .ok list ∧ leading s = [] ∧ trailing s = [] ∧ IsLaidOut s list := by
  intro s list
  have hlist : parse s = .ok list := by decide +kernel
  have hleading : leading s = [] := by decide +kernel
  have htrailing : trailing s = [] := by decide +kernel
  exact ⟨hlist, hleading, htrailing, isLaidOut_of_parse hlist hleading htrailing⟩

end SelectorList

end ComponentCompiler.Selector
