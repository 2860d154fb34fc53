import ComponentCompiler.Selector.Lexer

/-!
# The first character decides the kind

Tokens of different kinds begin with different characters, but for the comma and
the combinator, which may both begin with blanks.  The order in which kinds are
tried therefore matters for these two only: a token of any other kind is the
first match wherever it matches at all.
-/

namespace ComponentCompiler.Selector

open Text (isBlank isNameChar apostrophe)

/-- The intervals of blanks, in increasing order. -/
def blankIntervals : List (Nat × Nat) :=
  [(0x9, 0xD), (0x1C, 0x20), (0x85, 0x85), (0xA0, 0xA0), (0x1680, 0x1680), (0x2000, 0x200A),
   (0x2028, 0x2028), (0x2029, 0x2029), (0x202F, 0x202F), (0x205F, 0x205F), (0x3000, 0x3000)]

theorem exists_interval_of_isBlank {c : Char} (h : isBlank c = true) :
    ∃ interval ∈ blankIntervals, interval.1 ≤ c.toNat ∧ c.toNat ≤ interval.2 := by
  simp only [isBlank, Bool.or_eq_true, Bool.and_eq_true, decide_eq_true_eq, beq_iff_eq,
    or_assoc] at h
  rcases h with h | h | h | h | h | h | h | h | h | h | h
  · exact ⟨(0x9, 0xD), by decide, h⟩
  · exact ⟨(0x1C, 0x20), by decide, h⟩
  · exact ⟨(0x85, 0x85), by decide, Nat.le_of_eq h.symm, Nat.le_of_eq h⟩
  · exact ⟨(0xA0, 0xA0), by decide, Nat.le_of_eq h.symm, Nat.le_of_eq h⟩
  · exact ⟨(0x1680, 0x1680), by decide, Nat.le_of_eq h.symm, Nat.le_of_eq h⟩
  · exact ⟨(0x2000, 0x200A), by decide, h⟩
  · exact ⟨(0x2028, 0x2028), by decide, Nat.le_of_eq h.symm, Nat.le_of_eq h⟩
  · exact ⟨(0x2029, 0x2029), by decide, Nat.le_of_eq h.symm, Nat.le_of_eq h⟩
  · exact ⟨(0x202F, 0x202F), by decide, Nat.le_of_eq h.symm, Nat.le_of_eq h⟩
  · exact ⟨(0x205F, 0x205F), by decide, Nat.le_of_eq h.symm, Nat.le_of_eq h⟩
  · exact ⟨(0x3000, 0x3000), by decide, Nat.le_of_eq h.symm, Nat.le_of_eq h⟩

theorem blankIntervals_disjoint :
    ∀ word ∈ Text.wordIntervals, ∀ blank ∈ blankIntervals,
      word.2 < blank.1 ∨ blank.2 < word.1 := by
  decide +kernel

theorem isNameChar_of_le_space : ∀ n ≤ 0x20, isNameChar (Char.ofNat n) = false := by decide

/-- No blank is part of a name. -/
theorem isNameChar_of_isBlank {c : Char} (h : isBlank c = true) : isNameChar c = false := by
  by_cases hsmall : c.toNat ≤ 0x20
  · have hcode := isNameChar_of_le_space c.toNat hsmall
    rwa [Char.ofNat_toNat] at hcode
  · obtain ⟨blank, hblank, hfirst, hlast⟩ := exists_interval_of_isBlank h
    have hgap : ∀ interval ∈ blankIntervals, interval.2 ≤ 0x20 ∨ 0x80 ≤ interval.1 := by decide
    have hlarge : ¬ c.toNat < 0x80 := by
      have := hgap blank hblank
      omega
    have hword : Text.isWord c = false := by
      rw [Text.isWord, if_neg hlarge, List.any_eq_false]
      rintro ⟨first, last⟩ hmem
      have := blankIntervals_disjoint (first, last) hmem blank hblank
      simp only [Bool.and_eq_true, decide_eq_true_eq]
      omega
    have hhyphen : c ≠ '-' := by
      rintro rfl
      exact hlarge (by decide)
    simp [isNameChar, hword, hhyphen]

/-- The kind of the tokens that begin with a character.  A blank may also begin a
comma. -/
def kindOf? (c : Char) : Option TokenKind :=
  if isBlank c ∨ c = '>' ∨ c = '+' ∨ c = '~' then some .combinator
  else if c = ',' then some .comma
  else if c = ':' then some .pseudo
  else if c = '[' then some .condition
  else if c = '.' then some .className
  else if c = '/' then some .comment
  else if c = '#' then some .identifier
  else if c = '&' then some .nesting
  else if isNameChar c ∨ c = '\\' ∨ c = '*' ∨ c = '|' then some .typeName
  else none

/-- The characters of names begin type names. -/
theorem kindOf?_of_isNameChar {c : Char} (h : isNameChar c = true) :
    kindOf? c = some .typeName := by
  have hother : ∀ d : Char, isNameChar d = false → c ≠ d := by
    rintro d hd rfl
    exact Bool.noConfusion (hd.symm.trans h)
  have hblank : isBlank c = false := by
    refine Bool.eq_false_iff.mpr fun hblank => ?_
    exact Bool.noConfusion ((isNameChar_of_isBlank hblank).symm.trans h)
  simp [kindOf?, h, hblank, hother '>' (by decide), hother '+' (by decide),
    hother '~' (by decide), hother ',' (by decide), hother ':' (by decide),
    hother '[' (by decide), hother '.' (by decide), hother '/' (by decide),
    hother '#' (by decide), hother '&' (by decide)]

theorem nameLength_cons_eq_zero {c : Char} {rest : Text} (hname : isNameChar c = false)
    (hescape : c ≠ '\\') : nameLength (c :: rest) = 0 := by
  rw [nameLength.eq_def]
  split
  · rename_i heq
    exact absurd (List.cons.inj heq).1 hescape
  · rename_i heq
    obtain ⟨rfl, rfl⟩ := List.cons.inj heq
    simp [hname]
  · rfl

theorem kindOf?_of_nameLength {c : Char} {rest : Text} (h : nameLength (c :: rest) ≠ 0) :
    kindOf? c = some .typeName := by
  by_cases hname : isNameChar c = true
  · exact kindOf?_of_isNameChar hname
  · by_cases hescape : c = '\\'
    · rw [hescape]
      decide
    · exact absurd (nameLength_cons_eq_zero (Bool.eq_false_iff.mpr hname) hescape) h

theorem kindOf?_of_commaLength? {c : Char} {rest : Text} {n : Nat}
    (h : commaLength? (c :: rest) = some n) : kindOf? c = some .comma ∨ isBlank c = true := by
  by_cases hblank : isBlank c = true
  · exact Or.inr hblank
  · simp only [commaLength?, Text.leading, List.takeWhile_cons, hblank, Bool.false_eq_true,
      if_false, List.length_nil, List.drop_zero] at h
    split at h
    · rename_i heq
      rw [(List.cons.inj heq).1]
      exact Or.inl (by decide)
    · cases h

theorem kindOf?_of_combinatorLength? {c : Char} {rest : Text} {n : Nat}
    (h : combinatorLength? (c :: rest) = some n) : kindOf? c = some .combinator := by
  by_cases hblank : isBlank c = true
  · simp [kindOf?, hblank]
  · have hsign : c = '>' ∨ c = '+' ∨ c = '~' := by
      refine Classical.byContradiction fun hnone => ?_
      have hplain : ¬ ['>', '>', '>'].isPrefixOf (c :: rest) = true := by
        intro hthree
        obtain ⟨hc, _⟩ := List.cons_prefix_cons.mp (List.isPrefixOf_iff_prefix.mp hthree)
        exact hnone (Or.inl hc.symm)
      simp only [combinatorLength?, Text.leading, List.takeWhile_cons, hblank,
        Bool.false_eq_true, if_false, List.length_nil, List.drop_zero, combinatorSignLength,
        hplain, hnone, if_true] at h
      simp at h
    simp [kindOf?, hsign]

theorem kindOf?_of_typeLength? {c : Char} {rest : Text} {n : Nat}
    (h : typeLength? (c :: rest) = some n) : kindOf? c = some .typeName := by
  by_cases hname : nameLength (c :: rest) = 0
  · by_cases hany : c = '*'
    · rw [hany]
      decide
    · by_cases hbar : c = '|'
      · rw [hbar]
        decide
      · simp [typeLength?, nameOrAnyLength, hname, hany, hbar] at h
  · exact kindOf?_of_nameLength hname

/-- Where a token begins, its first character shows its kind, unless it is a comma
after blanks. -/
theorem kindOf?_of_length? {kind : TokenKind} {c : Char} {rest : Text} {n : Nat}
    (h : kind.length? (c :: rest) = some n) :
    kindOf? c = some kind ∨ kind = .comma ∧ isBlank c = true := by
  cases kind with
  | comma => exact (kindOf?_of_commaLength? h).imp_right fun hblank => ⟨rfl, hblank⟩
  | combinator => exact Or.inl (kindOf?_of_combinatorLength? h)
  | typeName => exact Or.inl (kindOf?_of_typeLength? h)
  | pseudo | condition | className | comment | identifier =>
      simp only [TokenKind.length?, pseudoLength?, conditionLength?, classLength?,
        commentLength?, identifierLength?] at h
      split at h
      · rename_i heq
        rw [(List.cons.inj heq).1]
        exact Or.inl (by decide)
      · cases h
  | nesting =>
      simp only [TokenKind.length?, nestingLength?, List.head?_cons, Option.some.injEq] at h
      split at h
      · rename_i heq
        rw [heq]
        exact Or.inl (by decide)
      · cases h

/-- No token of any kind is empty text. -/
theorem ne_nil_of_length? {kind : TokenKind} {s : Text} {n : Nat}
    (h : kind.length? s = some n) : s ≠ [] := by
  rintro rfl
  cases kind <;>
    simp [TokenKind.length?, commaLength?, combinatorLength?, combinatorSignLength,
      pseudoLength?, typeLength?, nameOrAnyLength, nameLength, conditionLength?, classLength?,
      commentLength?, identifierLength?, nestingLength?, Text.leading] at h

/-- Two kinds that match at one place are the same, or the comma and the combinator. -/
theorem kind_eq_or_of_length? {kind other : TokenKind} {s : Text} {n m : Nat}
    (hkind : kind.length? s = some n) (hother : other.length? s = some m) :
    kind = other ∨ kind = .comma ∧ other = .combinator ∨
      kind = .combinator ∧ other = .comma := by
  obtain ⟨c, rest, rfl⟩ := List.exists_cons_of_ne_nil (ne_nil_of_length? hkind)
  have hcombinator : isBlank c = true → kindOf? c = some .combinator := fun hblank => by
    simp [kindOf?, hblank]
  rcases kindOf?_of_length? hkind with hk | ⟨rfl, hblank⟩ <;>
    rcases kindOf?_of_length? hother with ho | ⟨rfl, hblank'⟩
  · exact Or.inl (Option.some.inj (hk.symm.trans ho))
  · rw [hcombinator hblank'] at hk
    exact Or.inr (Or.inr ⟨(Option.some.inj hk).symm, rfl⟩)
  · rw [hcombinator hblank] at ho
    exact Or.inr (Or.inl ⟨rfl, (Option.some.inj ho).symm⟩)
  · exact Or.inl rfl

theorem findSome?_eq_some_of_unique {kinds : List TokenKind} (kind : TokenKind) {β : Type}
    {f : TokenKind → Option β} {b : β} (hmem : kind ∈ kinds) (hkind : f kind = some b)
    (hother : ∀ other ∈ kinds, other ≠ kind → f other = none) :
    kinds.findSome? f = some b := by
  induction kinds with
  | nil => exact absurd hmem List.not_mem_nil
  | cons head tail ih =>
      by_cases hhead : head = kind
      · rw [List.findSome?_cons, hhead, hkind]
      · rw [List.findSome?_cons, hother head List.mem_cons_self hhead]
        exact ih ((List.mem_cons.mp hmem).resolve_left (Ne.symm hhead))
          fun other hmem => hother other (List.mem_cons_of_mem _ hmem)

/-- Every kind is tried, but a comma not at the start of a selector. -/
theorem mem_kindsAt {atStart : Bool} {kind : TokenKind} :
    kind ∈ kindsAt atStart ↔ (kind = .comma → atStart = false) := by
  cases atStart <;> cases kind <;> decide

/-- Where a comma is tried, it is tried first. -/
theorem comma_mem_of_kindsAt {before after : List TokenKind} {kind : TokenKind}
    (h : kindsAt false = before ++ kind :: after) (hkind : kind ≠ .comma) :
    TokenKind.comma ∈ before := by
  cases before with
  | nil => exact absurd (List.cons.inj h).1.symm hkind
  | cons head tail =>
      obtain rfl : TokenKind.comma = head := (List.cons.inj h).1
      exact List.mem_cons_self

theorem nextToken?_of_comma {s : Text} {n : Nat} (h : commaLength? s = some n) :
    nextToken? false s = some (.comma, n) := by
  have hlength : TokenKind.comma.length? s = some n := h
  rw [nextToken?, kindsAt, if_neg Bool.false_ne_true, List.findSome?_cons, hlength]
  rfl

theorem nextToken?_of_part {atStart : Bool} {s : Text} {kind : TokenKind} {n : Nat}
    (hkind : kind ≠ .comma) (h : kind.length? s = some n)
    (hcombinator : kind = .combinator → atStart = false → commaLength? s = none) :
    nextToken? atStart s = some (kind, n) := by
  apply findSome?_eq_some_of_unique kind
  · exact mem_kindsAt.mpr fun hcomma => absurd hcomma hkind
  · rw [h]
    rfl
  · intro other hmem hne
    rw [Option.map_eq_none_iff, Option.eq_none_iff_forall_not_mem]
    intro m hm
    rcases kind_eq_or_of_length? h hm with rfl | ⟨rfl, rfl⟩ | ⟨rfl, rfl⟩
    · exact hne rfl
    · exact hkind rfl
    · have hnone := hcombinator rfl (mem_kindsAt.mp hmem rfl)
      exact absurd (hnone.symm.trans hm) (Option.some_ne_none m).symm

/-- A token is the next one where its kind is tried and fits, if no comma stands in a
combinator's place. -/
theorem nextToken?_eq_some_iff {atStart : Bool} {s : Text} {kind : TokenKind} {n : Nat} :
    nextToken? atStart s = some (kind, n) ↔
      kind.length? s = some n ∧ (kind = .comma → atStart = false) ∧
        (kind = .combinator → atStart = false → commaLength? s = none) := by
  constructor
  · intro h
    obtain ⟨before, found, after, hkinds, hfound, hbefore⟩ := List.findSome?_eq_some_iff.mp h
    obtain ⟨m, hm, heq⟩ := Option.map_eq_some_iff.mp hfound
    obtain ⟨rfl, rfl⟩ := Prod.mk.inj heq
    refine ⟨hm, mem_kindsAt.mp ?_, ?_⟩
    · rw [hkinds]
      simp
    · rintro rfl rfl
      exact Option.map_eq_none_iff.mp
        (hbefore .comma (comma_mem_of_kindsAt hkinds (by decide)))
  · rintro ⟨hlength, hstart, hcombinator⟩
    by_cases hkind : kind = .comma
    · subst hkind
      rw [hstart rfl]
      exact nextToken?_of_comma hlength
    · exact nextToken?_of_part hkind hlength hcombinator

end ComponentCompiler.Selector
