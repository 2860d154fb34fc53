import ComponentCompiler.Proofs.Selector.Delimited
import ComponentCompiler.Proofs.Selector.FirstMatch
import ComponentCompiler.Proofs.Text.Trimming

/-!
# Where tokens end

A token of a selector ends where its own delimiter stands or where the next
characters can not belong to it.  An opening bracket belongs to no token before
it.  So a token keeps its length when the text behind it is replaced by one that
is the same up to an opening bracket.
-/

namespace ComponentCompiler.Selector

open Text (isBlank isNameChar leading)

/-! ## What may stand behind a token -/

variable {piece rest rest' : Text}

/-- The second text is the first one, or the same up to an opening bracket. -/
def AgreesToBracket (rest rest' : Text) : Prop :=
  rest' = rest ∨ ∃ common more, common <+: rest ∧ rest' = common ++ '[' :: more

/-- A token begins here unless the text ends. -/
def Tokenizable (rest : Text) : Prop :=
  rest ≠ [] → ∃ (kind : TokenKind) (n : Nat), kind.length? rest = some n

theorem AgreesToBracket.prepend (h : AgreesToBracket rest rest') (s : Text) :
    AgreesToBracket (s ++ rest) (s ++ rest') := by
  rcases h with rfl | ⟨common, more, hcommon, rfl⟩
  · exact Or.inl rfl
  · refine Or.inr ⟨s ++ common, more, ?_, (List.append_assoc _ _ _).symm⟩
    exact (List.prefix_append_right_inj s).mpr hcommon

/-- What holds of a bracket and of the first character holds of the new first one. -/
theorem AgreesToBracket.head {P : Char → Prop} (h : AgreesToBracket rest rest')
    (hbracket : P '[') (hhead : ∀ c ∈ rest.head?, P c) : ∀ c ∈ rest'.head?, P c := by
  rcases h with rfl | ⟨common, more, ⟨tail, rfl⟩, rfl⟩
  · exact hhead
  · cases common with
    | nil => simpa using hbracket
    | cons d common => simpa using hhead

/-- A pattern without a bracket stands at the new start only if it stood at the old one. -/
theorem AgreesToBracket.isPrefix (h : AgreesToBracket rest rest') {pattern : Text}
    (hbracket : '[' ∉ pattern) (hfound : pattern <+: rest') : pattern <+: rest := by
  rcases h with rfl | ⟨common, more, hcommon, rfl⟩
  · exact hfound
  · rcases Nat.lt_or_ge common.length pattern.length with hlong | hshort
    · have hshown : common ++ ['['] <+: common ++ '[' :: more := ⟨more, by simp⟩
      have hbefore : common ++ ['['] <+: pattern := by
        apply List.prefix_of_prefix_length_le hshown hfound
        simpa using Nat.succ_le_of_lt hlong
      exact absurd (hbefore.subset (by simp)) hbracket
    · exact (List.prefix_of_prefix_length_le hfound (List.prefix_append _ _) hshort).trans
        hcommon

theorem AgreesToBracket.leading_eq_nil (h : AgreesToBracket rest rest')
    (hrest : leading rest = []) : leading rest' = [] :=
  Text.leading_eq_nil_iff.mpr (h.head (by decide) (Text.leading_eq_nil_iff.mp hrest))

/-! ## Names -/

theorem nameLength_cons {c : Char} (hescape : c ≠ '\\') (s : Text) :
    nameLength (c :: s) = if isNameChar c then nameLength s + 1 else 0 :=
  nameLength.eq_2 c s fun _ _ hc => absurd hc hescape

/-- Where a name ends, none goes on; and a name in front takes its length. -/
theorem nameLength_append (h : nameLength (piece ++ rest) = piece.length) :
    nameLength rest = 0 ∧ ∀ s, nameLength (piece ++ s) = piece.length + nameLength s := by
  induction piece using nameLength.induct with
  | case1 tail => simp [nameLength] at h
  | case2 c tail hc ih =>
      simp only [List.cons_append, nameLength, if_neg hc, List.length_cons] at h
      obtain ⟨hrest, hall⟩ := ih (Nat.add_right_cancel (m := 2) h)
      refine ⟨hrest, fun s => ?_⟩
      simp only [List.cons_append, nameLength, if_neg hc, hall s, List.length_cons]
      omega
  | case3 c tail _ hname ih =>
      have hescape : c ≠ '\\' := by
        rintro rfl
        exact absurd hname (by decide)
      rw [List.cons_append, nameLength_cons hescape, if_pos hname, List.length_cons] at h
      obtain ⟨hrest, hall⟩ := ih (Nat.add_right_cancel (m := 1) h)
      refine ⟨hrest, fun s => ?_⟩
      rw [List.cons_append, nameLength_cons hescape, if_pos hname, hall s, List.length_cons]
      omega
  | case4 c tail hescape hname =>
      by_cases hc : c = '\\'
      · -- a backslash at the end of the piece takes two characters or none
        obtain rfl : tail = [] := by
          cases tail with
          | nil => rfl
          | cons d tail => exact (hescape d tail hc rfl).elim
        subst hc
        cases rest with
        | nil => simp [nameLength, hname] at h
        | cons d rest =>
            simp only [List.cons_append, List.nil_append, nameLength, List.length_cons,
              List.length_nil] at h
            split at h <;> omega
      · rw [List.cons_append, nameLength_cons hc, if_neg hname] at h
        exact absurd h (Nat.succ_ne_zero _).symm
  | case5 => exact ⟨h, fun s => (Nat.zero_add _).symm⟩

theorem nameLength_eq_zero (h : ∀ c ∈ rest.head?, isNameChar c = false ∧ c ≠ '\\') :
    nameLength rest = 0 := by
  cases rest with
  | nil => rfl
  | cons c rest =>
      obtain ⟨hname, hescape⟩ := h c rfl
      exact nameLength_cons_eq_zero hname hescape

/-- Between tokens, a name that takes nothing is not begun: an escape that names
nothing could not be cut into tokens. -/
theorem head_of_nameLength_eq_zero (hrest : Tokenizable rest) (h : nameLength rest = 0) :
    ∀ c ∈ rest.head?, isNameChar c = false ∧ c ≠ '\\' := by
  intro c hc
  obtain ⟨tail, rfl⟩ := List.head?_eq_some_iff.mp hc
  have hescape : c ≠ '\\' := by
    rintro rfl
    obtain ⟨kind, n, hn⟩ := hrest (List.cons_ne_nil _ _)
    rcases kindOf?_of_length? hn with hkind | ⟨_, hblank⟩
    · obtain rfl : TokenKind.typeName = kind := Option.some.inj hkind
      simp [TokenKind.length?, typeLength?, nameOrAnyLength, h] at hn
    · exact absurd hblank (by decide)
  rw [nameLength_cons hescape] at h
  refine ⟨Bool.eq_false_iff.mpr fun hname => ?_, hescape⟩
  rw [if_pos hname] at h
  omega

/-- Where a name ends before a token, it ends before the replaced text too. -/
theorem AgreesToBracket.nameLength_eq_zero (h : AgreesToBracket rest rest')
    (hrest : Tokenizable rest) (hname : nameLength rest = 0) : nameLength rest' = 0 :=
  Selector.nameLength_eq_zero (h.head (by decide) (head_of_nameLength_eq_zero hrest hname))

/-- What follows a name may be replaced if no name begins there. -/
theorem nameLength_replace (h : nameLength (piece ++ rest) = piece.length)
    (hrest : nameLength rest = 0 → nameLength rest' = 0) :
    nameLength (piece ++ rest') = piece.length := by
  obtain ⟨hend, hall⟩ := nameLength_append h
  rw [hall, hrest hend, Nat.add_zero]

/-- What follows a name or an asterisk may be replaced alike. -/
theorem nameOrAnyLength_replace (hne : piece ≠ [])
    (h : nameOrAnyLength (piece ++ rest) = piece.length)
    (hrest : nameLength rest = 0 → nameLength rest' = 0) :
    nameOrAnyLength (piece ++ rest') = piece.length := by
  obtain ⟨c, tail, rfl⟩ := List.exists_cons_of_ne_nil hne
  by_cases hname : nameLength (c :: tail ++ rest) = 0
  · simp only [nameOrAnyLength, hname] at h
    simp only [List.cons_append, List.head?_cons, Option.some.injEq, List.length_cons] at h
    split at h
    · rename_i hany
      obtain rfl : tail = [] := List.eq_nil_of_length_eq_zero (by omega)
      rw [hany]
      rfl
    · omega
  · have hlength : nameOrAnyLength (c :: tail ++ rest) = nameLength (c :: tail ++ rest) := by
      rw [nameOrAnyLength]
      split
      · rename_i hzero
        exact absurd hzero hname
      · rfl
    rw [hlength] at h
    rw [nameOrAnyLength, nameLength_replace h hrest]
    rfl

/-! ## Commas and combinators -/

/-- The blanks at the start stay if the text is replaced behind them. -/
theorem leading_replace (h : (leading (piece ++ rest)).length ≤ piece.length)
    (hrest : leading rest = [] → leading rest' = []) :
    leading (piece ++ rest') = leading (piece ++ rest) := by
  induction piece with
  | nil =>
      have hnil : leading rest = [] := List.eq_nil_of_length_eq_zero (Nat.le_zero.mp h)
      rw [List.nil_append, List.nil_append, hnil, hrest hnil]
  | cons c tail ih =>
      rw [leading, leading, List.cons_append, List.cons_append, List.takeWhile_cons,
        List.takeWhile_cons]
      split
      · rename_i hblank
        rw [List.cons_append, leading, List.takeWhile_cons, if_pos hblank] at h
        exact congrArg (c :: ·) (ih (Nat.le_of_succ_le_succ h))
      · rfl

theorem commaLength?_replace (h : commaLength? (piece ++ rest) = some piece.length)
    (hrest : leading rest = [] → leading rest' = []) :
    commaLength? (piece ++ rest') = some piece.length := by
  rw [commaLength?] at h
  split at h
  · rename_i after hdrop
    have hlength := Option.some.inj h
    have hle : (leading (piece ++ rest)).length ≤ piece.length := by omega
    rw [List.drop_append_of_le_length hle] at hdrop
    obtain ⟨tail, htail, rfl⟩ : ∃ tail, piece.drop (leading (piece ++ rest)).length = ',' :: tail ∧
        after = tail ++ rest := by
      cases hcut : piece.drop (leading (piece ++ rest)).length with
      | nil =>
          have := List.length_drop ▸ congrArg List.length hcut
          simp only [List.length_nil] at this
          omega
      | cons c tail =>
          rw [hcut, List.cons_append] at hdrop
          obtain ⟨rfl, rfl⟩ := List.cons.inj hdrop
          exact ⟨tail, rfl, rfl⟩
    have htailLength := congrArg List.length htail
    rw [List.length_drop, List.length_cons] at htailLength
    have hafter : (leading (tail ++ rest)).length ≤ tail.length := by omega
    rw [commaLength?, leading_replace hle hrest, List.drop_append_of_le_length hle, htail,
      List.cons_append]
    exact congrArg some ((leading_replace hafter hrest).symm ▸ hlength)
  · simp at h

/-- The characters that are a combinator by themselves. -/
def IsSign (c : Char) : Prop := c = '>' ∨ c = '+' ∨ c = '~'

theorem combinatorSignLength_of_three {s : Text} (h : ['>', '>', '>'] <+: s) :
    combinatorSignLength s = 3 := by
  unfold combinatorSignLength
  exact if_pos (List.isPrefixOf_iff_prefix.mpr h)

theorem combinatorSignLength_of_sign {c : Char} {s : Text} (h : ¬ ['>', '>', '>'] <+: c :: s)
    (hc : IsSign c) : combinatorSignLength (c :: s) = 1 := by
  unfold combinatorSignLength
  rw [if_neg (mt List.isPrefixOf_iff_prefix.mp h)]
  exact if_pos hc

theorem combinatorSignLength_of_plain {s : Text} (h : ∀ c ∈ s.head?, ¬ IsSign c) :
    combinatorSignLength s = 0 := by
  unfold combinatorSignLength
  cases s with
  | nil => rfl
  | cons c s =>
      have hthree : ¬ ['>', '>', '>'].isPrefixOf (c :: s) = true := fun hthree =>
        h c rfl (Or.inl (List.cons_prefix_cons.mp (List.isPrefixOf_iff_prefix.mp hthree)).1.symm)
      rw [if_neg hthree]
      exact if_neg (h c rfl)

/-- A combinator's sign stays if the text is replaced behind it. -/
theorem combinatorSignLength_replace (hagrees : AgreesToBracket rest rest')
    (h : combinatorSignLength (piece ++ rest) ≤ piece.length) :
    combinatorSignLength (piece ++ rest') = combinatorSignLength (piece ++ rest) := by
  by_cases hthree : ['>', '>', '>'] <+: piece ++ rest
  · rw [combinatorSignLength_of_three hthree] at h ⊢
    have hpiece : ['>', '>', '>'] <+: piece :=
      List.prefix_of_prefix_length_le hthree (List.prefix_append _ _) h
    exact combinatorSignLength_of_three (hpiece.trans (List.prefix_append _ _))
  · have hthree' : ¬ ['>', '>', '>'] <+: piece ++ rest' := fun hfound =>
      hthree ((hagrees.prepend piece).isPrefix (by decide) hfound)
    by_cases hsign : ∃ c ∈ (piece ++ rest).head?, IsSign c
    · obtain ⟨c, hc, hsign⟩ := hsign
      cases piece with
      | nil =>
          obtain ⟨tail, rfl⟩ := List.head?_eq_some_iff.mp hc
          rw [List.nil_append, combinatorSignLength_of_sign hthree hsign] at h
          exact absurd h (by decide)
      | cons d tail =>
          obtain rfl : d = c := Option.some.inj hc
          exact (combinatorSignLength_of_sign hthree' hsign).trans
            (combinatorSignLength_of_sign hthree hsign).symm
    · have hplain : ∀ c ∈ (piece ++ rest).head?, ¬ IsSign c := fun c hc h => hsign ⟨c, hc, h⟩
      have hplain' := (hagrees.prepend piece).head (by unfold IsSign; decide) hplain
      rw [combinatorSignLength_of_plain hplain, combinatorSignLength_of_plain hplain']

theorem combinatorLength?_eq (s : Text) :
    combinatorLength? s =
      let before := (leading s).length
      let sign := combinatorSignLength (s.drop before)
      if sign = 0 then if before = 0 then none else some before
      else some (before + sign + (leading (s.drop (before + sign))).length) := by
  rw [combinatorLength?]
  dsimp only
  split <;> simp_all

theorem combinatorLength?_replace (h : combinatorLength? (piece ++ rest) = some piece.length)
    (hagrees : AgreesToBracket rest rest') :
    combinatorLength? (piece ++ rest') = some piece.length := by
  have hblank := hagrees.leading_eq_nil
  rw [combinatorLength?_eq] at h ⊢
  dsimp only at h ⊢
  have hle : (leading (piece ++ rest)).length ≤ piece.length ∧
      combinatorSignLength ((piece ++ rest).drop (leading (piece ++ rest)).length) ≤
        piece.length - (leading (piece ++ rest)).length := by
    split at h
    · split at h
      · simp at h
      · exact ⟨Nat.le_of_eq (Option.some.inj h), by omega⟩
    · have := Option.some.inj h
      omega
  obtain ⟨hbefore, hsign⟩ := hle
  rw [List.drop_append_of_le_length hbefore] at h hsign
  rw [leading_replace hbefore hblank, List.drop_append_of_le_length hbefore,
    combinatorSignLength_replace hagrees (by rwa [List.length_drop])]
  split at h
  · rename_i hzero
    rw [if_pos hzero]
    exact h
  · rename_i hnonzero
    rw [if_neg hnonzero]
    have hlength := Option.some.inj h
    have hcut := Nat.add_le_of_le_sub' hbefore hsign
    rw [List.drop_append_of_le_length hcut] at hlength ⊢
    rw [leading_replace ?_ hblank, hlength]
    rw [List.length_drop]
    omega

/-! ## Names with a mark -/

/-- The length of a name with one character in front. -/
def markedLength? (s : Text) : Option Nat :=
  if nameLength s = 0 then none else some (nameLength s + 1)

theorem markedLength?_replace (h : markedLength? (piece ++ rest) = some (piece.length + 1))
    (hrest : nameLength rest = 0 → nameLength rest' = 0) :
    markedLength? (piece ++ rest') = some (piece.length + 1) := by
  rw [markedLength?] at h ⊢
  split at h
  · simp at h
  · rename_i hne
    have hlength : nameLength (piece ++ rest) = piece.length :=
      Nat.add_right_cancel (Option.some.inj h)
    rw [hlength] at hne
    rw [nameLength_replace hlength hrest, if_neg hne]

theorem classLength?_cons (s : Text) : classLength? ('.' :: s) = markedLength? s := by
  rw [classLength?, markedLength?]
  split <;> simp_all

theorem identifierLength?_cons (s : Text) : identifierLength? ('#' :: s) = markedLength? s := by
  rw [identifierLength?, markedLength?]
  split <;> simp_all

theorem eq_point_of_classLength? {c : Char} {s : Text} {n : Nat}
    (h : classLength? (c :: s) = some n) : c = '.' := by
  rw [classLength?.eq_def] at h
  split at h
  · rename_i heq
    exact (List.cons.inj heq).1
  · simp at h

theorem eq_numberSign_of_identifierLength? {c : Char} {s : Text} {n : Nat}
    (h : identifierLength? (c :: s) = some n) : c = '#' := by
  rw [identifierLength?.eq_def] at h
  split at h
  · rename_i heq
    exact (List.cons.inj heq).1
  · simp at h

theorem TokenKind.exists_cons (kind : TokenKind) (h : kind.length? s = some piece.length) :
    ∃ c tail, piece = c :: tail :=
  List.exists_cons_of_length_pos (TokenKind.length?_pos h)

theorem classLength?_replace (h : classLength? (piece ++ rest) = some piece.length)
    (hrest : nameLength rest = 0 → nameLength rest' = 0) :
    classLength? (piece ++ rest') = some piece.length := by
  obtain ⟨c, tail, rfl⟩ := TokenKind.exists_cons .className h
  obtain rfl := eq_point_of_classLength? h
  rw [List.cons_append, classLength?_cons] at h ⊢
  exact markedLength?_replace h hrest

theorem identifierLength?_replace (h : identifierLength? (piece ++ rest) = some piece.length)
    (hrest : nameLength rest = 0 → nameLength rest' = 0) :
    identifierLength? (piece ++ rest') = some piece.length := by
  obtain ⟨c, tail, rfl⟩ := TokenKind.exists_cons .identifier h
  obtain rfl := eq_numberSign_of_identifierLength? h
  rw [List.cons_append, identifierLength?_cons] at h ⊢
  exact markedLength?_replace h hrest

/-! ## Pseudos -/

/-- No token begins with a parenthesis, so none that is left over is an argument. -/
theorem head_ne_parenthesis (hrest : Tokenizable rest) : ∀ c ∈ rest.head?, c ≠ '(' := by
  rintro c hc rfl
  obtain ⟨tail, rfl⟩ := List.head?_eq_some_iff.mp hc
  obtain ⟨kind, n, hn⟩ := hrest (List.cons_ne_nil _ _)
  rcases kindOf?_of_length? hn with hkind | ⟨_, hblank⟩
  · have hnone : kindOf? '(' = none := by decide
    exact absurd (hnone.symm.trans hkind) (Option.some_ne_none kind).symm
  · exact absurd hblank (by decide)

theorem callLength_eq_zero (h : ∀ c ∈ rest.head?, c ≠ '(') : callLength rest = 0 := by
  rw [callLength.eq_def]
  split
  · exact absurd rfl (h '(' rfl)
  · rfl

theorem eq_parenthesis_of_callLength {c : Char} {s : Text} (h : callLength (c :: s) ≠ 0) :
    c = '(' := by
  rw [callLength.eq_def] at h
  split at h
  · rename_i heq
    exact (List.cons.inj heq).1
  · exact absurd rfl h

/-- What follows a whole argument, or the place of one, may be replaced. -/
theorem callLength_replace (h : callLength (piece ++ rest) = piece.length)
    (hrest : Tokenizable rest) (hagrees : AgreesToBracket rest rest') :
    callLength (piece ++ rest') = piece.length := by
  cases piece with
  | nil => exact callLength_eq_zero (hagrees.head (by decide) (head_ne_parenthesis hrest))
  | cons c tail =>
      obtain rfl : c = '(' := eq_parenthesis_of_callLength (s := tail ++ rest) (by
        rw [← List.cons_append, h]
        exact Nat.succ_ne_zero _)
      rw [List.cons_append, callLength] at h
      split at h
      · rename_i n hn
        obtain rfl : n = tail.length := Nat.add_right_cancel h
        rw [List.cons_append, callLength, selfDelimiting_argumentLength?.replace hn rest']
        rfl
      · exact absurd h (Nat.succ_ne_zero _).symm

/-- The length of a name and of the argument behind it. -/
def calledLength? (s : Text) : Option Nat :=
  if nameLength s = 0 then none else some (nameLength s + callLength (s.drop (nameLength s)))

theorem calledLength?_pos {s : Text} {n : Nat} (h : calledLength? s = some n) : 0 < n := by
  rw [calledLength?] at h
  split at h
  · simp at h
  · have := Option.some.inj h
    omega

theorem pseudoLength?_cons (s : Text) :
    pseudoLength? (':' :: s) =
      if s.head? = some ':' then (calledLength? s.tail).map (· + 2)
      else (calledLength? s).map (· + 1) := by
  by_cases hcolon : s.head? = some ':'
  · obtain ⟨tail, rfl⟩ := List.head?_eq_some_iff.mp hcolon
    rw [if_pos hcolon, List.tail_cons, calledLength?]
    simp only [pseudoLength?, List.head?_cons, if_true, List.drop_succ_cons, List.drop_zero,
      Nat.add_comm 2, Nat.add_right_comm _ 2]
    split <;> simp_all
  · rw [if_neg hcolon, calledLength?]
    simp only [pseudoLength?, if_neg hcolon, List.drop_succ_cons, List.drop_zero,
      Nat.add_comm 1, Nat.add_right_comm _ 1]
    split <;> simp_all

theorem eq_colon_of_pseudoLength? {c : Char} {s : Text} {n : Nat}
    (h : pseudoLength? (c :: s) = some n) : c = ':' := by
  rw [pseudoLength?.eq_def] at h
  split at h
  · rename_i heq
    exact (List.cons.inj heq).1
  · simp at h

theorem calledLength?_replace (h : calledLength? (piece ++ rest) = some piece.length)
    (hrest : Tokenizable rest) (hagrees : AgreesToBracket rest rest') :
    calledLength? (piece ++ rest') = some piece.length := by
  rw [calledLength?] at h
  split at h
  · simp at h
  · rename_i hne
    have hlength := Option.some.inj h
    obtain ⟨name, call, rfl, hname⟩ : ∃ name call, piece = name ++ call ∧
        name.length = nameLength (piece ++ rest) :=
      ⟨piece.take _, piece.drop _, (List.take_append_drop _ _).symm,
        List.length_take_of_le (by omega)⟩
    rw [← hname, List.append_assoc, List.drop_left, List.length_append] at hlength
    rw [List.append_assoc] at hname hne
    have hcall : callLength (call ++ rest) = call.length := by omega
    obtain ⟨hend, hall⟩ := nameLength_append hname.symm
    have hend' : nameLength (call ++ rest') = 0 := by
      cases call with
      | nil => exact hagrees.nameLength_eq_zero hrest hend
      | cons c tail =>
          obtain rfl := eq_parenthesis_of_callLength (c := c) (s := tail ++ rest) (by
            rw [← List.cons_append, hcall]
            exact Nat.succ_ne_zero _)
          exact nameLength_cons_eq_zero (by decide) (by decide)
    rw [calledLength?, List.append_assoc, hall, hend', Nat.add_zero, List.drop_left,
      callLength_replace hcall hrest hagrees, if_neg (hname ▸ hne), List.length_append]

theorem pseudoLength?_replace (h : pseudoLength? (piece ++ rest) = some piece.length)
    (hrest : Tokenizable rest) (hagrees : AgreesToBracket rest rest') :
    pseudoLength? (piece ++ rest') = some piece.length := by
  obtain ⟨c, tail, rfl⟩ := TokenKind.exists_cons .pseudo h
  obtain rfl := eq_colon_of_pseudoLength? h
  rw [List.cons_append, pseudoLength?_cons] at h ⊢
  cases tail with
  | nil =>
      -- one colon alone is no pseudo
      split at h <;>
        (obtain ⟨n, hn, hlength⟩ := Option.map_eq_some_iff.mp h
         have := calledLength?_pos hn
         simp only [List.length_cons, List.length_nil] at hlength
         omega)
  | cons d tail =>
      rw [List.cons_append, List.head?_cons, List.tail_cons] at h ⊢
      split at h
      · rename_i hcolon
        obtain ⟨n, hn, hlength⟩ := Option.map_eq_some_iff.mp h
        obtain rfl : n = tail.length := Nat.add_right_cancel (m := 2) hlength
        rw [if_pos hcolon, calledLength?_replace hn hrest hagrees]
        rfl
      · rename_i hcolon
        obtain ⟨n, hn, hlength⟩ := Option.map_eq_some_iff.mp h
        obtain rfl : n = (d :: tail).length := Nat.add_right_cancel (m := 1) hlength
        rw [if_neg hcolon, ← List.cons_append, calledLength?_replace hn hrest hagrees]
        rfl

/-! ## Type names -/

/-- No token begins with a bar that no name follows. -/
theorem head_ne_bar (hrest : Tokenizable rest)
    (hname : rest.head? = some '|' → nameOrAnyLength (rest.drop 1) = 0) :
    ∀ c ∈ rest.head?, c ≠ '|' := by
  rintro c hc rfl
  obtain ⟨tail, rfl⟩ := List.head?_eq_some_iff.mp hc
  obtain ⟨kind, n, hn⟩ := hrest (List.cons_ne_nil _ _)
  rcases kindOf?_of_length? hn with hkind | ⟨_, hblank⟩
  · have hbar : kindOf? '|' = some .typeName := by decide
    obtain rfl := Option.some.inj (hbar.symm.trans hkind)
    have hzero : nameOrAnyLength tail = 0 := hname rfl
    have hspace : nameOrAnyLength ('|' :: tail) = 0 := by
      simp [nameOrAnyLength, nameLength_cons_eq_zero (c := '|') (by decide) (by decide)]
    simp [TokenKind.length?, typeLength?, hspace, hzero] at hn
  · exact absurd hblank (by decide)

/-- What follows a name, an asterisk or the place of one before a bar may be replaced
by another text with a bar. -/
theorem nameOrAnyLength_replace_bar
    (h : nameOrAnyLength (piece ++ '|' :: rest) = piece.length) :
    nameOrAnyLength (piece ++ '|' :: rest') = piece.length := by
  have hbar (s : Text) : nameLength ('|' :: s) = 0 :=
    nameLength_cons_eq_zero (by decide) (by decide)
  cases piece with
  | nil => simp [nameOrAnyLength, hbar]
  | cons c tail => exact nameOrAnyLength_replace (List.cons_ne_nil _ _) h fun _ => hbar rest'

theorem typeLength?_qualified {space tail : Text}
    (hspace : nameOrAnyLength (space ++ '|' :: tail) = space.length)
    (htail : nameOrAnyLength tail ≠ 0) :
    typeLength? (space ++ '|' :: tail) = some (space.length + 1 + nameOrAnyLength tail) := by
  rw [typeLength?, hspace, List.drop_left, List.head?_cons, if_pos rfl, List.drop_succ_cons,
    List.drop_zero, if_pos htail]

theorem typeLength?_plain (hpiece : nameOrAnyLength (piece ++ rest) = piece.length)
    (hne : piece ≠ []) (hbar : ¬ rest.head? = some '|') :
    typeLength? (piece ++ rest) = some piece.length := by
  rw [typeLength?, hpiece, List.drop_left, if_neg hbar, if_neg (by simp),
    if_pos (mt List.eq_nil_of_length_eq_zero hne)]

/-- A type name is qualified, or is no namespace of what follows. -/
theorem typeLength?_cases (h : typeLength? (piece ++ rest) = some piece.length) :
    (∃ space tail, piece = space ++ '|' :: tail ∧ tail ≠ [] ∧
        nameOrAnyLength (space ++ '|' :: (tail ++ rest)) = space.length ∧
        nameOrAnyLength (tail ++ rest) = tail.length) ∨
      nameOrAnyLength (piece ++ rest) = piece.length ∧
        (rest.head? = some '|' → nameOrAnyLength (rest.drop 1) = 0) := by
  rw [typeLength?] at h
  generalize hqualified : (if ((piece ++ rest).drop (nameOrAnyLength (piece ++ rest))).head? =
    some '|' then _ else 0) = qualified at h
  split at h
  · rename_i hne
    have hlength := Option.some.inj h
    have hbar : ((piece ++ rest).drop (nameOrAnyLength (piece ++ rest))).head? = some '|' := by
      refine Classical.byContradiction fun hother => hne ?_
      rw [← hqualified, if_neg hother]
    rw [if_pos hbar] at hqualified
    subst hqualified
    obtain ⟨space, tail, rfl, hspace⟩ : ∃ space tail, piece = space ++ tail ∧
        space.length = nameOrAnyLength (piece ++ rest) :=
      ⟨piece.take _, piece.drop _, (List.take_append_drop _ _).symm,
        List.length_take_of_le (by omega)⟩
    rw [← hspace, List.append_assoc, List.drop_left] at hlength hne hbar
    rw [List.append_assoc] at hspace
    cases tail with
    | nil =>
        simp only [List.length_append, List.length_nil] at hlength
        omega
    | cons c tail =>
        obtain rfl : c = '|' := Option.some.inj hbar
        simp only [List.cons_append, List.drop_succ_cons, List.drop_zero, List.length_append,
          List.length_cons] at hlength hne hspace
        have htail : nameOrAnyLength (tail ++ rest) = tail.length := by omega
        refine Or.inl ⟨space, tail, rfl, ?_, hspace.symm, htail⟩
        rintro rfl
        exact hne htail
  · rename_i hzero
    split at h
    · have hlength := Option.some.inj h
      rw [Classical.not_not.mp hzero, hlength, List.drop_left] at hqualified
      refine Or.inr ⟨hlength, fun hbar => ?_⟩
      rwa [if_pos hbar] at hqualified
    · cases h

/-- What follows a type name may be replaced if neither a name nor a bar begins there. -/
theorem typeLength?_replace_of_head (h : typeLength? (piece ++ rest) = some piece.length)
    (hrest : Tokenizable rest) (hname : nameLength rest = 0 → nameLength rest' = 0)
    (hhead : (∀ c ∈ rest.head?, c ≠ '|') → ∀ c ∈ rest'.head?, c ≠ '|') :
    typeLength? (piece ++ rest') = some piece.length := by
  have hpos := @TokenKind.length?_pos _ .typeName _ h
  rcases typeLength?_cases h with ⟨space, tail, rfl, hne, hspace, htail⟩ | ⟨hpiece, hbar⟩
  · have hspace' : nameOrAnyLength (space ++ '|' :: (tail ++ rest')) = space.length :=
      nameOrAnyLength_replace_bar hspace
    have htail' := nameOrAnyLength_replace hne htail hname
    have hqualified := typeLength?_qualified hspace'
      (by rw [htail']; exact mt List.eq_nil_of_length_eq_zero hne)
    rw [List.append_assoc, List.cons_append, hqualified, htail', List.length_append,
      List.length_cons]
    exact congrArg some (by omega)
  · have hne : piece ≠ [] := List.ne_nil_of_length_pos hpos
    have hplain : ∀ c ∈ rest.head?, c ≠ '|' := head_ne_bar hrest hbar
    have hbar' : ¬ rest'.head? = some '|' := fun hbar' => hhead hplain '|' hbar' rfl
    exact typeLength?_plain (nameOrAnyLength_replace hne hpiece hname) hne hbar'

theorem typeLength?_replace (h : typeLength? (piece ++ rest) = some piece.length)
    (hrest : Tokenizable rest) (hagrees : AgreesToBracket rest rest') :
    typeLength? (piece ++ rest') = some piece.length :=
  typeLength?_replace_of_head h hrest (hagrees.nameLength_eq_zero hrest) (hagrees.head (by decide))

/-- A token keeps its length if the text behind it is replaced by one that agrees with
it up to an opening bracket. -/
theorem TokenKind.length?_replace {kind : TokenKind}
    (h : kind.length? (piece ++ rest) = some piece.length)
    (hrest : Tokenizable rest) (hagrees : AgreesToBracket rest rest') :
    kind.length? (piece ++ rest') = some piece.length := by
  cases kind with
  | comma => exact commaLength?_replace h hagrees.leading_eq_nil
  | combinator => exact combinatorLength?_replace h hagrees
  | pseudo => exact pseudoLength?_replace h hrest hagrees
  | typeName => exact typeLength?_replace h hrest hagrees
  | condition => exact selfDelimiting_conditionLength?.replace h rest'
  | className => exact classLength?_replace h (hagrees.nameLength_eq_zero hrest)
  | comment => exact selfDelimiting_commentLength?.replace h rest'
  | identifier => exact identifierLength?_replace h (hagrees.nameLength_eq_zero hrest)
  | nesting =>
      obtain ⟨c, tail, rfl⟩ := TokenKind.exists_cons .nesting h
      exact h

/-! ## Tokens are no longer than the text -/

theorem nameLength_le (s : Text) : nameLength s ≤ s.length := by
  fun_induction nameLength s <;> simp_all

theorem nameOrAnyLength_le (s : Text) : nameOrAnyLength s ≤ s.length := by
  rw [nameOrAnyLength]
  split
  · split
    · rename_i hany
      obtain ⟨tail, rfl⟩ := List.head?_eq_some_iff.mp hany
      exact Nat.succ_le_succ (Nat.zero_le _)
    · exact Nat.zero_le _
  · exact nameLength_le s

theorem callLength_le (s : Text) : callLength s ≤ s.length := by
  rw [callLength.eq_def]
  split
  · split
    · rename_i n hn
      exact Nat.succ_le_succ (selfDelimiting_argumentLength?.le_length hn)
    · exact Nat.zero_le _
  · exact Nat.zero_le _

theorem calledLength?_le {s : Text} {n : Nat} (h : calledLength? s = some n) :
    n ≤ s.length := by
  rw [calledLength?] at h
  split at h
  · simp at h
  · have hname := nameLength_le s
    have hcall := callLength_le (s.drop (nameLength s))
    rw [List.length_drop] at hcall
    have := Option.some.inj h
    omega

theorem length_leading_le (s : Text) : (leading s).length ≤ s.length :=
  (List.takeWhile_sublist _).length_le

theorem combinatorSignLength_le (s : Text) : combinatorSignLength s ≤ s.length := by
  by_cases hthree : ['>', '>', '>'] <+: s
  · rw [combinatorSignLength_of_three hthree]
    exact hthree.length_le
  · by_cases hsign : ∃ c ∈ s.head?, IsSign c
    · obtain ⟨c, hc, hsign⟩ := hsign
      obtain ⟨tail, rfl⟩ := List.head?_eq_some_iff.mp hc
      rw [combinatorSignLength_of_sign hthree hsign]
      exact Nat.succ_le_succ (Nat.zero_le _)
    · rw [combinatorSignLength_of_plain fun c hc h => hsign ⟨c, hc, h⟩]
      exact Nat.zero_le _

theorem markedLength?_le {s : Text} {n : Nat} (h : markedLength? s = some n) :
    n ≤ s.length + 1 := by
  rw [markedLength?] at h
  split at h
  · simp at h
  · have hname := nameLength_le s
    have := Option.some.inj h
    omega

theorem commaLength?_le {s : Text} {n : Nat} (h : commaLength? s = some n) : n ≤ s.length := by
  rw [commaLength?] at h
  split at h
  · rename_i rest hdrop
    have hlength := congrArg List.length hdrop
    have hrest := length_leading_le rest
    have hsum := Option.some.inj h
    rw [List.length_drop, List.length_cons] at hlength
    omega
  · cases h

theorem combinatorLength?_le {s : Text} {n : Nat} (h : combinatorLength? s = some n) :
    n ≤ s.length := by
  rw [combinatorLength?_eq] at h
  dsimp only at h
  have hbefore := length_leading_le s
  have hsign := combinatorSignLength_le (s.drop (leading s).length)
  have hafter := length_leading_le
    (s.drop ((leading s).length + combinatorSignLength (s.drop (leading s).length)))
  rw [List.length_drop] at hsign hafter
  split at h
  · split at h
    · cases h
    · have hsum := Option.some.inj h
      omega
  · have hsum := Option.some.inj h
    omega

theorem typeLength?_le {s : Text} {n : Nat} (h : typeLength? s = some n) : n ≤ s.length := by
  have hspace := nameOrAnyLength_le s
  have hqualified := nameOrAnyLength_le ((s.drop (nameOrAnyLength s)).drop 1)
  rw [List.length_drop, List.length_drop] at hqualified
  rw [typeLength?] at h
  repeat' split at h
  all_goals simp only [Option.some.injEq, reduceCtorEq] at h
  all_goals omega

/-- No token is longer than the text that it begins. -/
theorem TokenKind.length?_le {kind : TokenKind} {s : Text} {n : Nat}
    (h : kind.length? s = some n) : n ≤ s.length := by
  obtain ⟨c, tail, rfl⟩ := List.exists_cons_of_ne_nil (ne_nil_of_length? h)
  cases kind with
  | comma => exact commaLength?_le h
  | combinator => exact combinatorLength?_le h
  | pseudo =>
      obtain rfl := eq_colon_of_pseudoLength? h
      simp only [length?, pseudoLength?_cons] at h
      split at h
      · rename_i hcolon
        obtain ⟨rest, rfl⟩ := List.head?_eq_some_iff.mp hcolon
        obtain ⟨m, hm, rfl⟩ := Option.map_eq_some_iff.mp h
        exact Nat.add_le_add_right (calledLength?_le hm) 2
      · obtain ⟨m, hm, rfl⟩ := Option.map_eq_some_iff.mp h
        exact Nat.add_le_add_right (calledLength?_le hm) 1
  | typeName => exact typeLength?_le h
  | condition => exact selfDelimiting_conditionLength?.le_length h
  | className =>
      obtain rfl := eq_point_of_classLength? h
      exact markedLength?_le (classLength?_cons tail ▸ h)
  | comment => exact selfDelimiting_commentLength?.le_length h
  | identifier =>
      obtain rfl := eq_numberSign_of_identifierLength? h
      exact markedLength?_le (identifierLength?_cons tail ▸ h)
  | nesting =>
      simp only [length?, nestingLength?] at h
      split at h
      · rw [← Option.some.inj h]
        exact Nat.succ_le_succ (Nat.zero_le _)
      · cases h

end ComponentCompiler.Selector
