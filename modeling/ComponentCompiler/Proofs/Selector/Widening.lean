import ComponentCompiler.Proofs.Selector.Boundary
import ComponentCompiler.Proofs.Selector.Insertion

/-!
# Conditions between tokens

A scope condition may be put between any two tokens of a selector list, also more
than one: the text that results is cut into the old tokens and the new conditions.
The scope must not hold what a condition gives a meaning to, a closing bracket, a
quotation mark or a backslash.
-/

namespace ComponentCompiler.Selector

open Text (leading apostrophe)

variable {scope s : Text} {found widened : List Token} {atStart : Bool}

/-! ## The next token with another text behind it -/

theorem length_leading_le_of_combinatorLength? {n : Nat} (h : combinatorLength? s = some n) :
    (leading s).length ≤ n := by
  rw [combinatorLength?_eq] at h
  dsimp only at h
  split at h
  · split at h
    · simp at h
    · exact Nat.le_of_eq (Option.some.inj h)
  · have := Option.some.inj h
    omega

theorem commaLength?_eq_none_iff :
    commaLength? s = none ↔ ∀ c ∈ (s.drop (leading s).length).head?, c ≠ ',' := by
  rw [commaLength?]
  split
  · rename_i hdrop
    rw [hdrop]
    simp
  · rename_i hother
    simp only [true_iff]
    rintro c hc rfl
    obtain ⟨tail, htail⟩ := List.head?_eq_some_iff.mp hc
    exact hother tail htail

theorem nextToken?_replace {piece rest rest' : Text} {kind : TokenKind}
    (h : nextToken? atStart (piece ++ rest) = some (kind, piece.length))
    (hrest : Tokenizable rest) (hagrees : AgreesToBracket rest rest') :
    nextToken? atStart (piece ++ rest') = some (kind, piece.length) := by
  obtain ⟨hlength, hstart, hcomma⟩ := nextToken?_eq_some_iff.mp h
  refine nextToken?_eq_some_iff.mpr ⟨TokenKind.length?_replace hlength hrest hagrees, hstart, ?_⟩
  rintro rfl hinner
  have hle := length_leading_le_of_combinatorLength? hlength
  have hnone := commaLength?_eq_none_iff.mp (hcomma rfl hinner)
  rw [List.drop_append_of_le_length hle] at hnone
  rw [commaLength?_eq_none_iff, leading_replace hle hagrees.leading_eq_nil,
    List.drop_append_of_le_length hle]
  exact (hagrees.prepend _).head (by decide) hnone

/-- A token at the start of a selector is the next one in its middle too, if no blanks
stand before it. -/
theorem nextToken?_inside {kind : TokenKind} {n : Nat}
    (h : nextToken? true s = some (kind, n)) (hs : leading s = []) :
    nextToken? false s = some (kind, n) := by
  obtain ⟨hlength, hstart, -⟩ := nextToken?_eq_some_iff.mp h
  refine nextToken?_eq_some_iff.mpr ⟨hlength, fun _ => rfl, ?_⟩
  rintro rfl -
  rw [commaLength?_eq_none_iff, hs, List.length_nil, List.drop_zero]
  rintro c hc rfl
  obtain ⟨tail, rfl⟩ := List.head?_eq_some_iff.mp hc
  have hcomma : kindOf? ',' = some .comma := by decide
  rcases kindOf?_of_length? hlength with hkind | ⟨hkind, _⟩
  · exact absurd (hcomma.symm.trans hkind) (by simp)
  · cases hkind

/-- No blanks are left behind a comma. -/
theorem leading_drop_of_commaLength? {n : Nat} (h : commaLength? s = some n) :
    leading (s.drop n) = [] := by
  rw [commaLength?] at h
  split at h
  · rename_i rest hdrop
    rw [← Option.some.inj h, ← List.drop_drop, ← List.drop_drop, hdrop, List.drop_succ_cons,
      List.drop_zero, Text.drop_length_leading, Text.leading_trimStart]
  · simp at h

/-! ## The text of a scope condition -/

/-- Whether a scope holds no character with a meaning inside a condition. -/
def IsPlain (scope : Text) : Prop :=
  ∀ c ∈ scope, c ≠ ']' ∧ c ≠ '"' ∧ c ≠ apostrophe ∧ c ≠ '\\'

instance (scope : Text) : Decidable (IsPlain scope) :=
  List.decidableBAll (fun c => c ≠ ']' ∧ c ≠ '"' ∧ c ≠ apostrophe ∧ c ≠ '\\') scope

theorem bracketLength?_of_isPlain (hplain : IsPlain scope) (rest : Text) :
    bracketLength? (scope ++ ']' :: rest) = some (scope.length + 1) := by
  induction scope with
  | nil => exact bracketLength?_cons (by decide) rest
  | cons c tail ih =>
      obtain ⟨hclose, hquote, hapostrophe, hescape⟩ := hplain c List.mem_cons_self
      have htail := ih fun d hd => hplain d (List.mem_cons_of_mem _ hd)
      rw [List.cons_append, bracketLength?_cons hescape, if_neg hclose,
        if_neg (not_or.mpr ⟨hquote, hapostrophe⟩), htail]
      rfl

theorem nextToken?_scopeToken (hplain : IsPlain scope) (atStart : Bool) (rest : Text) :
    nextToken? atStart ((scopeToken scope).text ++ rest) =
      some (.condition, (scopeToken scope).text.length) := by
  refine nextToken?_eq_some_iff.mpr ⟨?_, nofun, nofun⟩
  have hlength := bracketLength?_of_isPlain hplain rest
  simp only [scopeToken, List.cons_append, List.append_assoc, List.nil_append,
    TokenKind.length?, conditionLength?, hlength, Option.map_some, List.length_cons,
    List.length_append, List.length_nil]

/-! ## Cutting the widened text -/

/-- The second token list is the first one with scope conditions put in. -/
inductive Widened (scope : Text) : List Token → List Token → Prop
  | nil : Widened scope [] []
  | keep {found widened : List Token} (token : Token) (h : Widened scope found widened) :
      Widened scope (token :: found) (token :: widened)
  | insert {found widened : List Token} (h : Widened scope found widened) :
      Widened scope found (scopeToken scope :: widened)

theorem Widened.refl (scope : Text) (found : List Token) : Widened scope found found := by
  induction found with
  | nil => exact .nil
  | cons token rest ih => exact .keep token ih

theorem Widened.append {found' widened' : List Token} (h : Widened scope found widened)
    (h' : Widened scope found' widened') :
    Widened scope (found ++ found') (widened ++ widened') := by
  induction h with
  | nil => exact h'
  | keep token _ ih => exact .keep token ih
  | insert _ ih => exact .insert ih

/-- What holds of the condition and of all old tokens holds of all tokens. -/
theorem Widened.forall_mem {P : Token → Prop} (h : Widened scope found widened)
    (hcondition : P (scopeToken scope)) (hfound : ∀ token ∈ found, P token) :
    ∀ token ∈ widened, P token := by
  induction h with
  | nil => exact hfound
  | keep token _ ih =>
      rw [List.forall_mem_cons] at hfound ⊢
      exact ⟨hfound.1, ih hfound.2⟩
  | insert _ ih => exact List.forall_mem_cons.mpr ⟨hcondition, ih hfound⟩

theorem Widened.agreesToBracket (h : Widened scope found widened) :
    AgreesToBracket (render found) (render widened) := by
  induction h with
  | nil => exact Or.inl rfl
  | keep token _ ih => exact ih.prepend token.text
  | insert _ _ => exact Or.inr ⟨[], _, List.nil_prefix, rfl⟩

theorem Lexes.tokenizable (h : Lexes atStart s found) : Tokenizable s := by
  intro hne
  cases h with
  | done => exact absurd rfl hne
  | token _ hnext _ => exact ⟨_, _, (nextToken?_eq_some_iff.mp hnext).1⟩

theorem Lexes.cons (token : Token) {rest : Text}
    (hnext : nextToken? atStart (token.text ++ rest) = some (token.kind, token.text.length))
    (hrest : Lexes (token.kind == .comma) rest found) :
    Lexes atStart (token.text ++ rest) (token :: found) := by
  have hne : token.text ++ rest ≠ [] := ne_nil_of_length? (nextToken?_eq_some_iff.mp hnext).1
  have hcut : (token.text ++ rest).drop token.text.length = rest := List.drop_left
  have htaken : (token.text ++ rest).take token.text.length = token.text := List.take_left
  have hall := Lexes.token hne hnext (hcut.symm ▸ hrest)
  rwa [htaken] at hall

theorem Lexes.inside (h : Lexes true s found) (hs : leading s = []) : Lexes false s found := by
  cases h with
  | token hne hnext hrest => exact .token hne (nextToken?_inside hnext hs) hrest

/-- The text of a token list with conditions put in is cut into just these tokens. -/
theorem Lexes.widen (h : Lexes atStart s found) (hplain : IsPlain scope)
    (hstart : atStart = true → leading s = []) (hwidened : Widened scope found widened) :
    Lexes atStart (render widened) widened := by
  induction hwidened generalizing atStart s with
  | nil =>
      cases h
      exact .done
  | keep token hmore ih =>
      cases h with
      | @token _ _ kind n _ hne hnext hrest =>
          obtain ⟨hlength, -, -⟩ := nextToken?_eq_some_iff.mp hnext
          have hcomma : (kind == .comma) = true → leading (s.drop n) = [] := fun hkind => by
            obtain rfl := eq_of_beq hkind
            exact leading_drop_of_commaLength? hlength
          have htaken : (s.take n).length = n :=
            List.length_take_of_le (TokenKind.length?_le hlength)
          have hagrees := hmore.agreesToBracket
          rw [hrest.render_eq] at hagrees
          have hnext' : nextToken? atStart (s.take n ++ s.drop n) =
              some (kind, (s.take n).length) := by rwa [List.take_append_drop, htaken]
          exact .cons ⟨kind, s.take n⟩
            (nextToken?_replace hnext' hrest.tokenizable hagrees) (ih hrest hcomma)
  | insert hmore ih =>
      have hagrees := hmore.agreesToBracket
      rw [h.render_eq] at hagrees
      have hinner := ih h hstart
      refine .cons _ (nextToken?_scopeToken hplain atStart _) ?_
      cases atStart with
      | false => exact hinner
      | true => exact hinner.inside (hagrees.leading_eq_nil (hstart rfl))

theorem tokensFrom_of_lexes (h : Lexes atStart s found) (offset last : Nat) :
    tokensFrom atStart offset last s = .ok found := by
  induction h generalizing offset last with
  | done =>
      rw [tokensFrom]
      rfl
  | @token atStart s kind n rest hne hnext _ ih =>
      rw [tokensFrom, if_neg (mt List.isEmpty_iff.mp hne)]
      split
      · rename_i kind' n' hnext'
        obtain ⟨rfl, rfl⟩ := Prod.mk.inj (Option.some.inj (hnext.symm.trans hnext'))
        rw [ih]
        rfl
      · rename_i hnone
        exact absurd (hnext.symm.trans hnone) (Option.some_ne_none _)

end ComponentCompiler.Selector
