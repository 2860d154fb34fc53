import ComponentCompiler.Proofs.Result
import ComponentCompiler.Selector.Scope

/-!
# Tokens tile the selector list

The tokens of a selector list are cut off it one after the other, at each place
the first kind that fits.  Nothing is dropped, so their texts put together are
the selector list, and grouping them at the commas loses nothing either.
-/

namespace ComponentCompiler.Selector

variable {s : Text} {parts : List Token} {list : SelectorList}

/-! ## Cutting -/

/-- Consecutive first matches: each token is the first kind that fits at its place,
and the text ends with a token that is no comma. -/
inductive Lexes : (atStart : Bool) → Text → List Token → Prop
  | done : Lexes false [] []
  | token {atStart : Bool} {s : Text} {kind : TokenKind} {n : Nat} {rest : List Token}
      (hne : s ≠ []) (hnext : nextToken? atStart s = some (kind, n))
      (hrest : Lexes (kind == .comma) (s.drop n) rest) :
      Lexes atStart s (⟨kind, s.take n⟩ :: rest)

theorem lexes_of_tokensFrom {atStart : Bool} {offset last : Nat} {tokens : List Token}
    (h : tokensFrom atStart offset last s = .ok tokens) : Lexes atStart s tokens := by
  fun_induction tokensFrom atStart offset last s generalizing tokens with
  | case1 => simp at h
  | case2 atStart offset last s hempty hend =>
      obtain rfl := Except.ok.inj h
      obtain rfl := List.isEmpty_iff.mp hempty
      obtain rfl := Bool.eq_false_iff.mpr hend
      exact .done
  | case3 atStart offset last s hempty kind n hnext ih =>
      obtain ⟨rest, hrest, hcons⟩ := Result.exists_of_bind_eq_ok h
      obtain rfl := Except.ok.inj hcons
      exact .token (fun hnil => hempty (List.isEmpty_iff.mpr hnil)) hnext (ih hrest)
  | case4 => simp at h
  | case5 => simp at h

theorem lexes_of_tokens {found : List Token} (h : tokens s = .ok found) : Lexes true s found :=
  lexes_of_tokensFrom h

@[simp]
theorem render_cons (token : Token) (rest : List Token) :
    render (token :: rest) = token.text ++ render rest := rfl

theorem render_append (left right : List Token) :
    render (left ++ right) = render left ++ render right :=
  List.flatMap_append

/-- The texts of the tokens put together are the text they were cut from. -/
theorem Lexes.render_eq {atStart : Bool} {found : List Token} (h : Lexes atStart s found) :
    render found = s := by
  induction h with
  | done => rfl
  | token _ _ _ ih => rw [render_cons, ih, List.take_append_drop]

/-! ## Grouping at the commas -/

namespace SelectorList

/-- The tokens of the list, commas included. -/
def toTokens (list : SelectorList) : List Token :=
  list.first ++ list.more.flatMap fun (separator, parts) => ⟨.comma, separator⟩ :: parts

theorem toTokens_ofTokens (found : List Token) : (ofTokens found).toTokens = found := by
  induction found with
  | nil => rfl
  | cons token rest ih =>
      obtain ⟨kind, text⟩ := token
      rw [ofTokens]
      dsimp only
      split
      · rename_i hcomma
        obtain rfl := hcomma
        exact congrArg (Token.mk .comma text :: ·) ih
      · exact congrArg (Token.mk kind text :: ·) ih

/-- No selector holds a comma. -/
theorem kind_ne_comma_of_mem_ofTokens {found : List Token}
    (hparts : parts ∈ (ofTokens found).selectors) {token : Token} (htoken : token ∈ parts) :
    token.kind ≠ .comma := by
  induction found generalizing parts with
  | nil =>
      obtain rfl : parts = [] := by simpa [ofTokens, selectors] using hparts
      exact absurd htoken List.not_mem_nil
  | cons head rest ih =>
      rw [ofTokens] at hparts
      split at hparts
      · rcases List.mem_cons.mp hparts with rfl | hmore
        · exact absurd htoken List.not_mem_nil
        · exact ih hmore htoken
      · rename_i hcomma
        rcases List.mem_cons.mp hparts with rfl | hmore
        · rcases List.mem_cons.mp htoken with rfl | hfirst
          · exact hcomma
          · exact ih List.mem_cons_self hfirst
        · exact ih (List.mem_cons_of_mem _ hmore) htoken

theorem exists_tokens_of_parse (h : parse s = .ok list) :
    ∃ found, tokens s = .ok found ∧ list = ofTokens found := by
  obtain ⟨found, hfound, hlist⟩ := Result.exists_of_bind_eq_ok h
  exact ⟨found, hfound, (Except.ok.inj hlist).symm⟩

/-- What a selector list is parsed to are its tokens, grouped at the commas. -/
theorem lexes_toTokens_of_parse (h : parse s = .ok list) : Lexes true s list.toTokens := by
  obtain ⟨found, hfound, rfl⟩ := exists_tokens_of_parse h
  rw [toTokens_ofTokens]
  exact lexes_of_tokens hfound

theorem kind_ne_comma_of_parse (h : parse s = .ok list) (hparts : parts ∈ list.selectors)
    {token : Token} (htoken : token ∈ parts) : token.kind ≠ .comma := by
  obtain ⟨found, _, rfl⟩ := exists_tokens_of_parse h
  exact kind_ne_comma_of_mem_ofTokens hparts htoken

end SelectorList

end ComponentCompiler.Selector
