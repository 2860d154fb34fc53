import ComponentCompiler.Proofs.Selector.Compound

/-!
# Arguments of pseudos

A pseudo takes its argument along as one text.  Strings in the argument may hold any
parentheses, and other parentheses have to be closed and nest at most two deep, which is
what the grammar of selectors describes.  A compound in front of such a pseudo gets the
scope condition before the pseudo, whatever the argument says.
-/

namespace ComponentCompiler.Selector

open Text (apostrophe leading trailing)

variable {scope s c name argument inner piece rest more : Text} {parts : List Token}
  {depth n : Nat}

/-! ## What an argument is -/

/-- Whether all parentheses are closed and nest at most so deep.  Quotation marks have no
meaning here. -/
inductive Nests : Nat → Text → Prop
  | nil {depth : Nat} : Nests depth []
  | char {depth : Nat} {c : Char} {rest : Text} (hopen : c ≠ '(') (hclose : c ≠ ')')
      (hrest : Nests depth rest) : Nests depth (c :: rest)
  | group {depth : Nat} {inner rest : Text} (hinner : Nests depth inner)
      (hrest : Nests (depth + 1) rest) : Nests (depth + 1) ('(' :: (inner ++ ')' :: rest))

/-- What may stand between two quotation marks: a backslash takes the next character
along, which is no line feed. -/
inductive Quoted (quote : Char) : Text → Prop
  | nil : Quoted quote []
  | escape {c : Char} {rest : Text} (hc : c ≠ '\n') (hrest : Quoted quote rest) :
      Quoted quote ('\\' :: c :: rest)
  | char {c : Char} {rest : Text} (hescape : c ≠ '\\') (hc : c ≠ quote)
      (hrest : Quoted quote rest) : Quoted quote (c :: rest)

/-- The arguments of pseudos. -/
inductive Argument : Text → Prop
  | nil : Argument []
  | char {c : Char} {rest : Text} (hparenthesis : c ≠ '(' ∧ c ≠ ')')
      (hquote : c ≠ '"' ∧ c ≠ apostrophe) (hrest : Argument rest) : Argument (c :: rest)
  | string {quote : Char} {inner rest : Text} (hquote : quote = '"' ∨ quote = apostrophe)
      (hinner : Quoted quote inner) (hrest : Argument rest) :
      Argument (quote :: (inner ++ quote :: rest))
  | group {inner rest : Text} (hinner : Nests 1 inner) (hrest : Argument rest) :
      Argument ('(' :: (inner ++ ')' :: rest))

/-! ## Arguments are found -/

theorem stringLength?_of_quoted {quote : Char} (hquote : quote ≠ '\\') (h : Quoted quote inner)
    (rest : Text) : stringLength? quote (inner ++ quote :: rest) = some (inner.length + 1) := by
  induction h with
  | nil => rw [List.nil_append, stringLength?_cons hquote, if_pos rfl, List.length_nil]
  | escape hc _ ih =>
      rw [List.cons_append, List.cons_append, stringLength?, if_neg hc, ih]
      rfl
  | char hescape hc _ ih =>
      rw [List.cons_append, stringLength?_cons hescape, if_neg hc, ih]
      rfl

theorem innerLength?_cons {deep : Bool} {c : Char} (hopen : c ≠ '(') (hclose : c ≠ ')')
    (rest : Text) : innerLength? deep (c :: rest) = (innerLength? deep rest).map (· + 1) :=
  innerLength?.eq_4 deep c rest hopen hclose

theorem innerLength?_of_nests_zero (h : Nests depth inner) (hdepth : depth = 0) (rest : Text) :
    innerLength? true (inner ++ ')' :: rest) =
      (innerLength? false rest).map (· + (inner.length + 1)) := by
  induction h with
  | nil => simp [innerLength?]
  | char hopen hclose _ ih =>
      rw [List.cons_append, innerLength?_cons hopen hclose, ih hdepth, Option.map_map]
      rfl
  | group => cases hdepth

theorem innerLength?_of_nests (h : Nests depth inner) (hdepth : depth = 1) (rest : Text) :
    innerLength? false (inner ++ ')' :: rest) = some (inner.length + 1) := by
  induction h with
  | nil => simp [innerLength?]
  | char hopen hclose _ ih =>
      rw [List.cons_append, innerLength?_cons hopen hclose, ih hdepth]
      rfl
  | group hflat _ _ ih =>
      obtain rfl := Nat.succ.inj hdepth
      rw [List.cons_append, List.append_assoc, List.cons_append, innerLength?,
        if_neg Bool.false_ne_true, innerLength?_of_nests_zero hflat rfl, ih rfl]
      simp only [Option.map_some, List.length_cons, List.length_append]
      exact congrArg some (by omega)

theorem argumentLength?_cons (c : Char) (rest : Text) :
    argumentLength? (c :: rest) =
      if c = ')' then some 1
      else if c = '(' then
        match innerLength? false rest with
        | some n => (argumentLength? (rest.drop n)).map (· + (n + 1))
        | none => none
      else if c = '"' ∨ c = apostrophe then
        match stringLength? c rest with
        | some n => (argumentLength? (rest.drop n)).map (· + (n + 1))
        | none => none
      else (argumentLength? rest).map (· + 1) := by
  rewrite [argumentLength?]
  rfl

/-- Behind a text and a mark, when so many characters are passed. -/
theorem drop_append_cons_length (inner : Text) (mark : Char) (rest : Text) :
    (inner ++ mark :: rest).drop (inner.length + 1) = rest := by
  rw [← List.drop_drop, List.drop_left]
  rfl

theorem argumentLength?_of_argument (h : Argument argument) (rest : Text) :
    argumentLength? (argument ++ ')' :: rest) = some (argument.length + 1) := by
  induction h with
  | nil =>
      rw [List.nil_append, argumentLength?_cons, if_pos rfl]
      rfl
  | char hparenthesis hquote _ ih =>
      rw [List.cons_append, argumentLength?_cons, if_neg hparenthesis.2, if_neg hparenthesis.1,
        if_neg (not_or.mpr hquote), ih]
      rfl
  | @string quote inner behind hquote hinner _ ih =>
      have hplain : quote ≠ ')' ∧ quote ≠ '(' ∧ quote ≠ '\\' := by
        rcases hquote with rfl | rfl <;> decide
      rw [List.cons_append, List.append_assoc, List.cons_append, argumentLength?_cons,
        if_neg hplain.1, if_neg hplain.2.1, if_pos hquote,
        stringLength?_of_quoted hplain.2.2 hinner]
      dsimp only
      rw [drop_append_cons_length, ih]
      simp only [Option.map_some, List.length_cons, List.length_append]
      exact congrArg some (by omega)
  | @group inner behind hinner _ ih =>
      rw [List.cons_append, List.append_assoc, List.cons_append, argumentLength?_cons,
        if_neg (by decide), if_pos rfl, innerLength?_of_nests hinner rfl]
      dsimp only
      rw [drop_append_cons_length, ih]
      simp only [Option.map_some, List.length_cons, List.length_append]
      exact congrArg some (by omega)

/-! ## Nothing else is an argument -/

theorem exists_quoted {quote : Char} (h : stringLength? quote s = some n) :
    ∃ inner rest, s = inner ++ quote :: rest ∧ n = inner.length + 1 ∧ Quoted quote inner := by
  fun_induction stringLength? quote s generalizing n with
  | case1 | case3 | case6 => cases h
  | case2 c rest hc ih =>
      obtain ⟨m, hm, rfl⟩ := Option.map_eq_some_iff.mp h
      obtain ⟨inner, behind, rfl, rfl, hinner⟩ := ih hm
      exact ⟨'\\' :: c :: inner, behind, rfl, rfl, .escape hc hinner⟩
  | case4 rest hescape hend =>
      obtain rfl := Option.some.inj h
      exact ⟨[], rest, rfl, rfl, .nil⟩
  | case5 c rest hescape hend hc ih =>
      obtain ⟨m, hm, rfl⟩ := Option.map_eq_some_iff.mp h
      obtain ⟨inner, behind, rfl, rfl, hinner⟩ := ih hm
      exact ⟨c :: inner, behind, rfl, rfl, .char (ne_backslash hescape hend) hc hinner⟩

/-- What stands before the closing parenthesis of a group, or of the group around it. -/
def ClosesGroup : Bool → Text → Prop
  | false, inner => Nests 1 inner
  | true, text => ∃ flat inner, text = flat ++ ')' :: inner ∧ Nests 0 flat ∧ Nests 1 inner

theorem exists_closesGroup {deep : Bool} (h : innerLength? deep s = some n) :
    ∃ inner rest, s = inner ++ ')' :: rest ∧ n = inner.length + 1 ∧ ClosesGroup deep inner := by
  fun_induction innerLength? deep s generalizing n with
  | case1 | case2 => cases h
  | case3 deep rest hdeep ih =>
      obtain rfl := Bool.eq_false_iff.mpr hdeep
      obtain ⟨m, hm, rfl⟩ := Option.map_eq_some_iff.mp h
      obtain ⟨_, behind, rfl, rfl, flat, inner, rfl, hflat, hinner⟩ := ih hm
      exact ⟨'(' :: (flat ++ ')' :: inner), behind, rfl, rfl, .group hflat hinner⟩
  | case4 rest ih =>
      obtain ⟨m, hm, rfl⟩ := Option.map_eq_some_iff.mp h
      obtain ⟨inner, behind, rfl, rfl, hinner⟩ := ih hm
      exact ⟨')' :: inner, behind, rfl, rfl, [], inner, rfl, .nil, hinner⟩
  | case5 deep rest hdeep =>
      obtain rfl := Bool.eq_false_iff.mpr hdeep
      obtain rfl := Option.some.inj h
      exact ⟨[], rest, rfl, rfl, .nil⟩
  | case6 deep c rest hopen hclose ih =>
      obtain ⟨m, hm, rfl⟩ := Option.map_eq_some_iff.mp h
      obtain ⟨inner, behind, rfl, rfl, hinner⟩ := ih hm
      refine ⟨c :: inner, behind, rfl, rfl, ?_⟩
      cases deep with
      | false => exact .char hopen hclose hinner
      | true =>
          obtain ⟨flat, inner, rfl, hflat, hinner⟩ := hinner
          exact ⟨c :: flat, inner, rfl, .char hopen hclose hflat, hinner⟩

theorem exists_argument (h : argumentLength? s = some n) :
    ∃ argument rest, s = argument ++ ')' :: rest ∧ n = argument.length + 1 ∧
      Argument argument := by
  fun_induction argumentLength? s generalizing n with
  | case1 | case4 | case6 => cases h
  | case2 rest =>
      obtain rfl := Option.some.inj h
      exact ⟨[], rest, rfl, rfl, .nil⟩
  | case3 rest k hinner hclose ih =>
      obtain ⟨m, hm, rfl⟩ := Option.map_eq_some_iff.mp h
      obtain ⟨inner, behind, rfl, rfl, hnests⟩ := exists_closesGroup hinner
      rw [drop_append_cons_length] at ih hm
      obtain ⟨argument, more, rfl, rfl, hargument⟩ := ih hm
      refine ⟨'(' :: (inner ++ ')' :: argument), more, by simp, ?_, .group hnests hargument⟩
      simp only [List.length_cons, List.length_append]
      omega
  | case5 c rest hclose hopen hquote k hstring ih =>
      obtain ⟨m, hm, rfl⟩ := Option.map_eq_some_iff.mp h
      obtain ⟨inner, behind, rfl, rfl, hquoted⟩ := exists_quoted hstring
      rw [drop_append_cons_length] at ih hm
      obtain ⟨argument, more, rfl, rfl, hargument⟩ := ih hm
      refine ⟨c :: (inner ++ c :: argument), more, by simp, ?_, .string hquote hquoted hargument⟩
      simp only [List.length_cons, List.length_append]
      omega
  | case7 c rest hclose hopen hquote ih =>
      obtain ⟨m, hm, rfl⟩ := Option.map_eq_some_iff.mp h
      obtain ⟨argument, more, rfl, rfl, hargument⟩ := ih hm
      exact ⟨c :: argument, more, rfl, rfl, .char ⟨hopen, hclose⟩ (not_or.mp hquote) hargument⟩

/-- A pseudo takes a text in parentheses for its argument exactly if it is one. -/
theorem argumentLength?_eq_some_iff (argument rest : Text) :
    argumentLength? (argument ++ ')' :: rest) = some (argument.length + 1) ↔
      Argument argument := by
  refine ⟨fun h => ?_, fun h => argumentLength?_of_argument h rest⟩
  obtain ⟨found, more, happend, hlength, hfound⟩ := exists_argument h
  obtain ⟨rfl, -⟩ := List.append_inj happend (Nat.succ.inj hlength)
  exact hfound

/-! ## A compound with a pseudo behind it -/

/-- A pseudo with an argument. -/
def call (name argument : Text) : Text := ':' :: (name ++ '(' :: (argument ++ [')']))

theorem length_call (name argument : Text) :
    (call name argument).length = name.length + (argument.length + 2) + 1 := by
  simp [call]

/-- The whole of such a pseudo is one token. -/
theorem pseudoLength?_call (hne : name ≠ []) (hname : nameLength name = name.length)
    (hargument : Argument argument) :
    pseudoLength? (call name argument) = some (call name argument).length := by
  have hcall : callLength ('(' :: (argument ++ [')'])) = argument.length + 2 := by
    rw [callLength, argumentLength?_of_argument hargument]
  have hend : nameLength (name ++ []) = name.length := by rwa [List.append_nil]
  obtain ⟨-, hall⟩ := nameLength_append hend
  have hwhole : nameLength (name ++ '(' :: (argument ++ [')'])) = name.length := by
    rw [hall, nameLength_cons_eq_zero (by decide) (by decide), Nat.add_zero]
  have hcolon : ¬ (name ++ '(' :: (argument ++ [')'])).head? = some ':' := by
    obtain ⟨d, tail, rfl⟩ := List.exists_cons_of_ne_nil hne
    rintro hd
    obtain rfl : d = ':' := Option.some.inj hd
    rw [nameLength_cons_eq_zero (by decide) (by decide)] at hname
    cases hname
  rw [length_call, call, pseudoLength?_cons, if_neg hcolon, calledLength?, hwhole,
    if_neg (by simpa using hne), List.drop_left, hcall]
  rfl

/-- What holds of a colon and of the first character holds of it with a colon at the end. -/
theorem head_append_colon {P : Char → Prop} (hcolon : P ':') (hhead : ∀ c ∈ rest.head?, P c) :
    ∀ c ∈ (rest ++ ':' :: more).head?, P c := by
  cases rest with
  | nil => simpa using hcolon
  | cons c rest => simpa using hhead

/-- A simple selector keeps its length if a pseudo follows the text behind it. -/
theorem length?_append_colon {kind : TokenKind} (htarget : kind.isTarget = true)
    (hcomma : kind ≠ .comma) (h : kind.length? (piece ++ rest) = some piece.length)
    (hrest : Tokenizable rest) (more : Text) :
    kind.length? (piece ++ (rest ++ ':' :: more)) = some piece.length := by
  have hname (hend : nameLength rest = 0) : nameLength (rest ++ ':' :: more) = 0 :=
    nameLength_eq_zero (head_append_colon (by decide) (head_of_nameLength_eq_zero hrest hend))
  cases kind with
  | comma => exact absurd rfl hcomma
  | typeName => exact typeLength?_replace_of_head h hrest hname (head_append_colon (by decide))
  | condition => exact selfDelimiting_conditionLength?.replace h _
  | className => exact classLength?_replace h hname
  | identifier => exact identifierLength?_replace h hname
  | nesting =>
      obtain ⟨c, tail, rfl⟩ := TokenKind.exists_cons .nesting h
      exact h
  | combinator | pseudo | comment => cases htarget

/-- Simple selectors and the pseudo behind them are cut apart. -/
theorem Lexes.append_pseudo {atStart : Bool} (h : Lexes atStart s parts)
    (hparts : ∀ part ∈ parts, part.kind.isTarget = true ∧ part.kind ≠ .comma)
    (hpseudo : pseudoLength? (':' :: more) = some (':' :: more).length) :
    Lexes atStart (s ++ ':' :: more) (parts ++ [⟨.pseudo, ':' :: more⟩]) := by
  induction h with
  | done =>
      have hnext : nextToken? false ((':' :: more) ++ []) =
          some (.pseudo, (':' :: more).length) := by
        rw [List.append_nil]
        exact nextToken?_eq_some_iff.mpr ⟨hpseudo, nofun, nofun⟩
      simpa using Lexes.cons ⟨.pseudo, ':' :: more⟩ hnext .done
  | @token atStart s kind n found hne hnext hrest ih =>
      obtain ⟨hlength, hcomma, -⟩ := nextToken?_eq_some_iff.mp hnext
      obtain ⟨hpart, hfound⟩ := List.forall_mem_cons.mp hparts
      have htaken : (s.take n).length = n := List.length_take_of_le (TokenKind.length?_le hlength)
      have hpiece : kind.length? (s.take n ++ s.drop n) = some (s.take n).length := by
        rwa [List.take_append_drop, htaken]
      have hkept := length?_append_colon hpart.1 hpart.2 hpiece hrest.tokenizable more
      have hcut := Lexes.cons ⟨kind, s.take n⟩
        (nextToken?_eq_some_iff.mpr ⟨hkept, hcomma, fun hkind => ?_⟩) (ih hfound)
      · rwa [← List.append_assoc, List.take_append_drop] at hcut
      · obtain rfl : kind = .combinator := hkind
        cases hpart.1

/-- No blanks stand before a simple selector. -/
theorem leading_eq_nil_of_target {part : Token} (h : Lexes true s (part :: parts))
    (htarget : part.kind.isTarget = true) (hcomma : part.kind ≠ .comma) : leading s = [] := by
  cases h with
  | token hne hnext _ =>
      obtain ⟨hlength, -, -⟩ := nextToken?_eq_some_iff.mp hnext
      refine Text.leading_eq_nil_iff.mpr fun c hc => ?_
      obtain ⟨tail, rfl⟩ := List.head?_eq_some_iff.mp hc
      refine Bool.eq_false_iff.mpr fun hblank => ?_
      have hcombinator : kindOf? c = some .combinator := by simp [kindOf?, hblank]
      rcases kindOf?_of_length? hlength with hkind | ⟨hkind, -⟩
      · obtain rfl := Option.some.inj (hcombinator.symm.trans hkind)
        cases htarget
      · exact hcomma hkind

/-- The condition is put between a compound and the pseudo behind it, if it is not there. -/
theorem render_scopeParts_append (scope : Text) (pseudo : Token)
    (hpseudo : pseudo.kind.isTarget = false)
    (hparts : ∀ part ∈ parts, part.kind.isTarget = true) (hne : parts ≠ []) :
    render (scopeParts scope (parts ++ [pseudo])) =
      if parts.getLast? = some (scopeToken scope) then render parts ++ pseudo.text
      else render parts ++ (scopeToken scope).text ++ pseudo.text := by
  obtain ⟨before, target, rfl⟩ := (List.eq_nil_or_concat' parts).resolve_left hne
  have htarget := hparts target (List.mem_append_right _ List.mem_cons_self)
  rw [List.append_assoc, List.singleton_append, scopeParts_of_target htarget (by simp [hpseudo]),
    List.getLast?_concat]
  by_cases hscoped : target = scopeToken scope
  · rw [if_pos hscoped, if_pos (congrArg some hscoped)]
    simp [render]
  · rw [if_neg hscoped, if_neg fun h => hscoped (Option.some.inj h)]
    simp [render]

section Compound

variable (hc : SelectorList.parse c = .ok ⟨parts, []⟩)
  (hparts : ∀ part ∈ parts, part.kind.isTarget = true)

include hc

theorem lexes_of_parse_single : Lexes true c parts := by
  simpa [SelectorList.toTokens] using SelectorList.lexes_toTokens_of_parse hc

theorem kind_ne_comma_of_parse_single : ∀ part ∈ parts, part.kind ≠ .comma := fun _ hpart =>
  SelectorList.kind_ne_comma_of_parse hc List.mem_cons_self hpart

include hparts

/-- A compound with a pseudo behind it is read as its parts and the pseudo. -/
theorem parse_append_call (hne : name ≠ []) (hname : nameLength name = name.length)
    (hargument : Argument argument) :
    SelectorList.parse (c ++ call name argument) =
      .ok ⟨parts ++ [⟨.pseudo, call name argument⟩], []⟩ := by
  have hcommas := kind_ne_comma_of_parse_single hc
  have hlexes := (lexes_of_parse_single hc).append_pseudo
    (fun part hpart => ⟨hparts part hpart, hcommas part hpart⟩)
    (pseudoLength?_call hne hname hargument)
  have hgrouped := SelectorList.ofTokens_append hcommas [⟨.pseudo, call name argument⟩]
  rw [call, SelectorList.parse, tokens, tokensFrom_of_lexes hlexes]
  exact congrArg Except.ok hgrouped

/-- Nothing is trimmed off such a selector. -/
theorem trim_append_call (name argument : Text) :
    let selector := c ++ call name argument
    leading selector = [] ∧ trailing selector = [] ∧ Text.trim selector = selector := by
  intro selector
  have hlexes := lexes_of_parse_single hc
  obtain ⟨d, tail, rfl⟩ := List.exists_cons_of_ne_nil hlexes.ne_nil
  obtain ⟨part, more, rfl⟩ : ∃ part more, parts = part :: more := by
    cases hlexes with
    | token => exact ⟨_, _, rfl⟩
  have hleading : leading selector = [] := by
    have hstart := leading_eq_nil_of_target hlexes (hparts part List.mem_cons_self)
      (kind_ne_comma_of_parse_single hc part List.mem_cons_self)
    rw [Text.leading_eq_nil_iff] at hstart ⊢
    exact hstart
  have htrailing : trailing selector = [] := by
    have hend : selector = (d :: tail ++ ':' :: (name ++ '(' :: argument)) ++ [')'] := by
      simp [selector, call]
    rw [hend, Text.trailing_eq_nil_iff, List.getLast?_concat]
    exact fun e he => Option.some.inj he ▸ rfl
  refine ⟨hleading, htrailing, ?_⟩
  rw [Text.trim, Text.trimStart_eq_self hleading, Text.trimEnd_eq_self htrailing]

/-- Whatever argument a pseudo has, it is kept as it is behind the scope condition of the
compound in front of it, and a compound that ends in this condition gets no other one. -/
theorem scopeSelector_call (hne : name ≠ []) (hname : nameLength name = name.length)
    (hargument : Argument argument) :
    scopeSelector scope (c ++ call name argument) =
      .ok (if parts.getLast? = some (scopeToken scope) then c ++ call name argument
        else c ++ '[' :: (scope ++ [']']) ++ call name argument) := by
  obtain ⟨hleading, htrailing, htrim⟩ := trim_append_call hc hparts name argument
  have hlexes := lexes_of_parse_single hc
  have hpresent : parts ≠ [] := by
    rintro rfl
    cases hlexes
  have hscoped := render_scopeParts_append scope ⟨.pseudo, call name argument⟩ rfl hparts hpresent
  have hstripped : (c ++ call name argument).isEmpty = false := by simp [call]
  rw [hlexes.render_eq] at hscoped
  rw [scopeSelector, htrim, hleading, htrailing, hstripped,
    parse_append_call hc hparts hne hname hargument]
  simpa [SelectorList.scope, scopeToken] using hscoped

end Compound

/-- A compound with an escape and a string in a condition, and an argument with a string and
parentheses two deep. -/
theorem scopeSelector_call_of_nested :
    let c := "*|a.\\(b#c[d=\")\"]".toList
    let argument := ":is(e(f), g), \"(\"".toList
    ∃ parts, SelectorList.parse c = .ok ⟨parts, []⟩ ∧ Argument argument ∧
      scopeSelector ['v'] (c ++ call "not".toList argument) =
        .ok (c ++ "[v]".toList ++ call "not".toList argument) := by
  intro c argument
  have hc : SelectorList.parse c = .ok
      ⟨[⟨.typeName, "*|a".toList⟩, ⟨.className, ".\\(b".toList⟩, ⟨.identifier, "#c".toList⟩,
        ⟨.condition, "[d=\")\"]".toList⟩], []⟩ := by
    decide +kernel
  have hargument : Argument argument :=
    (argumentLength?_eq_some_iff argument []).mp (by decide +kernel)
  exact ⟨_, hc, hargument, scopeSelector_call hc (by decide) (by decide) (by decide) hargument⟩

/-- A compound that ends in the scope condition is scoped already. -/
theorem scopeSelector_call_of_scoped :
    let c := ".a[v]".toList
    SelectorList.parse c = .ok ⟨[⟨.className, ".a".toList⟩, ⟨.condition, "[v]".toList⟩], []⟩ ∧
      Argument ['b'] ∧
      scopeSelector ['v'] (c ++ call "not".toList ['b']) = .ok ".a[v]:not(b)".toList ∧
      scopeSelector ['v'] (c ++ call "not".toList ['b']) ≠
        .ok (c ++ "[v]".toList ++ call "not".toList ['b']) := by
  intro c
  have hargument : Argument ['b'] := .char (by decide) (by decide) .nil
  refine ⟨?_, hargument, ?_, ?_⟩ <;> decide +kernel

end ComponentCompiler.Selector
