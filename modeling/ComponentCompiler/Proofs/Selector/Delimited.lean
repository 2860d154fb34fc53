import ComponentCompiler.Proofs.Text.SelfDelimiting
import ComponentCompiler.Selector.Token

/-!
# Tokens with a closing delimiter

Strings, attribute conditions, arguments and comments show their own end: their
length does not depend on what follows.
-/

namespace ComponentCompiler.Selector

open Text (apostrophe SelfDelimiting)

theorem stringLength?_cons {quote c : Char} (hescape : c ≠ '\\') (rest : Text) :
    stringLength? quote (c :: rest) =
      if c = quote then some 1 else (stringLength? quote rest).map (· + 1) := by
  rw [stringLength?]
  · exact fun _ _ hc => absurd hc hescape
  · exact fun hc => absurd hc hescape

/-- A character is no backslash if it is neither one with a character behind it nor
one at the end. -/
theorem ne_backslash {c : Char} {rest : Text}
    (hescape : ∀ (d : Char) (tail : Text), c = '\\' → rest = d :: tail → False)
    (hend : c = '\\' → rest = [] → False) : c ≠ '\\' := by
  intro hc
  cases rest with
  | nil => exact hend hc rfl
  | cons d tail => exact hescape d tail hc rfl

theorem selfDelimiting_stringLength? (quote : Char) :
    SelfDelimiting (stringLength? quote) := by
  intro s n h
  fun_induction stringLength? quote s generalizing n with
  | case1 | case3 | case6 => simp at h
  | case2 c rest hc ih =>
      obtain ⟨m, hm, rfl⟩ := Option.map_eq_some_iff.mp h
      refine (ih hm).prepend ['\\', c] fun rest' => ?_
      simp [stringLength?, hc]
  | case4 rest hescape hend =>
      obtain rfl := Option.some.inj h
      refine ⟨[quote], rest, rfl, rfl, fun rest' => ?_⟩
      simp [stringLength?_cons (ne_backslash hescape hend)]
  | case5 c rest hescape hend hc ih =>
      obtain ⟨m, hm, rfl⟩ := Option.map_eq_some_iff.mp h
      refine (ih hm).prepend [c] fun rest' => ?_
      simp [stringLength?_cons (ne_backslash hescape hend), hc]

theorem bracketLength?_cons {c : Char} (hescape : c ≠ '\\') (rest : Text) :
    bracketLength? (c :: rest) =
      if c = ']' then some 1
      else if c = '"' ∨ c = apostrophe then
        match stringLength? c rest with
        | some n => (bracketLength? (rest.drop n)).map (· + (n + 1))
        | none => none
      else (bracketLength? rest).map (· + 1) := by
  rewrite [bracketLength?]
  · rfl
  · exact fun _ _ hc => absurd hc hescape
  · exact fun hc => absurd hc hescape

theorem selfDelimiting_bracketLength? : SelfDelimiting bracketLength? := by
  intro s n h
  fun_induction bracketLength? s generalizing n with
  | case1 | case2 | case4 | case7 => simp at h
  | case3 c rest hc ih =>
      obtain ⟨m, hm, rfl⟩ := Option.map_eq_some_iff.mp h
      refine (ih hm).prepend ['\\', c] fun rest' => ?_
      simp [bracketLength?, hc]
  | case5 rest =>
      obtain rfl := Option.some.inj h
      refine ⟨[']'], rest, rfl, rfl, fun rest' => ?_⟩
      simp [bracketLength?_cons]
  | case6 c rest hescape hend hclose hquote k hstring ih =>
      obtain ⟨m, hm, rfl⟩ := Option.map_eq_some_iff.mp h
      obtain ⟨string, rest, rfl, rfl, hall⟩ := selfDelimiting_stringLength? c hstring
      rw [List.drop_left] at ih hm
      refine (ih hm).prepend (c :: string) fun rest' => ?_
      simp [bracketLength?_cons (ne_backslash hescape hend), hclose, hquote, hall]
  | case8 c rest hescape hend hclose hquote ih =>
      obtain ⟨m, hm, rfl⟩ := Option.map_eq_some_iff.mp h
      refine (ih hm).prepend [c] fun rest' => ?_
      simp [bracketLength?_cons (ne_backslash hescape hend), hclose, hquote]

theorem selfDelimiting_innerLength? (deep : Bool) : SelfDelimiting (innerLength? deep) := by
  intro s n h
  fun_induction innerLength? deep s generalizing n with
  | case1 | case2 => simp at h
  | case3 deep rest hdeep ih =>
      obtain ⟨m, hm, rfl⟩ := Option.map_eq_some_iff.mp h
      refine (ih hm).prepend ['('] fun rest' => ?_
      simp [innerLength?, hdeep]
  | case4 rest ih =>
      obtain ⟨m, hm, rfl⟩ := Option.map_eq_some_iff.mp h
      refine (ih hm).prepend [')'] fun rest' => ?_
      simp [innerLength?]
  | case5 deep rest hdeep =>
      obtain rfl := Option.some.inj h
      refine ⟨[')'], rest, rfl, rfl, fun rest' => ?_⟩
      simp [innerLength?, hdeep]
  | case6 deep c rest hopen hclose ih =>
      obtain ⟨m, hm, rfl⟩ := Option.map_eq_some_iff.mp h
      refine (ih hm).prepend [c] fun rest' => ?_
      exact innerLength?.eq_4 deep c rest' hopen hclose

theorem selfDelimiting_argumentLength? : SelfDelimiting argumentLength? := by
  intro s n h
  fun_induction argumentLength? s generalizing n with
  | case1 | case4 | case6 => simp at h
  | case2 rest =>
      obtain rfl := Option.some.inj h
      refine ⟨[')'], rest, rfl, rfl, fun rest' => ?_⟩
      simp [argumentLength?]
  | case3 rest k hinner hclose ih =>
      obtain ⟨m, hm, rfl⟩ := Option.map_eq_some_iff.mp h
      obtain ⟨inner, rest, rfl, rfl, hall⟩ := selfDelimiting_innerLength? false hinner
      rw [List.drop_left] at ih hm
      refine (ih hm).prepend ('(' :: inner) fun rest' => ?_
      simp [argumentLength?, hall]
  | case5 c rest hclose hopen hquote k hstring ih =>
      obtain ⟨m, hm, rfl⟩ := Option.map_eq_some_iff.mp h
      obtain ⟨string, rest, rfl, rfl, hall⟩ := selfDelimiting_stringLength? c hstring
      rw [List.drop_left] at ih hm
      refine (ih hm).prepend (c :: string) fun rest' => ?_
      simp [argumentLength?, hclose, hopen, hquote, hall]
  | case7 c rest hclose hopen hquote ih =>
      obtain ⟨m, hm, rfl⟩ := Option.map_eq_some_iff.mp h
      refine (ih hm).prepend [c] fun rest' => ?_
      simp [argumentLength?, hclose, hopen, hquote]

theorem selfDelimiting_conditionLength? : SelfDelimiting conditionLength? := by
  intro s n h
  rw [conditionLength?.eq_def] at h
  split at h
  · obtain ⟨m, hm, rfl⟩ := Option.map_eq_some_iff.mp h
    exact (selfDelimiting_bracketLength? hm).prepend ['['] fun _ => rfl
  · simp at h

theorem selfDelimiting_commentLength? : SelfDelimiting commentLength? := by
  intro s n h
  rw [commentLength?.eq_def] at h
  split at h
  · obtain ⟨m, hm, rfl⟩ := Option.map_eq_some_iff.mp h
    exact (Text.selfDelimiting_endOfFirst? _ hm).prepend ['/', '*'] fun _ => rfl
  · simp at h

end ComponentCompiler.Selector
