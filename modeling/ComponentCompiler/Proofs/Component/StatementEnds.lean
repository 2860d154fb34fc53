import ComponentCompiler.Proofs.Component.ModuleSources

/-!
# Where the statements for styles end

The statement that inserts a style ends with a closing parenthesis and a line
break, and has no semicolon.  A script engine ends it at the line break unless
the text that follows can be read on: as the arguments of a call, as an index or
as a template string.  What follows the last style is the text of the scripts,
which can begin with anything.
-/

namespace ComponentCompiler.Module

/-- What may count as white space: the line feed does, and no letter does. -/
structure IsBlankness (isWhite : Char → Bool) : Prop where
  lineFeed : isWhite '\n' = true
  letter : ∀ c, c.isAlpha = true → isWhite c = false

theorem isBlankness_isBlank : IsBlankness Text.isBlank where
  lineFeed := rfl
  letter c hletter := by
    have hcase : (65 ≤ c.val ∧ c.val ≤ 90) ∨ (97 ≤ c.val ∧ c.val ≤ 122) := by
      change (decide (65 ≤ c.val ∧ c.val ≤ 90) ||
        decide (97 ≤ c.val) && decide (c.val ≤ 122)) = true at hletter
      simpa using hletter
    have hrange : 65 ≤ c.toNat ∧ c.toNat ≤ 122 := by
      rcases hcase with ⟨hlow, hhigh⟩ | ⟨hlow, hhigh⟩
      · exact ⟨UInt32.le_iff_toNat_le.mp hlow,
          Nat.le_trans (UInt32.le_iff_toNat_le.mp hhigh) (by decide)⟩
      · exact ⟨Nat.le_trans (by decide) (UInt32.le_iff_toNat_le.mp hlow),
          UInt32.le_iff_toNat_le.mp hhigh⟩
    simp [Text.isBlank]
    omega

/-- The first character that is no white space. -/
def firstVisible (isWhite : Char → Bool) (s : String) : Option Char :=
  s.toList.find? fun c => !isWhite c

/-- A character that reads the statement before it on across a line break. -/
def ReadsOn (c : Char) : Prop := c = '(' ∨ c = '[' ∨ c = '\x60'

instance : DecidablePred ReadsOn := fun c =>
  inferInstanceAs (Decidable (c = '(' ∨ c = '[' ∨ c = '\x60'))

/-- The call that inserts styles, up to its closing parenthesis. -/
def insertCall (css : String) : String :=
  "var __vueify_style__ = require(\"vueify-insert-css\").insert(" ++ css ++ ")"

/-- Nothing that follows the call for a style reads it on. -/
def StylesEnd (isWhite : Char → Bool) (blocks : List CompiledBlock) : Prop :=
  ∀ before css after rest, sourcesOf .style blocks = before ++ css :: after →
    merge blocks = insertStyles before ++ (insertCall (literal css) ++ rest) →
      ∀ c ∈ firstVisible isWhite rest, ¬ ReadsOn c

section

variable {isWhite : Char → Bool} {x y css : String} {p q : List String}

theorem insertStyle_eq (css : String) : insertStyle css = insertCall css ++ "\n" := by
  have hend : ")\n" = ")" ++ "\n" := by decide
  unfold insertStyle insertCall
  rw [hend]
  exact String.append_assoc.symm

theorem insertStyles_append (p q : List String) :
    insertStyles (p ++ q) = insertStyles p ++ insertStyles q := by
  rw [insertStyles, List.map_append, String.join_append]
  rfl

/-- What follows the call for a style. -/
theorem merge_eq_of_styles {blocks : List CompiledBlock} {before after : List String}
    (hstyles : sourcesOf .style blocks = before ++ css :: after) :
    merge blocks = insertStyles before ++ (insertCall (literal css) ++
      ("\n" ++ (insertStyles after ++ assembleRest (sourcesOf .script blocks)
        ((sourcesOf .template blocks).map literal)))) := by
  rw [merge, assemble_eq, filterMap_source?_map_block, filterMap_source?_map_block,
    filterMap_template?_map_block, hstyles, insertStyles_append, insertStyles_cons,
    insertStyle_eq]
  simp only [String.append_assoc]

theorem firstVisible_append (isWhite : Char → Bool) (x y : String) :
    firstVisible isWhite (x ++ y) = (firstVisible isWhite x).or (firstVisible isWhite y) := by
  rw [firstVisible, String.toList_append, List.find?_append]
  rfl

theorem firstVisible_lineFeed (h : IsBlankness isWhite) (x : String) :
    firstVisible isWhite ("\n" ++ x) = firstVisible isWhite x := by
  rw [firstVisible_append]
  simp [firstVisible, h.lineFeed]

theorem firstVisible_letter (h : IsBlankness isWhite) {c : Char} (hc : c.isAlpha = true)
    (hx : x.toList.head? = some c) (y : String) : firstVisible isWhite (x ++ y) = some c := by
  obtain ⟨rest, hrest⟩ := List.head?_eq_some_iff.mp hx
  rw [firstVisible_append]
  simp [firstVisible, hrest, h.letter c hc]

/-- What follows the styles begins like the text of the scripts if that is not blank, and
with a letter otherwise. -/
theorem firstVisible_assembleRest (h : IsBlankness isWhite) (scripts templates : List String) :
    firstVisible isWhite (assembleRest scripts templates) =
      (firstVisible isWhite ("\n".intercalate scripts)).or
        (some (if scripts.isEmpty then 'm' else 'i')) := by
  rw [assembleRest]
  cases scripts with
  | nil => exact firstVisible_letter h (by decide) (by decide) _
  | cons script more =>
      simp only [List.isEmpty_cons, Bool.false_eq_true, if_false, String.append_assoc]
      rw [firstVisible_append, firstVisible_lineFeed h]
      rw [firstVisible_letter h (c := 'i') (by decide) (by decide)]

theorem firstVisible_insertStyles (h : IsBlankness isWhite) (css : String) (p : List String)
    (x : String) : firstVisible isWhite (insertStyles (css :: p) ++ x) = some 'v' := by
  unfold insertStyles insertStyle
  rw [List.map_cons, String.join_cons, String.append_assoc, String.append_assoc,
    String.append_assoc]
  exact firstVisible_letter h (by decide) (by decide) _

/-- The first character after the call for a style is that of the next style, or else that
of the rest of the module. -/
theorem firstVisible_after (h : IsBlankness isWhite) (p : List String) (x : String) :
    firstVisible isWhite ("\n" ++ (insertStyles p ++ x)) =
      if p.isEmpty then firstVisible isWhite x else some 'v' := by
  rw [firstVisible_lineFeed h]
  cases p with
  | nil => simp [insertStyles]
  | cons css p => exact firstVisible_insertStyles h css p x

/-- What a script engine sees behind the call for a style: the next such call, or how the
text behind the styles begins. -/
theorem firstVisible_of_merge_eq (h : IsBlankness isWhite) {blocks : List CompiledBlock}
    {before after : List String} {rest : String}
    (hstyles : sourcesOf .style blocks = before ++ css :: after)
    (hmerge : merge blocks = insertStyles before ++ (insertCall (literal css) ++ rest)) :
    firstVisible isWhite rest =
      if after.isEmpty then
        (firstVisible isWhite ("\n".intercalate (sourcesOf .script blocks))).or
          (some (if (sourcesOf .script blocks).isEmpty then 'm' else 'i'))
      else some 'v' := by
  have hrest : rest = "\n" ++ (insertStyles after ++ assembleRest
      (sourcesOf .script blocks) ((sourcesOf .template blocks).map literal)) := by
    rw [merge_eq_of_styles hstyles, String.append_right_inj, String.append_right_inj] at hmerge
    exact hmerge.symm
  rw [hrest, firstVisible_after h, firstVisible_assembleRest h]

/-- Every style is inserted by a statement of its own if and only if there is none or the
text of the scripts does not begin with a character that reads the last one on. -/
theorem stylesEnd_iff (h : IsBlankness isWhite) (blocks : List CompiledBlock) :
    StylesEnd isWhite blocks ↔ sourcesOf .style blocks = [] ∨
      ∀ c ∈ firstVisible isWhite ("\n".intercalate (sourcesOf .script blocks)),
        ¬ ReadsOn c := by
  constructor
  · intro hend
    obtain hnone | ⟨before, css, hlast⟩ := List.eq_nil_or_concat (sourcesOf .style blocks)
    · exact Or.inl hnone
    · right
      intro c hc
      have hstyles : sourcesOf .style blocks = before ++ css :: [] := by
        rw [hlast, List.concat_eq_append]
      have hmerge := merge_eq_of_styles hstyles
      apply hend before css [] _ hstyles hmerge
      rw [firstVisible_of_merge_eq h hstyles hmerge, List.isEmpty_nil, if_pos rfl,
        Option.mem_def.mp hc]
      rfl
  · intro hscripts before css after rest hstyles hmerge c hc
    rw [firstVisible_of_merge_eq h hstyles hmerge] at hc
    cases after with
    | cons next more =>
        obtain rfl : 'v' = c := by simpa using hc
        decide
    | nil =>
        rw [List.isEmpty_nil, if_pos rfl] at hc
        cases hfirst : firstVisible isWhite ("\n".intercalate (sourcesOf .script blocks)) with
        | none =>
            obtain rfl : _ = c := Option.some.inj (by simpa [hfirst] using hc)
            split <;> decide
        | some first =>
            obtain rfl : first = c := by simpa [hfirst] using hc
            apply hscripts.resolve_left (by simp [hstyles])
            exact Option.mem_def.mpr hfirst

/-- A comment, a blank script and two styles: what follows the last style begins with the
slash of the comment. -/
theorem stylesEnd_of_comment :
    let blocks : List CompiledBlock :=
      [⟨.style, ".a\x7b\x7d"⟩, ⟨.script, " \n\t"⟩, ⟨.script, "/* (c) */ (f)()"⟩, ⟨.style, "(\""⟩]
    IsBlankness Text.isBlank ∧ StylesEnd Text.isBlank blocks := by
  intro blocks
  have hfirst : firstVisible Text.isBlank ("\n".intercalate (sourcesOf .script blocks)) =
      some '/' := by decide +kernel
  refine ⟨isBlankness_isBlank, (stylesEnd_iff isBlankness_isBlank blocks).mpr (Or.inr ?_)⟩
  intro c hc
  obtain rfl : '/' = c := by simpa [hfirst] using hc
  decide

/-- A script that begins with a parenthesis makes the statement before it a call of what
inserting the style returns. -/
theorem not_stylesEnd_of_parenthesis :
    ¬ StylesEnd Text.isBlank
      [⟨.style, ".a\x7b\x7d"⟩, ⟨.script, "(function () \x7b\x7d)()"⟩] := by
  intro hend
  have hstyles :
      sourcesOf .style [⟨.style, ".a\x7b\x7d"⟩, ⟨.script, "(function () \x7b\x7d)()"⟩] =
        [] ++ ".a\x7b\x7d" :: [] := rfl
  exact hend [] _ [] _ hstyles (merge_eq_of_styles hstyles) '(' (by decide) (Or.inl rfl)

end

end ComponentCompiler.Module
