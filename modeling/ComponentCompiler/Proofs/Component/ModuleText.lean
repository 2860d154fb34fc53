import Mathlib.Data.List.Forall2
import ComponentCompiler.Component.Module
import ComponentCompiler.Proofs.Text.Literal

/-!
# Reading the emitted module

The statements that insert styles come first in a module, and each carries its
source as a literal.  So their sources can be read off the module as soon as it
is known how many there are.
-/

namespace ComponentCompiler.Module

variable {css other x y : String} {p q : List String}

/-- The statements for style sources, one after the other. -/
def insertStyles (sources : List String) : String :=
  String.join (sources.map fun css => insertStyle (literal css))

/-- What comes after the styles in a module. -/
def assembleRest (scripts templates : List String) : String :=
  (if scripts.isEmpty then emptyExport else "\n".intercalate scripts ++ "\n" ++ unwrapDefault) ++
    String.join (templates.map assignTemplate)

theorem assemble_eq (parts : List Part) :
    assemble parts =
      insertStyles (parts.filterMap (Part.source? .style)) ++
        assembleRest (parts.filterMap (Part.source? .script))
          (parts.filterMap Part.template?) := by
  rw [assemble, assembleRest]
  exact String.append_assoc

theorem literal_append_injective (h : literal css ++ x = literal other ++ y) :
    css = other ∧ x = y := by
  have htext := congrArg String.toList h
  simp only [literal, String.toList_append, String.toList_ofList] at htext
  obtain ⟨hcss, hrest⟩ := Text.Quoted.encode_append_injective htext
  exact ⟨String.toList_inj.mp hcss, String.toList_inj.mp hrest⟩

theorem insertStyle_append_injective
    (h : insertStyle (literal css) ++ x = insertStyle (literal other) ++ y) :
    css = other ∧ x = y := by
  unfold insertStyle at h
  simp only [String.append_assoc, String.append_right_inj] at h
  obtain ⟨rfl, hrest⟩ := literal_append_injective h
  exact ⟨rfl, by simpa using hrest⟩

theorem insertStyles_cons (css : String) (p : List String) :
    insertStyles (css :: p) = insertStyle (literal css) ++ insertStyles p := by
  rw [insertStyles, List.map_cons, String.join_cons]
  rfl

theorem insertStyles_append_injective (hlength : p.length = q.length)
    (h : insertStyles p ++ x = insertStyles q ++ y) : p = q ∧ x = y := by
  induction p generalizing q with
  | nil =>
      obtain rfl := List.eq_nil_of_length_eq_zero hlength.symm
      exact ⟨rfl, by simpa [insertStyles] using h⟩
  | cons css p ih =>
      cases q with
      | nil => simp at hlength
      | cons other q =>
          rw [insertStyles_cons, insertStyles_cons, String.append_assoc,
            String.append_assoc] at h
          obtain ⟨rfl, hrest⟩ := insertStyle_append_injective h
          obtain ⟨rfl, htail⟩ := ih (Nat.succ.inj hlength) hrest
          exact ⟨rfl, htail⟩

/-! ## Modules that differ in their styles -/

/-- Two parts that are equal or both styles. -/
inductive Part.SameUnlessStyle : Part → Part → Prop
  | same (part : Part) : SameUnlessStyle part part
  | styles (css other : String) : SameUnlessStyle (.block ⟨.style, css⟩) (.block ⟨.style, other⟩)

theorem Part.SameUnlessStyle.styles_of_kind {a b : CompiledBlock} (ha : a.kind = .style)
    (hb : b.kind = .style) : SameUnlessStyle (.block a) (.block b) := by
  obtain ⟨_, css⟩ := a
  obtain ⟨_, other⟩ := b
  obtain rfl := ha
  obtain rfl := hb
  exact styles css other

section

variable {left right : List Part}

/-- What is not taken from styles is the same. -/
theorem filterMap_eq_of_sameUnlessStyle {α : Type} {f : Part → Option α}
    (hstyle : ∀ css, f (.block ⟨.style, css⟩) = none)
    (h : List.Forall₂ Part.SameUnlessStyle left right) :
    left.filterMap f = right.filterMap f := by
  induction h with
  | nil => rfl
  | cons hhead _ ih =>
      cases hhead with
      | same part => rw [List.filterMap_cons, List.filterMap_cons, ih]
      | styles css other =>
          rw [List.filterMap_cons_none (hstyle css), List.filterMap_cons_none (hstyle other)]
          exact ih

theorem length_styles_eq_of_sameUnlessStyle
    (h : List.Forall₂ Part.SameUnlessStyle left right) :
    (left.filterMap (Part.source? .style)).length =
      (right.filterMap (Part.source? .style)).length := by
  induction h with
  | nil => rfl
  | cons hhead _ ih =>
      cases hhead with
      | same part =>
          rw [List.filterMap_cons, List.filterMap_cons]
          split
          · exact ih
          · exact congrArg Nat.succ ih
      | styles css other => simpa [Part.source?] using ih

theorem eq_of_styles_eq (h : List.Forall₂ Part.SameUnlessStyle left right)
    (hstyles : left.filterMap (Part.source? .style) = right.filterMap (Part.source? .style)) :
    left = right := by
  induction h with
  | nil => rfl
  | cons hhead _ ih =>
      cases hhead with
      | same part =>
          rw [List.filterMap_cons, List.filterMap_cons] at hstyles
          split at hstyles
          · exact congrArg _ (ih hstyles)
          · exact congrArg _ (ih (List.cons.inj hstyles).2)
      | styles css other =>
          simp only [List.filterMap_cons, Part.source?, if_pos, List.cons.injEq] at hstyles
          obtain ⟨rfl, htail⟩ := hstyles
          exact congrArg _ (ih htail)

/-- The module of a document whose scripts and templates are known determines its
styles. -/
theorem eq_of_assemble_eq (h : List.Forall₂ Part.SameUnlessStyle left right)
    (hmodule : assemble left = assemble right) : left = right := by
  have hscripts : left.filterMap (Part.source? .script) = right.filterMap (Part.source? .script) :=
    filterMap_eq_of_sameUnlessStyle (fun _ => rfl) h
  have htemplates : left.filterMap Part.template? = right.filterMap Part.template? :=
    filterMap_eq_of_sameUnlessStyle (fun _ => rfl) h
  rw [assemble_eq, assemble_eq, hscripts, htemplates] at hmodule
  have hstyles :=
    (insertStyles_append_injective (length_styles_eq_of_sameUnlessStyle h) hmodule).1
  exact eq_of_styles_eq h hstyles

end

end ComponentCompiler.Module
