import Mathlib.Data.List.Induction
import ComponentCompiler.Proofs.Component.ModuleText
import ComponentCompiler.Proofs.Text.LiteralStart

/-!
# The sources in the emitted module

The statements that attach templates come last in a module, and each of them can
be cut off from the end, whatever stands before it.  With the styles read from
the front this leaves the scripts.  So a module of which it is known how many
styles and templates it has, and whether it has scripts, keeps every source
apart from the others, whatever characters they are made of.
-/

namespace ComponentCompiler.Module

variable {a b x y : String} {p q : List String}

/-! ## Cutting templates off -/

/-- The statement that attaches a template, up to the blank before its literal. -/
def assignment : String :=
  ";(typeof module.exports === \"function\"? module.exports.options: module.exports).template = "

theorem assignTemplate_eq (template : String) :
    assignTemplate template = assignment ++ template ++ "\n" := rfl

theorem exists_toList_assignment : ∃ front, assignment.toList = front ++ [' '] :=
  ⟨assignment.toList.dropLast, by decide⟩

/-- What the emitted statement can attach: a literal, or null for a template that is
missing. -/
def IsAttached (template : String) : Prop :=
  (∃ source, template = literal source) ∨ template = "null"

theorem isAttached_of_mem_templates {parts : List Part} {template : String}
    (hmem : template ∈ parts.filterMap Part.template?) : IsAttached template := by
  obtain ⟨part, -, hpart⟩ := List.mem_filterMap.mp hmem
  cases part with
  | block block =>
      rw [Part.template?] at hpart
      split at hpart
      · exact Or.inl ⟨block.source, (Option.some.inj hpart).symm⟩
      · simp at hpart
  | missingTemplate => exact Or.inr (Option.some.inj hpart).symm

theorem literal_injective (h : literal a = literal b) : a = b := by
  have hsame : literal a ++ "" = literal b ++ "" := by rw [h]
  exact (literal_append_injective hsame).1

theorem append_literal_ne_append_null : x ++ literal a ≠ y ++ "null" := by
  intro h
  have hlast := congrArg (fun s => s.toList.getLast?) h
  simp [literal, Text.Quoted.encode, List.getLast?_cons] at hlast

theorem append_assignment_append_literal_injective
    (h : x ++ assignment ++ literal a = y ++ assignment ++ literal b) : x = y ∧ a = b := by
  obtain ⟨front, hfront⟩ := exists_toList_assignment
  have htext : (x.toList ++ front) ++ ' ' :: Text.Quoted.encode a.toList =
      (y.toList ++ front) ++ ' ' :: Text.Quoted.encode b.toList := by
    simpa [literal, hfront] using congrArg String.toList h
  obtain ⟨hbefore, hsource⟩ :=
    Text.Quoted.append_encode_injective (by decide) (by decide) htext
  exact ⟨String.toList_inj.mp (List.append_cancel_right hbefore), String.toList_inj.mp hsource⟩

/-- A statement that attaches a template can be cut off the end of a text. -/
theorem append_assignTemplate_injective (ha : IsAttached a) (hb : IsAttached b)
    (h : x ++ assignTemplate a = y ++ assignTemplate b) : x = y ∧ a = b := by
  have hattached : x ++ assignment ++ a = y ++ assignment ++ b := by
    rw [assignTemplate_eq, assignTemplate_eq] at h
    simpa only [← String.append_assoc, String.append_left_inj] using h
  rcases ha with ⟨s, rfl⟩ | rfl <;> rcases hb with ⟨t, rfl⟩ | rfl
  · obtain ⟨rfl, rfl⟩ := append_assignment_append_literal_injective hattached
    exact ⟨rfl, rfl⟩
  · exact absurd hattached append_literal_ne_append_null
  · exact absurd hattached.symm append_literal_ne_append_null
  · simpa [String.append_left_inj] using hattached

/-- The statements that attach templates can be cut off the end of a text one after the
other. -/
theorem append_assignTemplates_injective (hp : ∀ t ∈ p, IsAttached t)
    (hq : ∀ t ∈ q, IsAttached t) (hlength : p.length = q.length)
    (h : x ++ String.join (p.map assignTemplate) = y ++ String.join (q.map assignTemplate)) :
    x = y ∧ p = q := by
  induction p using List.reverseRecOn generalizing q with
  | nil =>
      obtain rfl := List.eq_nil_of_length_eq_zero hlength.symm
      exact ⟨by simpa using h, rfl⟩
  | append_singleton p last ih =>
      obtain rfl | ⟨q, other, rfl⟩ := List.eq_nil_or_concat q
      · simp at hlength
      · rw [List.concat_eq_append] at *
        have hcut : x ++ String.join (p.map assignTemplate) ++ assignTemplate last =
            y ++ String.join (q.map assignTemplate) ++ assignTemplate other := by
          simpa [String.append_assoc] using h
        obtain ⟨hrest, rfl⟩ := append_assignTemplate_injective (hp last (by simp))
          (hq other (by simp)) hcut
        obtain ⟨rfl, rfl⟩ := ih (fun t ht => hp t (List.mem_append_left _ ht))
          (fun t ht => hq t (List.mem_append_left _ ht)) (by simpa using hlength) hrest
        exact ⟨rfl, rfl⟩

/-! ## Reading a module -/

/-- What follows the styles in a module determines the text of the scripts and the
templates. -/
theorem assembleRest_injective {scripts others : List String} (hp : ∀ t ∈ p, IsAttached t)
    (hq : ∀ t ∈ q, IsAttached t) (hlength : p.length = q.length)
    (hscripts : scripts = [] ↔ others = [])
    (h : assembleRest scripts p = assembleRest others q) :
    "\n".intercalate scripts = "\n".intercalate others ∧ p = q := by
  obtain ⟨hbody, rfl⟩ := append_assignTemplates_injective hp hq hlength h
  refine ⟨?_, rfl⟩
  cases scripts with
  | nil => rw [hscripts.mp rfl]
  | cons script more =>
      cases others with
      | nil => simp at hscripts
      | cons other rest => simpa [String.append_left_inj] using hbody

/-- The sources of the blocks of one kind. -/
def sourcesOf (kind : BlockKind) (blocks : List CompiledBlock) : List String :=
  (blocks.filter (·.kind = kind)).map (·.source)

theorem filterMap_source?_map_block (kind : BlockKind) (blocks : List CompiledBlock) :
    (blocks.map Part.block).filterMap (Part.source? kind) = sourcesOf kind blocks := by
  induction blocks with
  | nil => rfl
  | cons block rest ih =>
      rw [sourcesOf] at ih ⊢
      by_cases hkind : block.kind = kind <;> simp [Part.source?, hkind, ih]

theorem filterMap_template?_map_block (blocks : List CompiledBlock) :
    (blocks.map Part.block).filterMap Part.template? =
      (sourcesOf .template blocks).map literal := by
  induction blocks with
  | nil => rfl
  | cons block rest ih =>
      rw [sourcesOf] at ih ⊢
      by_cases hkind : block.kind = .template <;> simp [Part.template?, hkind, ih]

/-- Two modules with the same number of styles, the same number of templates and both
with or both without scripts are equal only if their styles, the text of their scripts
and their templates are. -/
theorem sources_eq_of_merge_eq {p q : List CompiledBlock}
    (hstyles : (sourcesOf .style p).length = (sourcesOf .style q).length)
    (htemplates : (sourcesOf .template p).length = (sourcesOf .template q).length)
    (hscripts : sourcesOf .script p = [] ↔ sourcesOf .script q = [])
    (hmerge : merge p = merge q) :
    sourcesOf .style p = sourcesOf .style q ∧
      "\n".intercalate (sourcesOf .script p) = "\n".intercalate (sourcesOf .script q) ∧
      sourcesOf .template p = sourcesOf .template q := by
  rw [merge, merge, assemble_eq, assemble_eq] at hmerge
  simp only [filterMap_source?_map_block] at hmerge
  obtain ⟨hstyle, hrest⟩ := insertStyles_append_injective hstyles hmerge
  have hlength : ((p.map Part.block).filterMap Part.template?).length =
      ((q.map Part.block).filterMap Part.template?).length := by
    rw [filterMap_template?_map_block, filterMap_template?_map_block, List.length_map,
      List.length_map]
    exact htemplates
  obtain ⟨hscript, htemplate⟩ := assembleRest_injective
    (fun _ => isAttached_of_mem_templates) (fun _ => isAttached_of_mem_templates)
    hlength hscripts hrest
  rw [filterMap_template?_map_block, filterMap_template?_map_block] at htemplate
  exact ⟨hstyle, hscript, List.map_injective_iff.mpr (fun _ _ => literal_injective) htemplate⟩

/-- The blocks stand in different orders, and the script of one module is two scripts of
the other and looks like a template statement with a literal. -/
theorem sources_eq_of_merge_eq_of_divided :
    let css := "a::before \x7b content: \"\\\\\" \x7d\n"
    let p : List CompiledBlock :=
      [⟨.template, "<p title=\"x\">"⟩, ⟨.script, ";x.template = \n\"y\\\""⟩, ⟨.style, css⟩]
    let q : List CompiledBlock :=
      [⟨.script, ";x.template = "⟩, ⟨.style, css⟩, ⟨.script, "\"y\\\""⟩,
        ⟨.template, "<p title=\"x\">"⟩]
    p ≠ q ∧ merge p = merge q ∧
      sourcesOf .style p = sourcesOf .style q ∧
      "\n".intercalate (sourcesOf .script p) = "\n".intercalate (sourcesOf .script q) ∧
      sourcesOf .template p = sourcesOf .template q := by
  intro css p q
  have hmerge : merge p = merge q := by decide +kernel
  have hscripts : sourcesOf .script p = [] ↔ sourcesOf .script q = [] := by decide
  exact ⟨by decide, hmerge, sources_eq_of_merge_eq rfl rfl hscripts hmerge⟩

end ComponentCompiler.Module
