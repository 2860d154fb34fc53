import ComponentCompiler.Proofs.Component.ModuleSources
import ComponentCompiler.Proofs.Text.StringLiteral

/-!
# Literals in the emitted module

A module begins with the statements that insert styles and ends with those that attach
templates.  Each of them carries its source as a string literal between two fixed texts.  So
the statements can be read off one after the other, each with its source as the value of its
literal, unless a source has a line terminator that its literal shows as it is.
-/

namespace ComponentCompiler.Module

open Script (codeUnits separators StringLiteral lineTerminators)
open Text.Quoted (encode)

variable {before after rest rest' : Text} {sources : List String} {values : List (List Nat)}
  {blocks : List CompiledBlock}

/-- The value of a literal for a text. -/
def valueOf (s : String) : List Nat := s.toList.flatMap codeUnits

/-- Whether a text has none of the characters that end a line of a script but have no short
escape. -/
def HasNoSeparator (s : String) : Prop := ∀ c ∈ s.toList, c ∉ separators

instance (s : String) : Decidable (HasNoSeparator s) :=
  List.decidableBAll (· ∉ separators) s.toList

theorem toList_literal (s : String) : (literal s).toList = encode s.toList := by
  rw [literal, String.toList_ofList]

/-- A text that begins with statements, each of which is a literal between two texts: the
values of the literals, and the text behind the statements. -/
inductive Carries (before after : Text) : Text → List (List Nat) → Text → Prop
  | none {rest : Text} : Carries before after rest [] rest
  | statement {s more rest : Text} {value : List Nat} {values : List (List Nat)}
      (hliteral : StringLiteral s value (after ++ more))
      (hmore : Carries before after more values rest) :
      Carries before after (before ++ s) (value :: values) rest

/-- The statements for some sources. -/
def carriers (before after : Text) (sources : List String) : Text :=
  sources.flatMap fun source => before ++ encode source.toList ++ after

/-- Statements are read with as many values as there are sources just if no source has a
separator, and the values are the sources. -/
theorem carries_carriers_iff (hlength : values.length = sources.length) :
    Carries before after (carriers before after sources ++ rest) values rest' ↔
      (∀ source ∈ sources, HasNoSeparator source) ∧ values = sources.map valueOf ∧
        rest' = rest := by
  induction sources generalizing values with
  | nil =>
      obtain rfl := List.eq_nil_of_length_eq_zero hlength
      constructor
      · intro h
        cases h
        exact ⟨by simp, rfl, rfl⟩
      · rintro ⟨-, -, rfl⟩
        exact .none
  | cons source sources ih =>
      obtain ⟨value, values, rfl⟩ := List.exists_cons_of_length_eq_add_one hlength
      have htext : carriers before after (source :: sources) ++ rest =
          before ++ (encode source.toList ++
            (after ++ (carriers before after sources ++ rest))) := by
        simp only [carriers, List.flatMap_cons, List.append_assoc]
      rw [htext, List.forall_mem_cons, List.map_cons, List.cons.injEq]
      constructor
      · intro h
        generalize hs : before ++ (encode source.toList ++
          (after ++ (carriers before after sources ++ rest))) = s at h
        cases h with
        | statement hliteral hmore =>
            rw [← List.append_cancel_left hs, Script.stringLiteral_encode_iff] at hliteral
            obtain ⟨hsource, rfl, hrest⟩ := hliteral
            rw [List.append_cancel_left hrest] at hmore
            obtain ⟨hsources, rfl, rfl⟩ := (ih (Nat.succ.inj hlength)).mp hmore
            exact ⟨⟨hsource, hsources⟩, ⟨rfl, rfl⟩, rfl⟩
      · rintro ⟨⟨hsource, hsources⟩, ⟨rfl, rfl⟩, rfl⟩
        exact .statement (Script.stringLiteral_encode_iff.mpr ⟨hsource, rfl, rfl⟩)
          ((ih (Nat.succ.inj hlength)).mpr ⟨hsources, rfl, rfl⟩)

/-! ## The statements of a module -/

/-- The statement that inserts a style, up to its literal. -/
def insertion : String := "var __vueify_style__ = require(\"vueify-insert-css\").insert("

theorem insertStyle_eq_insertion (css : String) : insertStyle css = insertion ++ css ++ ")\n" := rfl

theorem toList_insertStyles (sources : List String) :
    (insertStyles sources).toList = carriers insertion.toList ")\n".toList sources := by
  rw [insertStyles, String.toList_join, List.flatMap_map, carriers]
  simp only [insertStyle_eq_insertion, String.toList_append, toList_literal]

theorem toList_assignTemplates (sources : List String) :
    (String.join ((sources.map literal).map assignTemplate)).toList =
      carriers assignment.toList "\n".toList sources := by
  rw [String.toList_join, List.flatMap_map, List.flatMap_map, carriers]
  simp only [assignTemplate_eq, String.toList_append, toList_literal]

/-- What a module has between its styles and its templates. -/
def scriptText (scripts : List String) : Text := (assembleRest scripts []).toList

theorem toList_assembleRest (scripts templates : List String) :
    (assembleRest scripts templates).toList =
      scriptText scripts ++ (String.join (templates.map assignTemplate)).toList := by
  simp only [scriptText, assembleRest, String.toList_append, List.map_nil, String.join_nil,
    String.toList_empty, List.append_nil]

theorem toList_merge (blocks : List CompiledBlock) :
    (merge blocks).toList =
      carriers insertion.toList ")\n".toList (sourcesOf .style blocks) ++
        (scriptText (sourcesOf .script blocks) ++
          carriers assignment.toList "\n".toList (sourcesOf .template blocks)) := by
  rw [merge, assemble_eq, filterMap_source?_map_block, filterMap_source?_map_block,
    filterMap_template?_map_block, String.toList_append, toList_insertStyles,
    toList_assembleRest, toList_assignTemplates]

/-- Whether the statements before and behind the scripts of a module can be read, each with its
source as the value of its literal. -/
def CarriesSources (blocks : List CompiledBlock) : Prop :=
  ∃ attached : Text,
    Carries insertion.toList ")\n".toList (merge blocks).toList
        ((sourcesOf .style blocks).map valueOf)
        (scriptText (sourcesOf .script blocks) ++ attached) ∧
      Carries assignment.toList "\n".toList attached
        ((sourcesOf .template blocks).map valueOf) []

theorem carries_merge_iff :
    Carries insertion.toList ")\n".toList (merge blocks).toList
        ((sourcesOf .style blocks).map valueOf) rest ↔
      (∀ source ∈ sourcesOf .style blocks, HasNoSeparator source) ∧
        rest = scriptText (sourcesOf .script blocks) ++
          carriers assignment.toList "\n".toList (sourcesOf .template blocks) := by
  rw [toList_merge, carries_carriers_iff (List.length_map valueOf)]
  simp only [true_and]

theorem carries_templates_iff (sources : List String) :
    Carries before after (carriers before after sources) (sources.map valueOf) [] ↔
      ∀ source ∈ sources, HasNoSeparator source := by
  rw [← List.append_nil (carriers before after sources),
    carries_carriers_iff (List.length_map valueOf)]
  simp only [and_true]

theorem forall_sourcesOf_iff {P : String → Prop} (kind : BlockKind) :
    (∀ source ∈ sourcesOf kind blocks, P source) ↔
      ∀ block ∈ blocks, block.kind = kind → P block.source := by
  simp only [sourcesOf, List.forall_mem_map, List.mem_filter, decide_eq_true_eq, and_imp]

/-- A module carries its sources if those that become literals have no separators, and only
then. -/
theorem carriesSources_iff :
    CarriesSources blocks ↔
      ∀ block ∈ blocks, block.kind ≠ .script → HasNoSeparator block.source := by
  have hkinds : (∀ block ∈ blocks, block.kind ≠ .script → HasNoSeparator block.source) ↔
      (∀ source ∈ sourcesOf .style blocks, HasNoSeparator source) ∧
        ∀ source ∈ sourcesOf .template blocks, HasNoSeparator source := by
    rw [forall_sourcesOf_iff, forall_sourcesOf_iff, ← forall₂_and]
    refine forall₂_congr fun block _ => ?_
    cases block.kind <;> simp
  rw [hkinds, CarriesSources]
  simp only [carries_merge_iff, List.append_cancel_left_eq]
  constructor
  · rintro ⟨attached, ⟨hstyles, rfl⟩, htemplates⟩
    exact ⟨hstyles, (carries_templates_iff _).mp htemplates⟩
  · rintro ⟨hstyles, htemplates⟩
    exact ⟨_, ⟨hstyles, rfl⟩, (carries_templates_iff _).mpr htemplates⟩

theorem valueOf_inj {s t : String} : valueOf s = valueOf t ↔ s = t := by
  refine ⟨fun h => String.toList_inj.mp (Script.codeUnitsAll_injective h), fun h => ?_⟩
  rw [h]

/-- The literal for a text is one of the grammar, in front of any other text, just if the text
has no separator.  Its value then is the text and that of no other, and no line ends in it.  A
module carries its sources just if all its literals are such. -/
theorem literals_carry_sources_iff (s : String) (blocks : List CompiledBlock) :
    ((∀ c ∈ (literal s).toList, c ∉ lineTerminators) ↔ HasNoSeparator s) ∧
      (∀ rest value rest', StringLiteral ((literal s).toList ++ rest) value rest' ↔
        HasNoSeparator s ∧ value = valueOf s ∧ rest' = rest) ∧
      (∀ t : String, valueOf t = valueOf s ↔ t = s) ∧
      (CarriesSources blocks ↔
        ∀ block ∈ blocks, block.kind ≠ .script → HasNoSeparator block.source) := by
  rw [toList_literal]
  exact ⟨Script.forall_encode_not_mem_lineTerminators_iff, fun _ _ _ =>
    Script.stringLiteral_encode_iff, fun _ => valueOf_inj, carriesSources_iff⟩

/-- A style with quotation marks, a backslash, controls and a character beyond the basic plane,
and a separator in a script, which is no literal. -/
theorem literals_carry_sources_of_escapes :
    let css := "\"\\\n\x01é😀"
    let blocks : List CompiledBlock :=
      [⟨.template, css⟩, ⟨.script, "\u2028"⟩, ⟨.style, css⟩, ⟨.style, css⟩]
    (∀ c ∈ (literal css).toList, c ∉ lineTerminators) ∧
      (∀ value rest', StringLiteral ((literal css).toList ++ ['"', ')']) value rest' ↔
        value = [0x22, 0x5C, 0x0A, 0x01, 0xE9, 0xD83D, 0xDE00] ∧ rest' = ['"', ')']) ∧
      CarriesSources blocks := by
  intro css blocks
  have hnone : HasNoSeparator css := by decide
  have hvalue : valueOf css = [0x22, 0x5C, 0x0A, 0x01, 0xE9, 0xD83D, 0xDE00] := by decide
  obtain ⟨hlines, hread, -, hcarries⟩ := literals_carry_sources_iff css blocks
  refine ⟨hlines.mpr hnone, fun value rest' => ?_, hcarries.mpr (by decide)⟩
  rw [hread, hvalue]
  simp only [hnone, true_and]

/-- The literal for a line separator is none of the grammar: it holds the separator itself. -/
theorem not_stringLiteral_of_separator :
    literal "\u2028" = "\"\u2028\"" ∧ '\u2028' ∈ lineTerminators ∧
      (∀ value rest, ¬ StringLiteral (literal "\u2028").toList value rest) ∧
      ¬ CarriesSources [⟨.template, "\u2028"⟩] := by
  have hseparator : ¬ HasNoSeparator "\u2028" := by decide
  refine ⟨by decide, by decide, fun value rest h => ?_, fun h => ?_⟩
  · rw [← List.append_nil (literal "\u2028").toList, toList_literal,
      Script.stringLiteral_encode_iff] at h
    exact hseparator h.1
  · exact hseparator (carriesSources_iff.mp h _ List.mem_cons_self (by decide))

end ComponentCompiler.Module
