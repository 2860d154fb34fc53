import ComponentCompiler.Proofs.Component.References
import ComponentCompiler.Proofs.Markup.RawText
import ComponentCompiler.Proofs.Text.LineNumbers

/-!
# Line numbers of scripts

A script is moved down by as many lines as stand in front of the first place where its
text occurs in the document.  Its lines have the numbers that they have in the document
exactly if the same text does not stand further up, with fewer lines in front of it.
-/

namespace ComponentCompiler

open Text (blankLines dedent lines)

namespace Block

variable {document script before after : Text}

/-- Nowhere in the document the text stands with fewer lines in front of it. -/
def IsFirstByLines (document script before : Text) : Prop :=
  ∀ earlier later, document = earlier ++ script ++ later →
    before.count '\n' ≤ earlier.count '\n'

theorem isFirstByLines_iff_forall_drop :
    IsFirstByLines document script before ↔
      ∀ n < document.length + 1, script <+: document.drop n →
        before.count '\n' ≤ (document.take n).count '\n' := by
  constructor
  · rintro h n - ⟨later, hlater⟩
    exact h (document.take n) later (by rw [List.append_assoc, hlater, List.take_append_drop])
  · rintro h earlier later rfl
    have hlength : earlier.length < (earlier ++ script ++ later).length + 1 := by
      rw [List.append_assoc, List.length_append]
      exact Nat.lt_succ_of_le (Nat.le_add_right _ _)
    have hearlier := h earlier.length hlength
    rw [List.append_assoc, List.drop_left, List.take_left] at hearlier
    exact hearlier (List.prefix_append script later)

instance (document script before : Text) : Decidable (IsFirstByLines document script before) :=
  decidable_of_iff _ isFirstByLines_iff_forall_drop.symm

/-- The lines in front of the first place where a text stands are the empty lines that a
script with this text is given. -/
theorem exists_scriptPadding (hplace : document = before ++ script ++ after) :
    ∃ first later, document = first ++ script ++ later ∧
      scriptPadding document script = blankLines first ∧
      ∀ earlier rest, document = earlier ++ script ++ rest → first <+: earlier := by
  have hinfix : script <:+: document := ⟨before, after, hplace.symm⟩
  obtain ⟨first, later, hfirst, hend, hearliest⟩ := Text.exists_first_occurrence hinfix
  refine ⟨first, later, hfirst, ?_, hearliest⟩
  have hindex : Text.indexOf? script document = some first.length := by
    rw [Text.indexOf?, hend, Option.map_some, Nat.add_sub_cancel]
  have htake : document.take first.length = first := by
    rw [hfirst, List.append_assoc, List.take_left]
  rw [scriptPadding, hindex]
  dsimp only
  rw [htake]
  split
  case isTrue hempty =>
    -- The empty text stands at the very beginning.
    obtain rfl := List.isEmpty_iff.mp hempty
    obtain rfl := List.prefix_nil.mp (hearliest [] document rfl)
    rfl
  case isFalse => rfl

/-- The lines in front of the first place are as many as those in front of another one if
and only if the other one has no place with fewer lines. -/
theorem isFirstByLines_iff {first later : Text} (hplace : document = before ++ script ++ after)
    (hfirst : document = first ++ script ++ later)
    (hearliest : ∀ earlier rest, document = earlier ++ script ++ rest → first <+: earlier) :
    IsFirstByLines document script before ↔ first.count '\n' = before.count '\n' := by
  have hle {earlier rest : Text} (h : document = earlier ++ script ++ rest) :
      first.count '\n' ≤ earlier.count '\n' :=
    (hearliest earlier rest h).sublist.count_le '\n'
  constructor
  · intro hbefore
    exact Nat.le_antisymm (hle hplace) (hbefore first later hfirst)
  · intro heq earlier rest h
    exact heq ▸ hle h

/-- Below as many empty lines as stand before it, a script has its lines in those of the
document with the same numbers. -/
theorem exists_shown_line (hplace : document = before ++ script ++ after) {k : Nat}
    {line : Text} (h : (lines (dedent (blankLines before ++ script)))[k]? = some line) :
    ∃ shown, (lines document)[k]? = some shown ∧ line <:+: shown := by
  rw [blankLines, Text.dedent_lineFeeds_append, Text.lines_lineFeeds_append] at h
  by_cases hk : k < before.count '\n'
  · -- Above the script all lines are empty.
    rw [List.getElem?_append_left (by simpa using hk),
      List.getElem?_replicate_of_lt hk] at h
    obtain rfl := Option.some.inj h
    obtain ⟨first, more, hlines⟩ := List.exists_cons_of_ne_nil (Text.lines_ne_nil script)
    obtain ⟨_, hlater, -⟩ := Text.exists_line_of_part (k := 0) before after
      (hlines ▸ List.getElem?_cons_zero)
    obtain ⟨hlength, -⟩ := List.getElem?_eq_some_iff.mp (hplace ▸ hlater)
    exact ⟨_, List.getElem?_eq_getElem (Nat.lt_trans hk hlength), List.nil_infix⟩
  · obtain ⟨j, rfl⟩ := Nat.exists_eq_add_of_le (Nat.le_of_not_lt hk)
    rw [List.getElem?_append_right (by simp), List.length_replicate, Nat.add_sub_cancel_left,
      Text.lines_dedent, List.getElem?_map] at h
    obtain ⟨written, hwritten, rfl⟩ := Option.map_eq_some_iff.mp h
    obtain ⟨shown, hshown, hinfix⟩ := Text.exists_line_of_part before after hwritten
    exact ⟨shown, hplace ▸ hshown, (Text.outdent_suffix _ _).isInfix.trans hinfix⟩

variable {content : String} {part : Section}

theorem inlineSource_script (hkind : part.kind = .script) :
    (inlineSource content part).toList =
      dedent (scriptPadding content.toList part.inner.toList ++ part.inner.toList) := by
  rw [inlineSource, if_pos hkind, String.toList_ofList]

theorem inlineSource_eq_iff (hkind : part.kind = .script)
    (hplace : content.toList = before ++ part.inner.toList ++ after) :
    (inlineSource content part).toList = dedent (blankLines before ++ part.inner.toList) ↔
      IsFirstByLines content.toList part.inner.toList before := by
  obtain ⟨first, later, hfirst, hpadding, hearliest⟩ := exists_scriptPadding hplace
  rw [inlineSource_script hkind, hpadding, blankLines, blankLines,
    Text.dedent_lineFeeds_append_inj, isFirstByLines_iff hplace hfirst hearliest]

/-- The text of a script that is not blank stands in the document, and the script is
extracted with the line numbers of a place where it stands exactly if it does not stand
further up with fewer lines in front of it.  Every line of its source then is part of the
line of the document with the same number. -/
theorem source_eq_iff_isFirstByLines {doc : Document} (around : Surroundings)
    (filePath : Option String) (strict : Bool) (s : BuildState)
    (hdoc : Document.parse content = .ok doc) (hpart : part ∈ doc.sections)
    (hkind : part.kind = .script) (hinline : part.src? = none)
    (hvisible : part.inner.toList.any (!Text.isBlank ·) = true) :
    (∃ before after, content.toList = before ++ part.inner.toList ++ after) ∧
    ∃ block, ofSection around content filePath strict part s = .ok block s ∧
      ∀ before after, content.toList = before ++ part.inner.toList ++ after →
        (block.source.toList = dedent (blankLines before ++ part.inner.toList) ↔
          IsFirstByLines content.toList part.inner.toList before) ∧
        (IsFirstByLines content.toList part.inner.toList before →
          ∀ (k : Nat) (line : Text), (lines block.source.toList)[k]? = some line →
            ∃ shown, (lines content.toList)[k]? = some shown ∧ line <:+: shown) := by
  constructor
  · obtain ⟨before, after, hplace⟩ :=
      Section.inner_infix_of_parse hdoc hpart (by simp [hkind]) hvisible
    exact ⟨before, after, hplace.symm⟩
  · refine ⟨ofSource part (inlineSource content part), ?_, fun before after hplace => ?_⟩
    · rw [ofSection_eq, loadSource, hinline]
      rfl
    · have hiff := inlineSource_eq_iff hkind hplace
      refine ⟨hiff, fun hbefore k line hline => ?_⟩
      rw [ofSource, hiff.mpr hbefore] at hline
      exact exists_shown_line hplace hline

/-- A document that is found to hold a script with this text holds one. -/
theorem exists_script_of_any {text : String}
    (h : ((Document.parse content).toOption.map fun doc => doc.sections.any fun part =>
      part.kind == .script && part.src? == none && part.inner == text) = some true) :
    ∃ doc part, Document.parse content = .ok doc ∧ part ∈ doc.sections ∧
      part.kind = .script ∧ part.src? = none ∧ part.inner = text := by
  cases hdoc : Document.parse content with
  | error reason =>
      rw [hdoc] at h
      exact nomatch h
  | ok doc =>
      rw [hdoc] at h
      obtain ⟨part, hpart, hscript⟩ := List.any_eq_true.mp (Option.some.inj h)
      obtain ⟨⟨hkind, hsrc⟩, htext⟩ : (part.kind = .script ∧ part.src? = none) ∧
          part.inner = text := by simpa using hscript
      exact ⟨doc, part, rfl, hpart, hkind, hsrc, htext⟩

/-- A script below a template with other text, whose second line is indented. -/
theorem source_eq_below_template :
    let content := "<template>\n<p></p>\n</template>\n<script>\n  a()\n</script>"
    let before := "<template>\n<p></p>\n</template>\n<script>".toList
    let script := "\n  a()\n".toList
    let around : Surroundings :=
      { disk := { workingDirectory := "/work" }, extensions := Extensions.none }
    ∃ doc part block, Document.parse content = .ok doc ∧ part ∈ doc.sections ∧
      part.kind = .script ∧ part.src? = none ∧
      content.toList = before ++ part.inner.toList ++ "</script>".toList ∧
      ofSection around content none false part {} = .ok block {} ∧
      block.source.toList = dedent (blankLines before ++ script) ∧
      ∃ shown, (lines content.toList)[4]? = some shown ∧ "a()".toList <:+: shown := by
  intro content before script around
  obtain ⟨doc, part, hdoc, hpart, hkind, hinline, htext⟩ :
      ∃ doc part, Document.parse content = .ok doc ∧ part ∈ doc.sections ∧
        part.kind = .script ∧ part.src? = none ∧ part.inner = "\n  a()\n" :=
    exists_script_of_any (by decide +kernel)
  have hplace : content.toList = before ++ part.inner.toList ++ "</script>".toList := by
    rw [htext]
    decide +kernel
  have hfirst : IsFirstByLines content.toList part.inner.toList before := by
    rw [htext]
    decide +kernel
  have hvisible : part.inner.toList.any (!Text.isBlank ·) = true := by
    rw [htext]
    decide +kernel
  obtain ⟨-, block, hblock, hplaces⟩ :=
    source_eq_iff_isFirstByLines around none false {} hdoc hpart hkind hinline hvisible
  obtain ⟨hsource, hlines⟩ := hplaces before "</script>".toList hplace
  have hshown : block.source.toList = dedent (blankLines before ++ script) := by
    rw [hsource.mpr hfirst, htext]
  refine ⟨doc, part, block, hdoc, hpart, hkind, hinline, hplace, hblock, hshown, ?_⟩
  refine hlines hfirst 4 "a()".toList ?_
  rw [hshown]
  decide +kernel

/-- The text of the script stands in a template above it, where it is found. -/
theorem source_ne_of_text_in_template :
    let content := "<template>\nx\n</template>\n<script>\nx\n</script>"
    let before := "<template>\nx\n</template>\n<script>".toList
    ∃ doc part, Document.parse content = .ok doc ∧ part ∈ doc.sections ∧
      part.kind = .script ∧ part.src? = none ∧ part.inner.toList.any (!Text.isBlank ·) = true ∧
      content.toList = before ++ part.inner.toList ++ "</script>".toList ∧
      ∀ around filePath strict s, ∃ block,
        ofSection around content filePath strict part s = .ok block s ∧
          block.source.toList ≠ dedent (blankLines before ++ part.inner.toList) := by
  intro content before
  obtain ⟨doc, part, hdoc, hpart, hkind, hinline, htext⟩ :
      ∃ doc part, Document.parse content = .ok doc ∧ part ∈ doc.sections ∧
        part.kind = .script ∧ part.src? = none ∧ part.inner = "\nx\n" :=
    exists_script_of_any (by decide +kernel)
  refine ⟨doc, part, hdoc, hpart, hkind, hinline, ?_, ?_, fun around filePath strict s => ?_⟩
  · rw [htext]
    decide +kernel
  · rw [htext]
    decide +kernel
  · refine ⟨ofSource part (inlineSource content part), ?_, ?_⟩
    · rw [ofSection_eq, loadSource, hinline]
      rfl
    · rw [ofSource, inlineSource_script hkind, htext]
      decide +kernel

end Block

end ComponentCompiler
