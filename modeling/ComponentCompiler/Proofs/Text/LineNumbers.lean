import ComponentCompiler.Proofs.Text.SelfDelimiting
import ComponentCompiler.Text.Lines

/-!
# Line numbers

Where the lines of a text stand in a longer one.  Line feeds in front of a text move
its lines down and leave them as they are, before and after the shared indentation is
removed, so that the number of a line tells how many of them there are.
-/

namespace ComponentCompiler.Text

variable {s t line : Text} {n k : Nat}

/-! ## The lines of a part -/

theorem lines_cons_of_ne {c : Char} (hc : c ≠ '\n') (rest : Text) :
    lines (c :: rest) = (lines rest).modifyHead (c :: ·) := by
  rw [lines]
  · cases h : lines rest with
    | nil => exact absurd h (lines_ne_nil rest)
    | cons line more => rfl
  · exact hc

theorem lines_eq_splitOn (s : Text) : lines s = s.splitOn '\n' := by
  induction s with
  | nil => rfl
  | cons c rest ih =>
      rw [List.splitOn_cons_eq_if_modifyHead, ← ih]
      by_cases hc : c = '\n'
      · subst hc
        rfl
      · rw [if_neg (by simpa using hc), lines_cons_of_ne hc]

/-- The lines of a text follow those that the text in front of it ends. -/
theorem exists_line_append_left (s : Text) (h : (lines t)[k]? = some line) :
    ∃ shown, (lines (s ++ t))[s.count '\n' + k]? = some shown ∧ line <:+ shown := by
  induction s with
  | nil => exact ⟨line, by simpa using h, List.suffix_rfl⟩
  | cons c rest ih =>
      obtain ⟨shown, hshown, hsuffix⟩ := ih
      by_cases hc : c = '\n'
      · subst hc
        refine ⟨shown, ?_, hsuffix⟩
        rw [List.count_cons_self, Nat.add_right_comm]
        exact hshown
      · rw [List.cons_append, lines_cons_of_ne hc, List.count_cons_of_ne hc,
          List.getElem?_modifyHead, hshown]
        split
        · exact ⟨c :: shown, rfl, hsuffix.trans (List.suffix_cons c shown)⟩
        · exact ⟨shown, rfl, hsuffix⟩

/-- The lines of a text keep their numbers when it goes on. -/
theorem exists_line_append_right (t : Text) (h : (lines s)[k]? = some line) :
    ∃ shown, (lines (s ++ t))[k]? = some shown ∧ line <+: shown := by
  induction s generalizing k line with
  | nil =>
      obtain ⟨rfl, rfl⟩ : k = 0 ∧ line = [] := by
        cases k <;> simp_all [lines]
      obtain ⟨first, more, hlines⟩ := List.exists_cons_of_ne_nil (lines_ne_nil t)
      exact ⟨first, by rw [List.nil_append, hlines]; rfl, List.nil_prefix⟩
  | cons c rest ih =>
      by_cases hc : c = '\n'
      · subst hc
        cases k with
        | zero =>
            obtain rfl : [] = line := Option.some.inj h
            exact ⟨[], rfl, List.prefix_rfl⟩
        | succ k => exact ih h
      · rw [lines_cons_of_ne hc, List.getElem?_modifyHead] at h
        rw [List.cons_append, lines_cons_of_ne hc, List.getElem?_modifyHead]
        split at h
        · rename_i hzero
          obtain ⟨inner, hinner, rfl⟩ := Option.map_eq_some_iff.mp h
          obtain ⟨shown, hshown, hprefix⟩ := ih hinner
          rw [if_pos hzero, hshown]
          exact ⟨c :: shown, rfl, List.cons_prefix_cons.mpr ⟨rfl, hprefix⟩⟩
        · rename_i hlater
          rw [if_neg hlater]
          exact ih h

/-- A line of a part stands in a line of the whole, as far down as line feeds stand
before the part. -/
theorem exists_line_of_part (before after : Text) (h : (lines s)[k]? = some line) :
    ∃ shown, (lines (before ++ s ++ after))[before.count '\n' + k]? = some shown ∧
      line <:+: shown := by
  obtain ⟨inner, hinner, hsuffix⟩ := exists_line_append_left before h
  obtain ⟨shown, hshown, hprefix⟩ := exists_line_append_right after hinner
  exact ⟨shown, hshown, hsuffix.isInfix.trans hprefix.isInfix⟩

theorem lineFeed_notMem_of_mem_lines (h : line ∈ lines s) : '\n' ∉ line := by
  induction s generalizing line with
  | nil =>
      obtain rfl := List.mem_singleton.mp h
      exact List.not_mem_nil
  | cons c rest ih =>
      by_cases hc : c = '\n'
      · subst hc
        rcases List.mem_cons.mp h with rfl | hrest
        · exact List.not_mem_nil
        · exact ih hrest
      · rw [lines_cons_of_ne hc] at h
        cases hrest : lines rest with
        | nil => exact absurd hrest (lines_ne_nil rest)
        | cons first more =>
            rw [hrest, List.modifyHead_cons] at h
            rcases List.mem_cons.mp h with rfl | hmore
            · have hfirst : '\n' ∉ first := ih (hrest ▸ List.mem_cons_self)
              exact List.not_mem_cons_of_ne_of_not_mem (Ne.symm hc) hfirst
            · exact ih (hrest ▸ List.mem_cons_of_mem first hmore)

/-! ## Line feeds in front -/

theorem lines_lineFeeds_append (n : Nat) (s : Text) :
    lines (List.replicate n '\n' ++ s) = List.replicate n [] ++ lines s := by
  induction n with
  | zero => rfl
  | succ n ih =>
      rw [List.replicate_succ, List.cons_append, lines, ih]
      rfl

theorem unlines_blanks_append (n : Nat) {ls : List Text} (h : ls ≠ []) :
    unlines (List.replicate n [] ++ ls) = List.replicate n '\n' ++ unlines ls := by
  induction n with
  | zero => rfl
  | succ n ih =>
      rw [List.replicate_succ, List.cons_append, unlines,
        List.intercalate_cons_of_ne_nil (by simp [h]), ← unlines, ih]
      rfl

/-- A line without so many characters of indentation. -/
def outdent (width : Nat) (line : Text) : Text :=
  if line.all isIndent then [] else line.drop width

theorem outdent_suffix (width : Nat) (line : Text) : outdent width line <:+ line := by
  rw [outdent]
  split
  · exact List.nil_suffix
  · exact List.drop_suffix width line

theorem dedent_eq (s : Text) :
    dedent s = unlines ((lines s).map (outdent (sharedIndent (lines s)).length)) := rfl

/-- Empty lines have no part in the shared indentation. -/
theorem sharedIndent_blanks_append (n : Nat) (ls : List Text) :
    sharedIndent (List.replicate n [] ++ ls) = sharedIndent ls := by
  simp [sharedIndent, List.filter_append]

/-- Removing the indentation leaves line feeds in front of a text alone. -/
theorem dedent_lineFeeds_append (n : Nat) (s : Text) :
    dedent (List.replicate n '\n' ++ s) = List.replicate n '\n' ++ dedent s := by
  rw [dedent_eq, dedent_eq, lines_lineFeeds_append, sharedIndent_blanks_append,
    List.map_append, List.map_replicate]
  exact unlines_blanks_append n (by simpa using lines_ne_nil s)

/-- Removing the indentation keeps the number of every line. -/
theorem lines_dedent (s : Text) :
    lines (dedent s) = (lines s).map (outdent (sharedIndent (lines s)).length) := by
  rw [dedent_eq, lines_eq_splitOn, unlines]
  refine List.splitOn_intercalate '\n' ?_ (by simpa using lines_ne_nil s)
  intro line hline
  obtain ⟨written, hwritten, rfl⟩ := List.mem_map.mp hline
  exact fun hfeed => lineFeed_notMem_of_mem_lines hwritten ((outdent_suffix _ _).subset hfeed)

/-- From the number of line feeds in front of a text the dedented text differs. -/
theorem dedent_lineFeeds_append_inj {m : Nat} :
    dedent (List.replicate m '\n' ++ s) = dedent (List.replicate n '\n' ++ s) ↔ m = n := by
  refine ⟨fun h => ?_, fun h => h ▸ rfl⟩
  have hlength := congrArg List.length h
  simp only [dedent_lineFeeds_append, List.length_append, List.length_replicate] at hlength
  exact Nat.add_right_cancel hlength

end ComponentCompiler.Text
