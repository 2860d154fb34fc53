import ComponentCompiler.Text.Basic

/-!
# Trimming a framed text

Blanks put around a text that neither begins nor ends with one are exactly the
blanks that trimming takes off again.
-/

namespace ComponentCompiler.Text

variable {blanks s t : Text}

/-- Whether all characters of a text are blank. -/
def AllBlank (s : Text) : Prop := ∀ c ∈ s, isBlank c = true

theorem allBlank_leading (s : Text) : AllBlank (leading s) :=
  fun _ => isBlank_of_mem_leading

theorem allBlank_trailing (s : Text) : AllBlank (trailing s) :=
  fun _ => isBlank_of_mem_trailing

/-! ## At the start -/

theorem leading_append (h : AllBlank blanks) (s : Text) :
    leading (blanks ++ s) = blanks ++ leading s :=
  List.takeWhile_append_of_pos h

theorem trimStart_append (h : AllBlank blanks) (s : Text) :
    trimStart (blanks ++ s) = trimStart s :=
  List.dropWhile_append_of_pos h

theorem drop_length_leading (s : Text) : s.drop (leading s).length = trimStart s := by
  calc
    s.drop (leading s).length = (leading s ++ trimStart s).drop (leading s).length := by
      rw [leading_append_trimStart]
    _ = trimStart s := List.drop_left

theorem leading_eq_nil_iff : leading s = [] ↔ ∀ c ∈ s.head?, isBlank c = false := by
  cases s with
  | nil => simp [leading]
  | cons c rest => cases hc : isBlank c <;> simp [leading, hc]

theorem trimStart_eq_self (h : leading s = []) : trimStart s = s := by
  have hall := leading_append_trimStart s
  rwa [h, List.nil_append] at hall

/-- What is left after trimming the start does not begin with a blank. -/
theorem leading_trimStart (s : Text) : leading (trimStart s) = [] :=
  leading_eq_nil_iff.mpr fun _ => isBlank_of_head?_trimStart

/-! ## At the end -/

theorem trailing_append (h : AllBlank blanks) (s : Text) :
    trailing (s ++ blanks) = trailing s ++ blanks := by
  have hreverse : ∀ c ∈ blanks.reverse, isBlank c = true :=
    fun c hc => h c (List.mem_reverse.mp hc)
  rw [trailing, List.reverse_append, List.takeWhile_append_of_pos hreverse,
    List.reverse_append, List.reverse_reverse, trailing]

theorem trimEnd_append (h : AllBlank blanks) (s : Text) :
    trimEnd (s ++ blanks) = trimEnd s := by
  have hreverse : ∀ c ∈ blanks.reverse, isBlank c = true :=
    fun c hc => h c (List.mem_reverse.mp hc)
  rw [trimEnd, List.reverse_append, List.dropWhile_append_of_pos hreverse, trimEnd]

theorem trailing_eq_nil_iff : trailing s = [] ↔ ∀ c ∈ s.getLast?, isBlank c = false := by
  rw [trailing, List.reverse_eq_nil_iff, ← List.head?_reverse]
  exact leading_eq_nil_iff

/-- Two texts together end with no blank if the second one does not, or is empty and
the first one does not. -/
theorem trailing_append_eq_nil_iff :
    trailing (s ++ t) = [] ↔ trailing t = [] ∧ (t = [] → trailing s = []) := by
  cases ht : t.getLast? with
  | none =>
      obtain rfl := List.getLast?_eq_none_iff.mp ht
      simp [trailing]
  | some c =>
      have hne : t ≠ [] := by
        rintro rfl
        simp at ht
      simp [trailing_eq_nil_iff, List.getLast?_append, ht, hne]

theorem trimEnd_eq_self (h : trailing s = []) : trimEnd s = s := by
  have hall := trimEnd_append_trailing s
  rwa [h, List.append_nil] at hall

/-- A text cut before the blanks at its end, in front of another text. -/
@[simp]
theorem trimEnd_append_trailing_append (s t : Text) :
    trimEnd s ++ (trailing s ++ t) = s ++ t := by
  rw [← List.append_assoc, trimEnd_append_trailing]

/-- What is left after trimming the end does not end with a blank. -/
theorem trailing_trimEnd (s : Text) : trailing (trimEnd s) = [] := by
  rw [trailing, trimEnd, List.reverse_reverse, List.reverse_eq_nil_iff]
  exact leading_trimStart s.reverse

/-! ## At both ends -/

theorem trailing_trim (s : Text) : trailing (trim s) = [] := trailing_trimEnd _

theorem leading_trim (s : Text) : leading (trim s) = [] := by
  have hall := trimEnd_append_trailing (trimStart s)
  rw [leading_eq_nil_iff]
  intro c hc
  apply isBlank_of_head?_trimStart (s := s)
  rw [trim] at hc
  rw [← hall, List.head?_append, Option.mem_def.mp hc]
  rfl

/-- Blanks around a text without blanks at its ends are told apart from it. -/
theorem trim_frame {after : Text} (hblanks : AllBlank blanks) (hafter : AllBlank after)
    (hne : s ≠ []) (hleading : leading s = []) (htrailing : trailing s = []) :
    leading (blanks ++ s ++ after) = blanks ∧ trim (blanks ++ s ++ after) = s ∧
      trailing (blanks ++ s ++ after) = after := by
  obtain ⟨c, rest, rfl⟩ := List.exists_cons_of_ne_nil hne
  have hhead : leading (c :: rest ++ after) = [] := by
    rw [leading_eq_nil_iff] at hleading ⊢
    simpa using hleading
  refine ⟨?_, ?_, ?_⟩
  · rw [List.append_assoc, leading_append hblanks, hhead, List.append_nil]
  · rw [List.append_assoc, trim, trimStart_append hblanks, trimStart_eq_self hhead,
      trimEnd_append hafter, trimEnd_eq_self htrailing]
  · have hlast : trailing (blanks ++ c :: rest) = [] := by
      rw [trailing_eq_nil_iff] at htrailing ⊢
      simpa [List.getLast?_append] using htrailing
    rw [trailing_append hafter, hlast, List.nil_append]

end ComponentCompiler.Text
