import Mathlib.Data.List.Chain
import ComponentCompiler.Proofs.Text.Literal

/-!
# Where a literal begins

Inside a literal every quotation mark follows a backslash.  So a literal at the
end of a text can be read backwards: its opening mark is the last one but one
that does not follow a backslash, as long as something else than a backslash
stands before it.
-/

namespace ComponentCompiler.Text.Quoted

variable {s t x y : Text}

/-- Two neighbours of which the second one is a quotation mark only behind a
backslash. -/
def Escapes (before after : Char) : Prop := after = '"' → before = '\\'

instance : DecidableRel Escapes := fun before after =>
  inferInstanceAs (Decidable (after = '"' → before = '\\'))

theorem isChain_escapes_of_control :
    ∀ n < 0x20, ('\\' :: 'u' :: hexDigits 4 n).IsChain Escapes := by
  decide

theorem isChain_escapes_encodeChar (c : Char) : (encodeChar c).IsChain Escapes := by
  rcases encodeChar_cases c with ⟨letter, _, hc⟩ | ⟨hcontrol, hc⟩ | ⟨_, _, hc⟩ <;> rw [hc]
  · exact List.isChain_pair.mpr fun _ => rfl
  · exact isChain_escapes_of_control _ hcontrol
  · exact List.isChain_singleton c

theorem encodeAll_ne_quote (s : Text) (x : Text) : s.flatMap encodeChar ≠ '"' :: x := by
  cases s with
  | nil => simp
  | cons c s =>
      rw [List.flatMap_cons]
      exact encodeChar_append_ne_quote c _ x

/-- Inside a literal a quotation mark stands only behind a backslash. -/
theorem isChain_escapes_encodeAll (s : Text) : (s.flatMap encodeChar).IsChain Escapes := by
  induction s with
  | nil => exact List.isChain_nil
  | cons c s ih =>
      rw [List.flatMap_cons, List.isChain_append]
      refine ⟨isChain_escapes_encodeChar c, ih, ?_⟩
      rintro before - after hafter rfl
      obtain ⟨rest, hrest⟩ := List.head?_eq_some_iff.mp hafter
      exact absurd hrest (encodeAll_ne_quote s rest)

section

variable {before : Char}

/-- No literal ends with a shorter one that a character other than a backslash stands
before. -/
theorem encode_ne_append_encode (hback : before ≠ '\\') (hquote : before ≠ '"')
    (s t x : Text) : encode t ≠ x ++ before :: encode s := by
  intro h
  cases x with
  | nil => exact hquote (List.cons.inj h).1.symm
  | cons first x =>
      have hbody : t.flatMap encodeChar ++ ['"'] =
          (x ++ before :: '"' :: s.flatMap encodeChar) ++ ['"'] := by
        simpa [encode] using (List.cons.inj h).2
      have hchain := isChain_escapes_encodeAll t
      rw [List.append_cancel_right hbody, List.isChain_append] at hchain
      exact hback ((List.isChain_cons_cons.mp hchain.2.1).1 rfl)

theorem eq_nil_of_cons_encode_eq (hback : before ≠ '\\') (hquote : before ≠ '"')
    (h : before :: encode t = x ++ before :: encode s) : x = [] ∧ t = s := by
  cases x with
  | nil =>
      have hsame : encode t ++ [] = encode s ++ [] := by simpa using (List.cons.inj h).2
      exact ⟨rfl, (encode_append_injective hsame).1⟩
  | cons c x => exact absurd (List.cons.inj h).2 (encode_ne_append_encode hback hquote s t x)

/-- A literal at the end of a text determines what it encodes and what stands before
it, if the character right before it is known and neither a backslash nor a
quotation mark. -/
theorem append_encode_injective (hback : before ≠ '\\') (hquote : before ≠ '"')
    (h : x ++ before :: encode s = y ++ before :: encode t) : x = y ∧ s = t := by
  rcases List.append_eq_append_iff.mp h with ⟨gap, rfl, hgap⟩ | ⟨gap, rfl, hgap⟩
  · obtain ⟨rfl, rfl⟩ := eq_nil_of_cons_encode_eq hback hquote hgap
    exact ⟨(List.append_nil x).symm, rfl⟩
  · obtain ⟨rfl, rfl⟩ := eq_nil_of_cons_encode_eq hback hquote hgap
    exact ⟨List.append_nil y, rfl⟩

end

end ComponentCompiler.Text.Quoted
