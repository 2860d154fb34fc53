import ComponentCompiler.Markup.Reference
import ComponentCompiler.Text.Quoted

/-!
# Literals determine their text

No character is encoded to the beginning of what another one is encoded to, and
none to something that begins with a quotation mark.  Where a literal stands at
the beginning of a longer text, both the encoded text and what follows the
literal can be read off.
-/

namespace ComponentCompiler.Text.Quoted

variable {c d letter : Char} {s t x y : Text}

/-- The character that a letter after a backslash stands for. -/
def escapedBy (letter : Char) : Char :=
  if letter = 'n' then '\n'
  else if letter = 'r' then '\r'
  else if letter = 't' then '\t'
  else if letter = 'b' then '\x08'
  else if letter = 'f' then '\x0c'
  else letter

theorem escapedBy_of_shortEscape? (hc : shortEscape? c = some letter) :
    escapedBy letter = c := by
  rw [shortEscape?] at hc
  repeat' split at hc
  all_goals first
    | obtain rfl := Option.some.inj hc
      subst c
      rfl
    | simp at hc

theorem ne_u_of_shortEscape? (hc : shortEscape? c = some letter) : letter ≠ 'u' := by
  rw [shortEscape?] at hc
  repeat' split at hc
  all_goals first
    | cases hc
      decide
    | simp at hc

theorem ne_backslash_of_shortEscape? (hc : shortEscape? c = none) : c ≠ '\\' := by
  rintro rfl
  simp [shortEscape?] at hc

theorem ne_quote_of_shortEscape? (hc : shortEscape? c = none) : c ≠ '"' := by
  rintro rfl
  simp [shortEscape?] at hc

theorem numberOf_hexDigits_of_control :
    ∀ n < 0x20, Markup.numberOf 16 (hexDigits 4 n) = n := by
  decide

theorem encodeChar_of_short (hc : shortEscape? c = some letter) :
    encodeChar c = ['\\', letter] := by
  rw [encodeChar, hc]

theorem encodeChar_of_control (hc : shortEscape? c = none) (hcontrol : c.toNat < 0x20) :
    encodeChar c = '\\' :: 'u' :: hexDigits 4 c.toNat := by
  rw [encodeChar, hc]
  exact if_pos hcontrol

theorem encodeChar_of_plain (hc : shortEscape? c = none) (hplain : ¬ c.toNat < 0x20) :
    encodeChar c = [c] := by
  rw [encodeChar, hc]
  exact if_neg hplain

/-- The three forms that an encoded character can have. -/
theorem encodeChar_cases (c : Char) :
    (∃ letter, shortEscape? c = some letter ∧ encodeChar c = ['\\', letter]) ∨
      (c.toNat < 0x20 ∧ encodeChar c = '\\' :: 'u' :: hexDigits 4 c.toNat) ∨
      (c ≠ '\\' ∧ c ≠ '"' ∧ encodeChar c = [c]) := by
  cases hc : shortEscape? c with
  | some letter => exact Or.inl ⟨letter, rfl, encodeChar_of_short hc⟩
  | none =>
      by_cases hcontrol : c.toNat < 0x20
      · exact Or.inr (Or.inl ⟨hcontrol, encodeChar_of_control hc hcontrol⟩)
      · exact Or.inr (Or.inr ⟨ne_backslash_of_shortEscape? hc, ne_quote_of_shortEscape? hc,
          encodeChar_of_plain hc hcontrol⟩)

theorem encodeChar_append_injective (h : encodeChar c ++ x = encodeChar d ++ y) :
    c = d ∧ x = y := by
  rcases encodeChar_cases c with ⟨l, hl, hc⟩ | ⟨hcontrol, hc⟩ | ⟨hback, -, hc⟩ <;>
    rcases encodeChar_cases d with ⟨m, hm, hd⟩ | ⟨hcontrol', hd⟩ | ⟨hback', -, hd⟩ <;>
    rw [hc, hd] at h <;> simp only [List.cons_append, List.nil_append, List.cons.injEq] at h
  · obtain ⟨-, rfl, rfl⟩ := h
    exact ⟨(escapedBy_of_shortEscape? hl).symm.trans (escapedBy_of_shortEscape? hm), rfl⟩
  · exact absurd h.2.1 (ne_u_of_shortEscape? hl)
  · exact absurd h.1.symm hback'
  · exact absurd h.2.1.symm (ne_u_of_shortEscape? hm)
  · obtain ⟨hdigits, htail⟩ := List.append_inj h.2.2 rfl
    have hcode := congrArg (Markup.numberOf 16) hdigits
    rw [numberOf_hexDigits_of_control _ hcontrol,
      numberOf_hexDigits_of_control _ hcontrol'] at hcode
    exact ⟨Char.toNat_inj.mp hcode, htail⟩
  · exact absurd h.1.symm hback'
  · exact absurd h.1 hback
  · exact absurd h.1 hback
  · exact h

theorem encodeChar_append_ne_quote (c : Char) (x y : Text) :
    encodeChar c ++ x ≠ '"' :: y := by
  intro h
  rcases encodeChar_cases c with ⟨_, _, hc⟩ | ⟨_, hc⟩ | ⟨_, hquote, hc⟩ <;> rw [hc] at h
  · simp at h
  · simp at h
  · exact hquote (List.cons.inj h).1

theorem encodeAll_append_injective
    (h : s.flatMap encodeChar ++ '"' :: x = t.flatMap encodeChar ++ '"' :: y) :
    s = t ∧ x = y := by
  induction s generalizing t with
  | nil =>
      cases t with
      | nil => exact ⟨rfl, (List.cons.inj h).2⟩
      | cons d t =>
          rw [List.flatMap_cons, List.append_assoc] at h
          exact absurd h.symm (encodeChar_append_ne_quote d _ _)
  | cons c s ih =>
      rw [List.flatMap_cons, List.append_assoc] at h
      cases t with
      | nil => exact absurd h (encodeChar_append_ne_quote c _ _)
      | cons d t =>
          rw [List.flatMap_cons, List.append_assoc] at h
          obtain ⟨rfl, hrest⟩ := encodeChar_append_injective h
          obtain ⟨rfl, htail⟩ := ih hrest
          exact ⟨rfl, htail⟩

/-- A literal at the beginning of a text determines what it encodes and what follows
it. -/
theorem encode_append_injective (h : encode s ++ x = encode t ++ y) : s = t ∧ x = y := by
  have hall : s.flatMap encodeChar ++ '"' :: x = t.flatMap encodeChar ++ '"' :: y := by
    simpa [encode] using h
  exact encodeAll_append_injective hall

end ComponentCompiler.Text.Quoted
