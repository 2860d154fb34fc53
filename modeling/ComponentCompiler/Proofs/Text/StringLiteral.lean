import ComponentCompiler.Proofs.Text.Literal

/-!
# String literals of a script

The double quoted string literals of the ECMAScript 5 grammar.  The value of a literal is a
sequence of UTF-16 code units, and a character beyond the basic plane has two of them.  An
encoded text is such a literal, and its value is the text, just when the text has none of the
two line terminators that the encoding leaves as they are.
-/

namespace ComponentCompiler.Script

open ComponentCompiler.Text (hexDigits)
open ComponentCompiler.Text.Quoted (encode encodeChar shortEscape?)
open ComponentCompiler.Markup (isHexDigit numberOf)

variable {c d letter : Char} {code : Nat} {s t rest rest' : Text} {value : List Nat}

/-! ## The grammar -/

/-- The characters that end a line of a script. -/
def lineTerminators : List Char := ['\n', '\r', '\u2028', '\u2029']

/-- The UTF-16 code units of a character. -/
def codeUnits (c : Char) : List Nat :=
  if c.toNat < 0x10000 then [c.toNat]
  else [0xD800 + (c.toNat - 0x10000) / 0x400, 0xDC00 + (c.toNat - 0x10000) % 0x400]

/-- The code unit that a letter after a backslash stands for. -/
def singleEscape? (letter : Char) : Option Nat :=
  if letter = 'b' then some 0x08
  else if letter = 't' then some 0x09
  else if letter = 'n' then some 0x0A
  else if letter = 'v' then some 0x0B
  else if letter = 'f' then some 0x0C
  else if letter = 'r' then some 0x0D
  else if letter = '"' then some 0x22
  else if letter = Text.apostrophe then some 0x27
  else if letter = '\\' then some 0x5C
  else none

/-- Whether a character after a backslash does not just stand for itself. -/
def IsEscape (c : Char) : Prop := (singleEscape? c).isSome ∨ c.isDigit ∨ c = 'x' ∨ c = 'u'

/-- One character of a double quoted literal at the start of a text, the code units that it
contributes, and the text behind it. -/
inductive Character : Text → List Nat → Text → Prop
  | source {c : Char} {rest : Text} (hquote : c ≠ '"') (hescape : c ≠ '\\')
      (hline : c ∉ lineTerminators) : Character (c :: rest) (codeUnits c) rest
  | single {letter : Char} {code : Nat} {rest : Text} (hcode : singleEscape? letter = some code) :
      Character ('\\' :: letter :: rest) [code] rest
  | nonEscape {c : Char} {rest : Text} (hescape : ¬ IsEscape c) (hline : c ∉ lineTerminators) :
      Character ('\\' :: c :: rest) (codeUnits c) rest
  | null {rest : Text} (hdigit : ∀ digit ∈ rest.head?, ¬ digit.isDigit) :
      Character ('\\' :: '0' :: rest) [0] rest
  | hex {a b : Char} {rest : Text} (hdigits : ∀ digit ∈ [a, b], isHexDigit digit) :
      Character ('\\' :: 'x' :: a :: b :: rest) [numberOf 16 [a, b]] rest
  | unicode {a b c d : Char} {rest : Text} (hdigits : ∀ digit ∈ [a, b, c, d], isHexDigit digit) :
      Character ('\\' :: 'u' :: a :: b :: c :: d :: rest) [numberOf 16 [a, b, c, d]] rest
  /-- A line terminator behind a backslash contributes nothing. -/
  | continuation {c : Char} {rest : Text} (hline : c ∈ lineTerminators)
      (hfeed : c = '\r' → rest.head? ≠ some '\n') : Character ('\\' :: c :: rest) [] rest
  | returnFeed {rest : Text} : Character ('\\' :: '\r' :: '\n' :: rest) [] rest

/-- The characters of a literal up to its closing mark, their code units, and the text behind
the mark. -/
inductive Characters : Text → List Nat → Text → Prop
  | close {rest : Text} : Characters ('"' :: rest) [] rest
  | cons {s more rest : Text} {first value : List Nat} (hfirst : Character s first more)
      (hmore : Characters more value rest) : Characters s (first ++ value) rest

/-- A double quoted literal at the start of a text, its value, and the text behind it. -/
inductive StringLiteral : Text → List Nat → Text → Prop
  | mk {s rest : Text} {value : List Nat} (hbody : Characters s value rest) :
      StringLiteral ('"' :: s) value rest

theorem stringLiteral_cons_iff : StringLiteral ('"' :: s) value rest ↔ Characters s value rest :=
  ⟨fun h => by cases h; assumption, .mk⟩

theorem character_ne_quote (h : Character s value rest) : ∀ tail, s ≠ '"' :: tail := by
  rintro tail rfl
  cases h with
  | source hquote => exact hquote rfl

theorem character_single_iff (hcode : singleEscape? letter = some code) :
    Character ('\\' :: letter :: rest) value rest' ↔ value = [code] ∧ rest' = rest := by
  constructor
  · intro h
    cases h with
    | source _ hescape => exact absurd rfl hescape
    | single hother =>
        cases hcode.symm.trans hother
        exact ⟨rfl, rfl⟩
    | nonEscape hescape => exact absurd (Or.inl (by rw [hcode]; rfl)) hescape
    | null | hex | unicode | returnFeed => cases hcode
    | continuation hline =>
        simp only [lineTerminators, List.mem_cons, List.not_mem_nil, or_false] at hline
        rcases hline with rfl | rfl | rfl | rfl <;> cases hcode
  · rintro ⟨rfl, rfl⟩
    exact .single hcode

theorem character_unicode_iff {digits : Text} (hlength : digits.length = 4)
    (hdigits : ∀ digit ∈ digits, isHexDigit digit) :
    Character ('\\' :: 'u' :: (digits ++ rest)) value rest' ↔
      value = [numberOf 16 digits] ∧ rest' = rest := by
  match digits, hlength with
  | [a, b, c, d], _ =>
      constructor
      · intro h
        cases h with
        | source _ hescape => exact absurd rfl hescape
        | single hcode => cases hcode
        | nonEscape hescape => exact absurd (by simp [IsEscape]) hescape
        | unicode => exact ⟨rfl, rfl⟩
        | continuation hline => exact absurd hline (by decide)
      · rintro ⟨rfl, rfl⟩
        exact .unicode hdigits

theorem character_source_iff (hquote : c ≠ '"') (hescape : c ≠ '\\') :
    Character (c :: rest) value rest' ↔
      c ∉ lineTerminators ∧ value = codeUnits c ∧ rest' = rest := by
  constructor
  · intro h
    cases h with
    | source _ _ hline => exact ⟨hline, rfl, rfl⟩
    | single | nonEscape | null | hex | unicode | continuation | returnFeed =>
        exact absurd rfl hescape
  · rintro ⟨hline, rfl, rfl⟩
    exact .source hquote hescape hline

/-! ## Code units -/

theorem codeUnits_of_basic (h : c.toNat < 0x10000) : codeUnits c = [c.toNat] := if_pos h

theorem codeUnits_ne_nil (c : Char) : codeUnits c ≠ [] := by
  rw [codeUnits]
  split <;> simp

/-- No character is one half of a surrogate pair. -/
theorem toNat_not_surrogate (c : Char) :
    c.toNat < 0xD800 ∨ (0xDFFF < c.toNat ∧ c.toNat < 0x110000) := c.valid

theorem codeUnits_append_injective {x y : List Nat} (h : codeUnits c ++ x = codeUnits d ++ y) :
    c = d ∧ x = y := by
  have hc := toNat_not_surrogate c
  have hd := toNat_not_surrogate d
  rw [codeUnits, codeUnits] at h
  split at h <;> split at h <;>
    simp only [List.cons_append, List.nil_append, List.cons.injEq] at h
  · exact ⟨Char.toNat_inj.mp h.1, h.2⟩
  · omega
  · omega
  · obtain ⟨hhigh, hlow, hrest⟩ := h
    exact ⟨Char.toNat_inj.mp (by omega), hrest⟩

theorem codeUnitsAll_injective (h : s.flatMap codeUnits = t.flatMap codeUnits) : s = t := by
  induction s generalizing t with
  | nil =>
      cases t with
      | nil => rfl
      | cons d t => exact absurd (List.append_eq_nil_iff.mp h.symm).1 (codeUnits_ne_nil d)
  | cons c s ih =>
      cases t with
      | nil => exact absurd (List.append_eq_nil_iff.mp h).1 (codeUnits_ne_nil c)
      | cons d t =>
          obtain ⟨rfl, hrest⟩ := codeUnits_append_injective h
          rw [ih hrest]

/-! ## Encoded texts -/

/-- The line terminators without a short escape. -/
def separators : List Char := ['\u2028', '\u2029']

theorem singleEscape?_of_shortEscape? (h : shortEscape? c = some letter) :
    singleEscape? letter = some c.toNat ∧ codeUnits c = [c.toNat] ∧ c ∉ separators ∧
      letter ∉ lineTerminators := by
  rw [shortEscape?] at h
  repeat' split at h
  all_goals first
    | cases h
      subst c
      decide
    | simp at h

theorem all_hexDigits_of_control :
    ∀ n < 0x20, (hexDigits 4 n).all fun d => isHexDigit d && !lineTerminators.contains d := by
  decide

theorem isHexDigit_hexDigits_of_control {n : Nat} (h : n < 0x20) :
    ∀ digit ∈ hexDigits 4 n, isHexDigit digit ∧ digit ∉ lineTerminators := by
  intro digit hdigit
  have hboth := List.all_eq_true.mp (all_hexDigits_of_control n h) digit hdigit
  simpa using hboth

theorem not_mem_separators_of_control (h : c.toNat < 0x20) : c ∉ separators := by
  simp only [separators, List.mem_cons, List.not_mem_nil, or_false, not_or]
  constructor <;>
    · rintro rfl
      exact absurd h (by decide)

/-- A character that an encoded text shows as it is ends a line just if it is a separator. -/
theorem mem_lineTerminators_iff (h : encodeChar c = [c]) :
    c ∈ lineTerminators ↔ c ∈ separators := by
  have hfeed : c ≠ '\n' := by
    rintro rfl
    exact absurd h (by decide)
  have hreturn : c ≠ '\r' := by
    rintro rfl
    exact absurd h (by decide)
  simp [lineTerminators, separators, hfeed, hreturn]

/-- An encoded character is read as this character, unless it is a separator. -/
theorem character_encodeChar_iff :
    Character (encodeChar c ++ rest) value rest' ↔
      c ∉ separators ∧ value = codeUnits c ∧ rest' = rest := by
  rcases Text.Quoted.encodeChar_cases c with
    ⟨letter, hletter, hc⟩ | ⟨hcontrol, hc⟩ | ⟨hescape, hquote, hc⟩
  · obtain ⟨hcode, hunits, hseparator, -⟩ := singleEscape?_of_shortEscape? hletter
    rw [hc, List.cons_append, List.singleton_append, character_single_iff hcode, hunits]
    simp only [hseparator, not_false_eq_true, true_and]
  · have hseparator := not_mem_separators_of_control hcontrol
    have hdigits := fun digit hmem => (isHexDigit_hexDigits_of_control hcontrol digit hmem).1
    rw [hc, List.cons_append, List.cons_append, character_unicode_iff rfl hdigits,
      Text.Quoted.numberOf_hexDigits_of_control _ hcontrol, codeUnits_of_basic (by omega)]
    simp only [hseparator, not_false_eq_true, true_and]
  · rw [hc, List.singleton_append, character_source_iff hquote hescape,
      mem_lineTerminators_iff hc]

theorem characters_encodeAll_iff :
    Characters (s.flatMap encodeChar ++ '"' :: rest) value rest' ↔
      (∀ c ∈ s, c ∉ separators) ∧ value = s.flatMap codeUnits ∧ rest' = rest := by
  induction s generalizing value with
  | nil =>
      constructor
      · intro h
        cases h with
        | close => exact ⟨by simp, rfl, rfl⟩
        | cons hfirst => exact absurd rfl (character_ne_quote hfirst rest)
      · rintro ⟨-, rfl, rfl⟩
        exact .close
  | cons c s ih =>
      rw [List.flatMap_cons, List.append_assoc, List.forall_mem_cons, List.flatMap_cons]
      constructor
      · intro h
        generalize htext : encodeChar c ++ (s.flatMap encodeChar ++ '"' :: rest) = text at h
        cases h with
        | close => exact absurd htext (Text.Quoted.encodeChar_append_ne_quote c _ _)
        | cons hfirst hmore =>
            rw [← htext, character_encodeChar_iff] at hfirst
            obtain ⟨hc, rfl, rfl⟩ := hfirst
            obtain ⟨hs, rfl, rfl⟩ := ih.mp hmore
            exact ⟨⟨hc, hs⟩, rfl, rfl⟩
      · rintro ⟨⟨hc, hs⟩, rfl, rfl⟩
        exact .cons (character_encodeChar_iff.mpr ⟨hc, rfl, rfl⟩) (ih.mpr ⟨hs, rfl, rfl⟩)

/-- An encoded text in front of any other is a literal with the value of the text, and it is
none at all if the text has a separator. -/
theorem stringLiteral_encode_iff :
    StringLiteral (encode s ++ rest) value rest' ↔
      (∀ c ∈ s, c ∉ separators) ∧ value = s.flatMap codeUnits ∧ rest' = rest := by
  rw [encode, List.cons_append, List.append_assoc, List.singleton_append, stringLiteral_cons_iff,
    characters_encodeAll_iff]

theorem forall_encodeChar_not_mem_lineTerminators_iff :
    (∀ d ∈ encodeChar c, d ∉ lineTerminators) ↔ c ∉ separators := by
  rcases Text.Quoted.encodeChar_cases c with ⟨letter, hletter, hc⟩ | ⟨hcontrol, hc⟩ | ⟨-, -, hc⟩
  · obtain ⟨-, -, hseparator, hline⟩ := singleEscape?_of_shortEscape? hletter
    refine iff_of_true ?_ hseparator
    rw [hc, List.forall_mem_cons, List.forall_mem_singleton]
    exact ⟨by decide, hline⟩
  · refine iff_of_true ?_ (not_mem_separators_of_control hcontrol)
    rw [hc, List.forall_mem_cons, List.forall_mem_cons]
    exact ⟨by decide, by decide, fun digit hmem =>
      (isHexDigit_hexDigits_of_control hcontrol digit hmem).2⟩
  · rw [hc, List.forall_mem_singleton, mem_lineTerminators_iff hc]

/-- The only line terminators in an encoded text are the separators of the text. -/
theorem forall_encode_not_mem_lineTerminators_iff :
    (∀ d ∈ encode s, d ∉ lineTerminators) ↔ ∀ c ∈ s, c ∉ separators := by
  have hquote : '"' ∉ lineTerminators := by decide
  have hall : (∀ d ∈ encode s, d ∉ lineTerminators) ↔
      ∀ c ∈ s, ∀ d ∈ encodeChar c, d ∉ lineTerminators := by
    simp only [encode, List.forall_mem_cons, List.forall_mem_append, List.mem_flatMap, hquote,
      not_false_eq_true, true_and, List.not_mem_nil, false_implies, implies_true, and_true]
    constructor
    · intro h c hc d hd
      exact h d ⟨c, hc, hd⟩
    · rintro h d ⟨c, hc, hd⟩
      exact h c hc d hd
  rw [hall]
  exact forall₂_congr fun c _ => forall_encodeChar_not_mem_lineTerminators_iff

end ComponentCompiler.Script
