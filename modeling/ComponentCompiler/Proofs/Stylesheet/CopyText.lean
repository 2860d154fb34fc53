import ComponentCompiler.Proofs.Stylesheet.Legibility
import ComponentCompiler.Proofs.Stylesheet.Prefixing

/-!
# Reading a copy

A copy has a semicolon behind its value, which need not have been there before.  If a
semicolon ends the value, the copy is a statement of its own in front of any text.  A
value that only the end of the block or of the sheet ends, as a string without its closing
quotation mark, takes the semicolon in and what stands behind it.
-/

namespace ComponentCompiler.Stylesheet

open Text (AllBlank leading trimStart trimEnd trailing)

variable {table : PrefixTable} {d : Declaration} {name text value rest : Text} {c : Char}

/-! ## Values that a semicolon ends -/

/-- Whether a semicolon behind a value ends it. -/
def IsClosed (value : Text) : Prop := scan endsHead 0 (value ++ [';']) = .length value.length

instance (value : Text) : Decidable (IsClosed value) :=
  inferInstanceAs (Decidable (scan endsHead 0 (value ++ [';']) = .length value.length))

theorem isClosed_iff : IsClosed value ↔ StopsAt value ';' :=
  ⟨stopsAt_of_scan, fun h => h []⟩

/-- Characters that change nothing may be put before a text or taken away. -/
theorem stopsAt_append_iff (htext : ∀ c ∈ text, IsPassed endsHead c) :
    StopsAt (text ++ value) c ↔ StopsAt value c := by
  have hsame : ∀ rest,
      scan endsHead 0 (text ++ value ++ c :: rest) = .length (text ++ value).length ↔
        scan endsHead 0 (value ++ c :: rest) = .length value.length := by
    intro rest
    rw [List.append_assoc, scan_append_of_isPassed htext, List.length_append]
    cases scan endsHead 0 (value ++ c :: rest) with
    | length n =>
        simp only [Scan.shift, Scan.length.injEq]
        omega
    | unclosedComment n => simp [Scan.shift]
  exact forall_congr' hsame

/-! ## The parts of a declaration -/

/-- The characters that may not stand in a property if it is to be read as one. -/
def propertyMarks : List Char := ':' :: '\x7b' :: ';' :: '\x7d' :: scanMarks

/-- Whether a character has no meaning in the property of a declaration. -/
def IsPlainChar (c : Char) : Prop := c ∉ propertyMarks

theorem IsPlainChar.isPassed (h : IsPlainChar c) : IsPassed endsHead c := by
  simp only [IsPlainChar, propertyMarks, List.mem_cons, not_or] at h
  obtain ⟨-, hopening, hsemicolon, hclosing, hmarks⟩ := h
  exact ⟨hmarks, by simp [endsHead, hopening, hsemicolon, hclosing]⟩

/-- A test that fails for all the others holds of such characters only. -/
theorem isPlainChar_of_test {test : Char → Bool} (hmarks : propertyMarks.any test = false)
    (h : test c = true) : IsPlainChar c := by
  intro hmem
  have hfound : propertyMarks.any test = true := List.any_eq_true.mpr ⟨c, hmem, h⟩
  rw [hmarks] at hfound
  cases hfound

/-- The characters that the prefixed properties are written with. -/
def isPropertyChar (c : Char) : Bool := (97 ≤ c.toNat && c.toNat ≤ 122) || c == '-'

theorem isPlainChar_of_isPropertyChar (h : isPropertyChar c = true) : IsPlainChar c :=
  isPlainChar_of_test (by decide) h

theorem isBlank_of_isPropertyChar (h : isPropertyChar c = true) : Text.isBlank c = false := by
  simp only [isPropertyChar, Bool.or_eq_true, Bool.and_eq_true, decide_eq_true_eq,
    beq_iff_eq] at h
  rcases h with ⟨hfirst, hlast⟩ | rfl
  · simp only [Text.isBlank, Bool.or_eq_false_iff, Bool.and_eq_false_iff, decide_eq_false_iff_not,
      beq_eq_false_iff_ne]
    omega
  · rfl

theorem isPlainChar_of_isBlank (h : Text.isBlank c = true) : IsPlainChar c :=
  isPlainChar_of_test (by decide) h

theorem beginsPlain_of_isPropertyChar (h : isPropertyChar c = true) (rest : Text) :
    BeginsPlain (c :: rest) := by
  have hplain := isPlainChar_of_isPropertyChar h
  simp only [IsPlainChar, propertyMarks, scanMarks, List.mem_cons, not_or] at hplain
  obtain ⟨-, -, hsemicolon, hclosing, -, -, -, hslash, -⟩ := hplain
  have hat : c ≠ '@' := by
    rintro rfl
    exact absurd h (by decide)
  have hstart : startsComment (c :: rest) = false := by
    simp [startsComment_cons, hslash]
  exact ⟨c, rest, rfl, isBlank_of_isPropertyChar h, hclosing, hsemicolon, hat, hstart⟩

/-- What has a meaning has no other lower case form, so that a listed property holds
nothing of it in whatever case it is written. -/
theorem isPlainChar_of_lower (h : ∀ c ∈ Text.lower text, isPropertyChar c = true) :
    ∀ c ∈ text, IsPlainChar c := by
  have hmarks : propertyMarks.all (fun mark => decide (Text.IsSmall mark)) = true := by decide
  intro c hc hmem
  have hsmall : Text.IsSmall c := of_decide_eq_true (List.all_eq_true.mp hmarks c hmem)
  exact isPlainChar_of_isPropertyChar (h c (Text.mem_lower_of_isSmall hsmall hc)) hmem

/-- The colon of a declaration stands behind plain characters. -/
theorem colonIndex?_append (htext : ∀ c ∈ text, IsPlainChar c) (rest : Text) :
    colonIndex? (text ++ ':' :: rest) = some text.length := by
  induction text with
  | nil => rfl
  | cons c text ih =>
      rw [List.forall_mem_cons] at htext
      obtain ⟨hc, htext⟩ := htext
      simp only [IsPlainChar, propertyMarks, scanMarks, List.mem_cons, not_or] at hc
      rw [List.cons_append, colonIndex?, if_neg hc.1, if_neg (by simp [hc]), ih htext]
      rfl

/-- How the text of a declaration is cut into its parts. -/
structure IsCut (d : Declaration) : Prop where
  before : AllBlank d.before
  between : ∃ blanks blanks', AllBlank blanks ∧ AllBlank blanks' ∧ d.between = blanks ++ ':' :: blanks'
  value : leading d.value = []

/-- The text of a declaration from its property to its value. -/
def declarationText (d : Declaration) : Text := d.prop ++ (d.between ++ d.value)

/-- The parts that a text without a block is cut into. -/
theorem isCut_of_statement {before : Text} {semicolon : Bool} (hbefore : AllBlank before)
    (h : statement before text semicolon = .declaration d) :
    IsCut d ∧ d.semicolon = semicolon ∧ declarationText d = text := by
  have hrender := render_statement before text semicolon
  rw [h] at hrender
  rw [statement] at h
  split at h
  · cases h
  · obtain rfl := Node.declaration.inj h
    refine ⟨⟨hbefore, ⟨_, _, Text.allBlank_trailing _, Text.allBlank_leading _, rfl⟩,
      Text.leading_trimStart _⟩, rfl, ?_⟩
    simp only [Node.render, renderDeclaration, List.append_assoc] at hrender
    have hinner := List.append_cancel_left hrender
    rw [← List.append_left_inj (semicolonText semicolon), declarationText]
    simpa using hinner

/-- A text that is put together from the parts of a declaration is cut there again. -/
theorem statement_of_isCut (hcut : IsCut d) (hprop : ∀ c ∈ d.prop, IsPlainChar c)
    (htrailing : trailing d.prop = []) :
    statement d.before (declarationText d) d.semicolon = .declaration d := by
  obtain ⟨before, prop, between, value, semicolon⟩ := d
  obtain ⟨-, ⟨blanks, blanks', hblanks, hblanks', rfl⟩, hvalue⟩ := hcut
  dsimp only at *
  have htext : declarationText ⟨before, prop, blanks ++ ':' :: blanks', value, semicolon⟩ =
      (prop ++ blanks) ++ ':' :: (blanks' ++ value) := by
    simp [declarationText]
  have hplain : ∀ c ∈ prop ++ blanks, IsPlainChar c := by
    intro c hc
    rcases List.mem_append.mp hc with hc | hc
    · exact hprop c hc
    · exact isPlainChar_of_isBlank (hblanks c hc)
  have hhead : ((prop ++ blanks) ++ ':' :: (blanks' ++ value)).take (prop ++ blanks).length =
      prop ++ blanks := List.take_left
  have htail : ((prop ++ blanks) ++ ':' :: (blanks' ++ value)).drop
      ((prop ++ blanks).length + 1) = blanks' ++ value := List.drop_length_add_append 1
  rw [htext, statement, colonIndex?_append hplain]
  dsimp only
  rw [hhead, htail, Text.trimEnd_append hblanks, Text.trimEnd_eq_self htrailing,
    Text.trailing_append hblanks, htrailing, List.nil_append, Text.leading_append hblanks', hvalue,
    List.append_nil, Text.trimStart_append hblanks', Text.trimStart_eq_self hvalue]

/-! ## Declarations in front of a text -/

/-- What a declaration that is read says of its parts. -/
theorem isCut_of_stands (h : Stands (.leaf (.declaration d)) rest) :
    IsCut d ∧ (d.semicolon = true → StopsAt (declarationText d) ';') := by
  generalize hp : Piece.leaf (.declaration d) = p at h
  cases h with
  | closing | atBlock | rule => cases hp
  | comment | stray | atStatement | atOpen => cases Piece.leaf.inj hp
  | statement hbefore _ hstops =>
      obtain ⟨hcut, -, rfl⟩ := isCut_of_statement hbefore (Piece.leaf.inj hp).symm
      exact ⟨hcut, fun _ => hstops⟩
  | openStatement hbefore _ _ _ _ =>
      obtain ⟨hcut, hopen, -⟩ := isCut_of_statement hbefore (Piece.leaf.inj hp).symm
      refine ⟨hcut, fun hsemicolon => ?_⟩
      rw [hopen] at hsemicolon
      cases hsemicolon

/-- Where a declaration ends depends on its value alone. -/
theorem stopsAt_declarationText_iff (hcut : IsCut d) (hprop : ∀ c ∈ d.prop, IsPlainChar c) :
    StopsAt (declarationText d) c ↔ StopsAt d.value c := by
  obtain ⟨blanks, blanks', hblanks, hblanks', hbetween⟩ := hcut.between
  have hfront : ∀ c ∈ d.prop ++ d.between, IsPassed endsHead c := by
    rw [hbetween]
    intro c hc
    rcases List.mem_append.mp hc with hc | hc
    · exact (hprop c hc).isPassed
    · rcases List.mem_append.mp hc with hc | hc
      · exact (isPlainChar_of_isBlank (hblanks c hc)).isPassed
      · rcases List.mem_cons.mp hc with rfl | hc
        · exact ⟨by decide, rfl⟩
        · exact (isPlainChar_of_isBlank (hblanks' c hc)).isPassed
  rw [declarationText, ← List.append_assoc, stopsAt_append_iff hfront]

/-- The value of a declaration with a semicolon is closed. -/
theorem isClosed_of_stands (h : Stands (.leaf (.declaration d)) rest)
    (hprop : ∀ c ∈ d.prop, IsPlainChar c) (hsemicolon : d.semicolon = true) :
    IsClosed d.value := by
  obtain ⟨hcut, hstops⟩ := isCut_of_stands h
  rw [isClosed_iff, ← stopsAt_declarationText_iff hcut hprop]
  exact hstops hsemicolon

/-- Whether the prefixed names are written with letters and hyphens. -/
def PrefixTable.IsPlain (table : PrefixTable) : Prop :=
  ∀ entry ∈ table, ∀ vendor ∈ entry.2, vendor ++ Text.lower entry.1 ≠ [] ∧
    (vendor ++ Text.lower entry.1).all isPropertyChar = true

instance (table : PrefixTable) : Decidable table.IsPlain :=
  inferInstanceAs (Decidable (∀ entry ∈ table, _))

theorem PrefixTable.IsPlain.of_wanted (hplain : table.IsPlain) (hname : name ∈ table.wanted d) :
    name ≠ [] ∧ (∀ c ∈ name, isPropertyChar c = true) ∧ ∀ c ∈ d.prop, IsPlainChar c := by
  obtain ⟨vendor, hvendor, rfl⟩ := List.mem_map.mp hname
  obtain ⟨entry, hentry, hlower, hmem⟩ := PrefixTable.exists_entry_of_mem_prefixes hvendor
  obtain ⟨hne, hchars⟩ := hplain entry hentry vendor hmem
  rw [hlower] at hne hchars
  rw [List.all_eq_true] at hchars
  refine ⟨hne, hchars, isPlainChar_of_lower fun c hc => ?_⟩
  exact hchars c (List.mem_append_right _ hc)

/-- Prefixed names do not end in a blank. -/
theorem PrefixTable.IsPlain.trailing_of_wanted (hplain : table.IsPlain)
    (hname : name ∈ table.wanted d) : trailing name = [] := by
  obtain ⟨-, hchars, -⟩ := hplain.of_wanted hname
  rw [Text.trailing_eq_nil_iff]
  exact fun c hc => isBlank_of_isPropertyChar (hchars c (List.mem_of_getLast? hc))

/-- A copy of a closed value may stand in front of any text. -/
theorem stands_copyUnder (hplain : table.IsPlain) (hname : name ∈ table.wanted d)
    (hcut : IsCut d) (hclosed : IsClosed d.value) (rest : Text) :
    Stands (.leaf (.declaration (copyUnder name d))) rest := by
  obtain ⟨hne, hchars, -⟩ := hplain.of_wanted hname
  have hcopy : IsCut (copyUnder name d) := ⟨hcut.before, hcut.between, hcut.value⟩
  have hprop : ∀ c ∈ (copyUnder name d).prop, IsPlainChar c := fun c hc =>
    isPlainChar_of_isPropertyChar (hchars c hc)
  have hbegins : BeginsPlain (declarationText (copyUnder name d) ++ [';']) := by
    obtain ⟨c, tail, rfl⟩ := List.exists_cons_of_ne_nil hne
    exact beginsPlain_of_isPropertyChar (hchars c List.mem_cons_self) _
  rw [← statement_of_isCut hcopy hprop (hplain.trailing_of_wanted hname)]
  exact .statement hcut.before hbegins
    ((stopsAt_declarationText_iff hcopy hprop).mpr (isClosed_iff.mp hclosed))

end ComponentCompiler.Stylesheet
