import Mathlib.Data.List.Induction
import ComponentCompiler.Proofs.Stylesheet.WellFormed

/-!
# Escapes at the end of a text

A scan takes a backslash and the character behind it as one, but the texts that it marks
off are trimmed afterwards, and a property is cut at its first colon, by functions that
know no escapes.  An escape is cut in half just where the character that it takes along is
a blank or a colon.  A scan itself never stops inside one, so that a brace or a semicolon
is no such character.
-/

namespace ComponentCompiler.Stylesheet

open Text (AllBlank leading trimEnd trailing)

variable {stop : Char → Bool} {depth n k : Nat} {c quote : Char}
  {s t more text css after rest : Text} {p : Piece} {ps : List Piece} {sheet : Stylesheet}

/-! ## Unpaired backslashes -/

/-- Whether a text ends in a backslash that is not itself escaped: the backslashes at its
end are odd in number. -/
def EndsLoose (text : Text) : Prop := (text.reverse.takeWhile (· == '\\')).length % 2 = 1

instance (text : Text) : Decidable (EndsLoose text) :=
  inferInstanceAs (Decidable ((text.reverse.takeWhile (· == '\\')).length % 2 = 1))

theorem not_endsLoose_nil : ¬ EndsLoose [] := by decide

theorem endsLoose_concat_escape : EndsLoose (t ++ ['\\']) ↔ ¬ EndsLoose t := by
  simp only [EndsLoose, List.reverse_append, List.reverse_singleton, List.singleton_append,
    List.takeWhile_cons, beq_self_eq_true, if_true, List.length_cons]
  omega

theorem not_endsLoose_concat (hc : c ≠ '\\') (t : Text) : ¬ EndsLoose (t ++ [c]) := by
  simp [EndsLoose, hc]

/-- What stands in front does not matter if its own backslashes are paired. -/
theorem endsLoose_append_iff (hs : ¬ EndsLoose s) : EndsLoose (s ++ t) ↔ EndsLoose t := by
  induction t using List.reverseRecOn with
  | nil => simpa [not_endsLoose_nil] using hs
  | append_singleton t c ih =>
      rw [← List.append_assoc]
      by_cases hc : c = '\\'
      · subst hc
        rw [endsLoose_concat_escape, endsLoose_concat_escape, ih]
      · exact iff_of_false (not_endsLoose_concat hc _) (not_endsLoose_concat hc _)

theorem not_endsLoose_escape (c : Char) : ¬ EndsLoose ['\\', c] := by
  by_cases hc : c = '\\'
  · subst hc
    decide
  · exact not_endsLoose_concat hc ['\\']

theorem endsLoose_cons_iff (hc : c ≠ '\\') : EndsLoose (c :: t) ↔ EndsLoose t :=
  endsLoose_append_iff (not_endsLoose_concat hc [])

/-! ## What a scan takes along -/

/-- Strings are made of whole escapes and other characters, but for a backslash at the end
of the text. -/
theorem stringTailLength_cases (quote : Char) (s : Text) :
    (stringTailLength quote s ≤ s.length ∧ ¬ EndsLoose (s.take (stringTailLength quote s))) ∨
      (stringTailLength quote s = s.length + 1 ∧ EndsLoose s) := by
  fun_induction stringTailLength quote s with
  | case1 => exact Or.inl ⟨Nat.le_refl 0, not_endsLoose_nil⟩
  | case2 => exact Or.inr ⟨rfl, by decide⟩
  | case3 c rest ih =>
      have hescape : ∀ tail, EndsLoose ('\\' :: c :: tail) ↔ EndsLoose tail := fun _ =>
        endsLoose_append_iff (not_endsLoose_escape c)
      rw [List.take_succ_cons, List.take_succ_cons, hescape, hescape]
      exact ih.imp (fun h => ⟨Nat.add_le_add_right h.1 2, h.2⟩) fun h => ⟨congrArg (· + 2) h.1, h.2⟩
  | case4 rest hlast hmore =>
      exact Or.inl ⟨Nat.le_add_left 1 _, not_endsLoose_concat (ne_backslash_of_cases hlast hmore) []⟩
  | case5 rest => exact Or.inl ⟨Nat.zero_le _, not_endsLoose_nil⟩
  | case6 c rest hlast hmore hquote hfeed ih =>
      have hc := ne_backslash_of_cases hlast hmore
      rw [List.take_succ_cons, endsLoose_cons_iff hc, endsLoose_cons_iff hc]
      exact ih.imp (fun h => ⟨Nat.add_le_add_right h.1 1, h.2⟩) fun h => ⟨congrArg (· + 1) h.1, h.2⟩

/-- A unit of a scan holds whole escapes only, unless it takes a character along that is
not there. -/
theorem unitAt_cases {depth' : Nat} (h : unitAt stop depth c rest = .pass k depth') :
    (k ≤ rest.length ∧ ¬ EndsLoose (c :: rest.take k)) ∨
      (k = rest.length + 1 ∧ EndsLoose (c :: rest)) := by
  rw [unitAt] at h
  split at h
  · rename_i hescape
    subst hescape
    obtain ⟨rfl, -⟩ := ScanUnit.pass.inj h
    cases rest with
    | nil => exact Or.inr ⟨rfl, by decide⟩
    | cons d tail => exact Or.inl ⟨Nat.le_add_left 1 _, not_endsLoose_escape d⟩
  · rename_i hc
    have hcons : ∀ tail, EndsLoose (c :: tail) ↔ EndsLoose tail := fun _ => endsLoose_cons_iff hc
    split at h
    · obtain ⟨rfl, -⟩ := ScanUnit.pass.inj h
      rw [hcons, hcons]
      exact stringTailLength_cases c rest
    · split at h
      · rename_i hcomment
        split at h
        · cases h
        · rename_i n hlength
          obtain ⟨rfl, -⟩ := ScanUnit.pass.inj h
          have hle := commentLength?_le hcomment hlength
          have hpos := commentLength?_pos hlength
          have htaken : (c :: rest).take n = c :: rest.take (n - 1) := by
            rw [← List.take_succ_cons, Nat.sub_add_cancel hpos]
          have hsame : ((c :: rest).take n).length = n := List.length_take_of_le hle
          rw [← List.take_append_drop n (c :: rest)] at hcomment hlength
          obtain ⟨body, htext, ⟨front, hbody⟩, -⟩ :=
            isComment_of_length hcomment (hlength.trans (congrArg some hsame.symm))
          refine Or.inl ⟨?_, ?_⟩
          · rw [List.length_cons] at hle
            omega
          · have hend : c :: rest.take (n - 1) = ('/' :: '*' :: (front ++ ['*'])) ++ ['/'] := by
              rw [← htaken, htext, ← hbody]
              simp
            rw [hend]
            exact not_endsLoose_concat (by decide) _
      · have hsingle : ¬ EndsLoose (c :: rest.take 0) := by
          rw [List.take_zero, hcons]
          exact not_endsLoose_nil
        split at h
        · obtain ⟨rfl, -⟩ := ScanUnit.pass.inj h
          exact Or.inl ⟨Nat.zero_le _, hsingle⟩
        · split at h
          · obtain ⟨rfl, -⟩ := ScanUnit.pass.inj h
            exact Or.inl ⟨Nat.zero_le _, hsingle⟩
          · split at h
            · cases h
            · obtain ⟨rfl, -⟩ := ScanUnit.pass.inj h
              exact Or.inl ⟨Nat.zero_le _, hsingle⟩

/-- A scan does not stop behind an unpaired backslash, and runs over the end of a text by
one character at most, just behind such a backslash. -/
theorem endsLoose_of_scan {depth n : Nat} {t : Text} (h : scan stop depth (t ++ more) = .length n) :
    (n = t.length → ¬ EndsLoose t) ∧
      (more = [] → t.length < n → n = t.length + 1 ∧ EndsLoose t) := by
  match t with
  | [] =>
      refine ⟨fun _ => not_endsLoose_nil, ?_⟩
      rintro rfl hlt
      rw [List.append_nil, scan] at h
      obtain rfl := Scan.length.inj h
      exact absurd hlt (Nat.lt_irrefl 0)
  | c :: t =>
      rw [List.cons_append, scan_cons] at h
      rw [List.length_cons]
      cases hunit : unitAt stop depth c (t ++ more) with
      | stop =>
          rw [hunit] at h
          obtain rfl := Scan.length.inj h
          exact ⟨fun hlength => absurd hlength.symm (Nat.succ_ne_zero _),
            fun _ hlt => absurd hlt (Nat.not_lt_zero _)⟩
      | unclosed =>
          rw [hunit] at h
          cases h
      | pass k depth' =>
          rw [hunit] at h
          obtain ⟨m, hm, rfl⟩ := Scan.exists_of_shift_eq_length h
          by_cases hk : k ≤ t.length
          · have hwhole : EndsLoose (c :: t) ↔ EndsLoose (t.drop k) := by
              rcases unitAt_cases hunit with ⟨-, hunit⟩ | ⟨hover, -⟩
              · rw [List.take_append_of_le_length hk] at hunit
                have hjoined := endsLoose_append_iff (t := t.drop k) hunit
                rwa [List.cons_append, List.take_append_drop] at hjoined
              · rw [List.length_append] at hover
                omega
            rw [List.drop_append_of_le_length hk] at hm
            obtain ⟨hstops, hover⟩ := endsLoose_of_scan hm
            rw [List.length_drop] at hstops hover
            rw [hwhole]
            refine ⟨fun hlength => hstops (by omega), fun hnone hlt => ?_⟩
            obtain ⟨hlength, hloose⟩ := hover hnone (by omega)
            exact ⟨by omega, hloose⟩
          · refine ⟨fun hlength => by omega, ?_⟩
            rintro rfl -
            rw [List.append_nil] at hunit hm
            rcases unitAt_cases hunit with ⟨hle, -⟩ | ⟨rfl, hloose⟩
            · exact absurd hle hk
            · rw [List.drop_of_length_le (Nat.le_succ _), scan] at hm
              obtain rfl := Scan.length.inj hm
              exact ⟨Nat.zero_add _, hloose⟩
termination_by t.length
decreasing_by simp only [List.length_cons, List.length_drop]; omega

theorem StopsAt.not_endsLoose (h : StopsAt text c) : ¬ EndsLoose text :=
  (endsLoose_of_scan (h [])).1 rfl

/-- What is left open ends in an unpaired backslash at the end of the sheet only. -/
theorem EndsOpen.eq_nil_of_endsLoose (h : EndsOpen text rest) (hloose : EndsLoose text) :
    rest = [] := by
  rcases h with ⟨rfl, -⟩ | ⟨more, -, hstops⟩
  · rfl
  · exact absurd hloose hstops.not_endsLoose

/-- Whether a scan of the text takes along the character behind it. -/
def TakesNext (text : Text) : Prop := scan endsHead 0 text = .length (text.length + 1)

instance (text : Text) : Decidable (TakesNext text) :=
  inferInstanceAs (Decidable (scan endsHead 0 text = .length (text.length + 1)))

theorem TakesNext.endsLoose (h : TakesNext text) : EndsLoose text := by
  rw [TakesNext, ← List.append_nil text] at h
  exact ((endsLoose_of_scan h).2 rfl (by simp)).2

/-! ## Where the texts of a tree end -/

/-- Whether a text begins with what a text is cut at whether or not it is escaped. -/
def BeginsBlankOrColon (text : Text) : Prop :=
  text.head?.any (fun c => Text.isBlank c || c == ':') = true

instance (text : Text) : Decidable (BeginsBlankOrColon text) :=
  inferInstanceAs (Decidable (_ = true))

theorem beginsBlankOrColon_of_isBlank (hc : Text.isBlank c = true) (text : Text) :
    BeginsBlankOrColon (c :: text) := by
  simp [BeginsBlankOrColon, hc]

/-- The place in a style text where a text of the tree ends. -/
structure Cut where
  /-- What has been scanned up to there. -/
  scanned : Text
  /-- The text of the tree, which is the end of this. -/
  part : Text
  /-- All that stands behind it in the style text. -/
  tail : Text

namespace Cut

variable {cut : Cut}

/-- Whether the blanks that were split off do not begin inside an escape, and the text of
the tree ends in an unpaired backslash only where the style text ends. -/
def KeepsEscape (cut : Cut) : Prop :=
  (leading cut.tail ≠ [] → ¬ TakesNext cut.scanned) ∧ (EndsLoose cut.part → cut.tail = [])

instance (cut : Cut) : Decidable cut.KeepsEscape :=
  inferInstanceAs (Decidable (_ ∧ _))

/-- Whether the cut goes through an escaped blank or an escaped colon. -/
def SplitsEscape (cut : Cut) : Prop := EndsLoose cut.scanned ∧ BeginsBlankOrColon cut.tail

instance (cut : Cut) : Decidable cut.SplitsEscape :=
  inferInstanceAs (Decidable (_ ∧ _))

/-- What the scanner sees to: behind an unpaired backslash stands nothing, or what it does
not look at. -/
theorem keepsEscape_iff (hpart : EndsLoose cut.part ↔ EndsLoose cut.scanned)
    (htail : EndsLoose cut.scanned → cut.tail = [] ∨ BeginsBlankOrColon cut.tail) :
    cut.KeepsEscape ↔ ¬ cut.SplitsEscape := by
  constructor
  · rintro ⟨-, hkeeps⟩ ⟨hloose, hbegins⟩
    rw [hkeeps (hpart.mpr hloose)] at hbegins
    cases hbegins
  · intro hsplits
    have hnone (hloose : EndsLoose cut.scanned) : cut.tail = [] :=
      (htail hloose).resolve_right fun hbegins => hsplits ⟨hloose, hbegins⟩
    refine ⟨fun hblanks htakes => hblanks ?_, fun hloose => hnone (hpart.mp hloose)⟩
    rw [hnone htakes.endsLoose]
    rfl

end Cut

/-- The places where the texts of a piece end, in front of the given text. -/
def Piece.cuts (behind : Text) : Piece → List Cut
  | .opening (.rule _ selector between) => [⟨selector, selector, between ++ '\x7b' :: behind⟩]
  | .opening (.atRule _ _ params between) => [⟨params, params, between ++ '\x7b' :: behind⟩]
  | .leaf (.atStatement _ _ params between semicolon) =>
      [⟨params, params, between ++ (semicolonText semicolon ++ behind)⟩]
  | .leaf (.declaration d) =>
      let tail := semicolonText d.semicolon ++ behind
      [⟨d.prop, d.prop, d.between ++ (d.value ++ tail)⟩, ⟨declarationText d, d.value, tail⟩]
  | .leaf (.raw _ text semicolon) => [⟨text, text, semicolonText semicolon ++ behind⟩]
  | _ => []

/-- The places where the texts of pieces end, in front of the blanks at the end. -/
def cutsOf (after : Text) : List Piece → List Cut
  | [] => []
  | p :: ps => p.cuts (renderPieces ps ++ after) ++ cutsOf after ps

/-- The places where the texts of a sheet end: those of its selectors, of the parameters of
its at-rules, of properties, values and what is neither, in all blocks. -/
def cuts (sheet : Stylesheet) : List Cut := cutsOf sheet.after (flatten sheet.nodes)

variable {cut : Cut}

/-- A cut shows what stands in front of it and behind it. -/
theorem suffix_of_mem_cuts (hcut : cut ∈ p.cuts rest) :
    cut.scanned ++ cut.tail <:+ p.render ++ rest ∧ cut.part <:+ cut.scanned := by
  cases p with
  | closing => cases hcut
  | opening head =>
      cases head with
      | rule before selector between =>
          obtain rfl := List.mem_singleton.mp hcut
          exact ⟨⟨before, by simp [Piece.render, Head.render]⟩, List.suffix_rfl⟩
      | atRule before name params between =>
          obtain rfl := List.mem_singleton.mp hcut
          exact ⟨⟨before ++ '@' :: name, by simp [Piece.render, Head.render]⟩, List.suffix_rfl⟩
  | leaf node =>
      cases node with
      | declaration d =>
          simp only [Piece.cuts, List.mem_cons, List.not_mem_nil, or_false] at hcut
          rcases hcut with rfl | rfl
          · exact ⟨⟨d.before, by simp [Piece.render, Node.render, renderDeclaration]⟩,
              List.suffix_rfl⟩
          · refine ⟨⟨d.before, ?_⟩, ⟨d.prop ++ d.between, by simp [declarationText]⟩⟩
            simp [Piece.render, Node.render, renderDeclaration, declarationText]
      | raw before text semicolon =>
          obtain rfl := List.mem_singleton.mp hcut
          exact ⟨⟨before, by simp [Piece.render, Node.render]⟩, List.suffix_rfl⟩
      | atStatement before name params between semicolon =>
          obtain rfl := List.mem_singleton.mp hcut
          exact ⟨⟨before ++ '@' :: name, by simp [Piece.render, Node.render]⟩, List.suffix_rfl⟩
      | comment | rule | atBlock => cases hcut

/-! ## Reading -/

/-- If the whole text ends in an unpaired backslash only at the end of the sheet, then the
trimmed one does only there or in front of a blank. -/
theorem eq_nil_or_begins_of_trimEnd (hends : EndsLoose text → more = [])
    (hloose : EndsLoose (trimEnd text)) :
    trailing text ++ more = [] ∨ BeginsBlankOrColon (trailing text ++ more) := by
  cases htrailing : trailing text with
  | nil =>
      rw [Text.trimEnd_eq_self htrailing] at hloose
      exact Or.inl (hends hloose)
  | cons c blanks =>
      have hmem : c ∈ trailing text := by rw [htrailing]; exact List.mem_cons_self
      exact Or.inr (beginsBlankOrColon_of_isBlank (Text.isBlank_of_mem_trailing hmem) _)

theorem endsLoose_declarationText_iff {d : Declaration} (hcut : IsCut d) :
    EndsLoose (declarationText d) ↔ EndsLoose d.value := by
  obtain ⟨blanks, blanks', -, hblanks', hbetween⟩ := hcut.between
  have hfront : ¬ EndsLoose (d.prop ++ d.between) := by
    rw [hbetween]
    cases blanks' using List.reverseRecOn with
    | nil =>
        rw [← List.append_assoc]
        exact not_endsLoose_concat (by decide) _
    | append_singleton blanks' c =>
        have hblank := hblanks' c (by simp)
        have hc : c ≠ '\\' := by
          rintro rfl
          exact absurd hblank (by decide)
        rw [← List.cons_append, ← List.append_assoc, ← List.append_assoc]
        exact not_endsLoose_concat hc _
  rw [declarationText, ← List.append_assoc, endsLoose_append_iff hfront]

theorem statement_cases (before text : Text) (semicolon : Bool) :
    statement before text semicolon = .raw before text semicolon ∨
      ∃ d, statement before text semicolon = .declaration d := by
  rw [statement]
  split
  · exact Or.inl rfl
  · exact Or.inr ⟨_, rfl⟩

/-- A statement without a block is cut behind its text and, if it is a declaration, behind
its property. -/
theorem cut_statement_cases {before : Text} {semicolon : Bool} (hbefore : AllBlank before)
    (hcut : cut ∈ (Piece.leaf (statement before text semicolon)).cuts rest) :
    (cut.part = cut.scanned ∧ BeginsBlankOrColon cut.tail) ∨
      (cut.scanned = text ∧ (EndsLoose cut.part ↔ EndsLoose text) ∧
        cut.tail = semicolonText semicolon ++ rest) := by
  rcases statement_cases before text semicolon with hraw | ⟨d, hd⟩
  · rw [hraw] at hcut
    obtain rfl := List.mem_singleton.mp hcut
    exact Or.inr ⟨rfl, Iff.rfl, rfl⟩
  · obtain ⟨hparts, rfl, rfl⟩ := isCut_of_statement hbefore hd
    rw [hd] at hcut
    simp only [Piece.cuts, List.mem_cons, List.not_mem_nil, or_false] at hcut
    rcases hcut with rfl | rfl
    · refine Or.inl ⟨rfl, ?_⟩
      obtain ⟨blanks, blanks', hblanks, -, hbetween⟩ := hparts.between
      dsimp only
      rw [hbetween]
      cases blanks with
      | nil => rfl
      | cons c blanks => exact beginsBlankOrColon_of_isBlank (hblanks c List.mem_cons_self) _
    · exact Or.inr ⟨rfl, (endsLoose_declarationText_iff hparts).symm, rfl⟩

theorem Cut.keepsEscape_iff_of_stands (h : Stands p rest) (hcut : cut ∈ p.cuts rest) :
    cut.KeepsEscape ↔ ¬ cut.SplitsEscape := by
  cases h with
  | closing | comment => cases hcut
  | stray =>
      obtain rfl := List.mem_singleton.mp hcut
      exact keepsEscape_iff Iff.rfl fun hloose => absurd hloose not_endsLoose_nil
  | atBlock _ _ _ hstops | rule _ _ hstops | atStatement _ _ _ hstops =>
      obtain rfl := List.mem_singleton.mp hcut
      exact keepsEscape_iff Iff.rfl (eq_nil_or_begins_of_trimEnd fun hloose =>
        absurd hloose hstops.not_endsLoose)
  | atOpen _ _ _ hopen =>
      obtain rfl := List.mem_singleton.mp hcut
      exact keepsEscape_iff Iff.rfl (eq_nil_or_begins_of_trimEnd hopen.eq_nil_of_endsLoose)
  | statement hbefore _ hstops =>
      rcases cut_statement_cases hbefore hcut with ⟨hpart, hbegins⟩ | ⟨hscanned, hpart, -⟩
      · exact keepsEscape_iff (by rw [hpart]) fun _ => Or.inr hbegins
      · rw [← hscanned] at hpart hstops
        exact keepsEscape_iff hpart fun hloose => absurd hloose hstops.not_endsLoose
  | @openStatement before text blanks rest hbefore _ htext hblanks hopen =>
      rcases cut_statement_cases hbefore hcut with ⟨hpart, hbegins⟩ | ⟨rfl, hpart, htail⟩
      · exact keepsEscape_iff (by rw [hpart]) fun _ => Or.inr hbegins
      · have htrim : trimEnd (cut.scanned ++ blanks) = cut.scanned := by
          rw [Text.trimEnd_append hblanks, Text.trimEnd_eq_self htext]
        have htrailing : trailing (cut.scanned ++ blanks) = blanks := by
          rw [Text.trailing_append hblanks, htext, List.nil_append]
        have hcases := eq_nil_or_begins_of_trimEnd hopen.eq_nil_of_endsLoose
        rw [htrim, htrailing] at hcases
        exact keepsEscape_iff hpart (by rwa [htail])

theorem keepsEscape_iff_of_legible (h : Legible ps after) (hcut : cut ∈ cutsOf after ps) :
    cut.scanned ++ cut.tail <:+ renderPieces ps ++ after ∧ cut.part <:+ cut.scanned ∧
      (cut.KeepsEscape ↔ ¬ cut.SplitsEscape) := by
  induction h with
  | done => cases hcut
  | cons hstands _ ih =>
      rw [renderPieces_cons, List.append_assoc]
      rcases List.mem_append.mp hcut with hhere | hlater
      · obtain ⟨hsuffix, hpart⟩ := suffix_of_mem_cuts hhere
        exact ⟨hsuffix, hpart, Cut.keepsEscape_iff_of_stands hstands hhere⟩
      · obtain ⟨hsuffix, hpart, hkeeps⟩ := ih hlater
        exact ⟨hsuffix.trans (List.suffix_append _ _), hpart, hkeeps⟩

/-- Wherever a text of the tree ends, reading keeps escapes whole if and only if the cut
does not go through an escaped blank or an escaped colon. -/
theorem keepsEscape_iff_of_parse (h : parse css = .ok sheet) :
    ∀ cut ∈ sheet.cuts, cut.scanned ++ cut.tail <:+ css ∧ cut.part <:+ cut.scanned ∧
      (cut.KeepsEscape ↔ ¬ cut.SplitsEscape) := by
  obtain ⟨rfl, hlegible⟩ := parse_eq_ok_iff.mp h
  intro cut hcut
  rw [render_eq]
  exact keepsEscape_iff_of_legible hlegible hcut

/-- Escaped blanks inside a selector and in front of a semicolon, escaped backslashes in
front of a brace, and a backslash at the end of the sheet. -/
theorem keepsEscape_of_inner_escapes :
    let css := ".a\\ b\\\\ \x7bc:d\\ ;e:f\\\\ \x7d@import \"g\\\"\" h\\".toList
    let block : List Node :=
      [.declaration ⟨[], ['c'], [':'], "d\\ ".toList, true⟩,
        .declaration ⟨[], ['e'], [':'], "f\\\\".toList, false⟩]
    let sheet : Stylesheet :=
      ⟨[.rule [] ".a\\ b\\\\".toList [' '] block [' '],
        .atStatement [] "import".toList " \"g\\\"\" h\\".toList [] false], []⟩
    parse css = .ok sheet ∧ ∀ cut ∈ sheet.cuts, cut.KeepsEscape := by
  intro css block sheet
  have hparse : parse css = .ok sheet := by with_unfolding_all rfl
  have hsplits : ∀ cut ∈ sheet.cuts, ¬ cut.SplitsEscape := by decide +kernel
  exact ⟨hparse, fun cut hcut =>
    (keepsEscape_iff_of_parse hparse cut hcut).2.2.mpr (hsplits cut hcut)⟩

/-- The blank that a selector ends in is split off, though a scan takes it along with the
backslash in front of it. -/
theorem not_keepsEscape_of_escaped_blank :
    let sheet : Stylesheet := ⟨[.rule [] ".a\\".toList [' '] [] []], []⟩
    parse ".a\\ \x7b\x7d".toList = .ok sheet ∧ TakesNext ".a\\".toList ∧
      EndsLoose ".a\\".toList ∧ ¬ ∀ cut ∈ sheet.cuts, cut.KeepsEscape := by
  intro sheet
  exact ⟨by with_unfolding_all rfl, by decide +kernel, by decide, by decide +kernel⟩

end ComponentCompiler.Stylesheet
