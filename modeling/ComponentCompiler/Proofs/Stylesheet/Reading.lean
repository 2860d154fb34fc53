import ComponentCompiler.Proofs.Stylesheet.RoundTrip
import ComponentCompiler.Proofs.Stylesheet.Stops
import ComponentCompiler.Proofs.Text.Trimming

/-!
# What a piece is read from

A piece is found at the start of a text under conditions on its own text, most of which
do not look at what follows.  Only a last statement without a semicolon has to be
followed by the end of its block or of the sheet.
-/

namespace ComponentCompiler.Stylesheet

open Text (AllBlank leading trimStart trimEnd trailing)

variable {before text name rest s : Text} {c : Char} {p : Piece}

/-- Whether a scan of the text, followed by a character, stops at that character. -/
def StopsAt (text : Text) (c : Char) : Prop :=
  ∀ rest, scan endsHead 0 (text ++ c :: rest) = .length text.length

theorem stopsAt_of_scan (h : scan endsHead 0 (text ++ c :: rest) = .length text.length) :
    StopsAt text c :=
  (scan_replace (by decide) h (Nat.le_refl _)).1

theorem StopsAt.endsHead_eq (h : StopsAt text c) : endsHead c = true :=
  (scan_replace (by decide) (h []) (Nat.le_refl _)).2 rfl

/-- Whether a scan of the text does not stop in it. -/
def RunsThrough (text : Text) : Prop :=
  ∃ n, scan endsHead 0 text = .length n ∧ text.length ≤ n

/-- Whether a statement without a semicolon may stand between these texts: the block
ends, or the sheet. -/
def EndsOpen (text rest : Text) : Prop :=
  (rest = [] ∧ RunsThrough text) ∨ ∃ more, rest = '\x7d' :: more ∧ StopsAt text '\x7d'

/-- Whether a text begins with none of what has a meaning at the start of a piece. -/
def BeginsPlain (s : Text) : Prop :=
  ∃ c tail, s = c :: tail ∧ Text.isBlank c = false ∧ c ≠ '\x7d' ∧ c ≠ ';' ∧ c ≠ '@' ∧
    startsComment s = false

/-- The pieces that a text may begin with, and the rest of the text behind them. -/
inductive Stands : Piece → Text → Prop
  | closing {before rest : Text} (hbefore : AllBlank before) : Stands (.closing before) rest
  | comment {before text rest : Text} (hbefore : AllBlank before)
      (hstart : startsComment (text ++ rest) = true)
      (hlength : commentLength? (text ++ rest) = some text.length) :
      Stands (.leaf (.comment before text)) rest
  | stray {before rest : Text} (hbefore : AllBlank before) :
      Stands (.leaf (.raw before [] true)) rest
  | atBlock {before name text rest : Text} (hbefore : AllBlank before) (hname : name ≠ [])
      (hlength : atNameLength (name ++ (text ++ '\x7b' :: rest)) = name.length)
      (hstops : StopsAt text '\x7b') :
      Stands (.opening (.atRule before name (trimEnd text) (trailing text))) rest
  | atStatement {before name text rest : Text} (hbefore : AllBlank before) (hname : name ≠ [])
      (hlength : atNameLength (name ++ (text ++ ';' :: rest)) = name.length)
      (hstops : StopsAt text ';') :
      Stands (.leaf (.atStatement before name (trimEnd text) (trailing text) true)) rest
  | atOpen {before name text rest : Text} (hbefore : AllBlank before) (hname : name ≠ [])
      (hlength : atNameLength (name ++ (text ++ rest)) = name.length)
      (hopen : EndsOpen text rest) :
      Stands (.leaf (.atStatement before name (trimEnd text) (trailing text) false)) rest
  | rule {before text rest : Text} (hbefore : AllBlank before)
      (hbegins : BeginsPlain (text ++ ['\x7b'])) (hstops : StopsAt text '\x7b') :
      Stands (.opening (.rule before (trimEnd text) (trailing text))) rest
  | statement {before text rest : Text} (hbefore : AllBlank before)
      (hbegins : BeginsPlain (text ++ [';'])) (hstops : StopsAt text ';') :
      Stands (.leaf (statement before text true)) rest
  | openStatement {before text blanks rest : Text} (hbefore : AllBlank before)
      (hbegins : BeginsPlain (text ++ (blanks ++ rest))) (htext : trailing text = [])
      (hblanks : AllBlank blanks) (hopen : EndsOpen (text ++ blanks) rest) :
      Stands (.leaf (Stylesheet.statement before text false)) (blanks ++ rest)

/-! ## From the text to the piece -/

theorem beginsPlain_append_cons (hc : c ≠ '/') :
    BeginsPlain (text ++ c :: rest) ↔ BeginsPlain (text ++ [c]) := by
  have hstart : startsComment (text ++ c :: rest) = startsComment (text ++ [c]) := by
    cases text with
    | nil =>
        rw [List.nil_append, List.nil_append, startsComment_cons, startsComment_cons]
        simp [hc]
    | cons d text =>
        rw [List.cons_append, List.cons_append, startsComment_cons, startsComment_cons]
        cases text <;> rfl
  simp only [BeginsPlain, hstart]
  cases text <;> simp

/-- What a scan that stops at the head of the rest says of the text before it. -/
theorem stopsAt_of_drop {n : Nat} (h : scan endsHead 0 s = .length n)
    (hdrop : s.drop n = c :: rest) : s = s.take n ++ c :: rest ∧ StopsAt (s.take n) c := by
  have hs : s = s.take n ++ c :: rest := by rw [← hdrop, List.take_append_drop]
  have hn : (s.take n).length = n := by
    apply List.length_take_of_le
    have hpos := congrArg List.length hdrop
    rw [List.length_drop, List.length_cons] at hpos
    omega
  have hscan : scan endsHead 0 (s.take n ++ c :: rest) = .length (s.take n).length := by
    rw [← hs, hn, h]
  exact ⟨hs, stopsAt_of_scan hscan⟩

theorem endsOpen_of_scan {n : Nat} (h : scan endsHead 0 s = .length n)
    (hopening : ∀ more, s.drop n ≠ '\x7b' :: more) (hsemicolon : ∀ more, s.drop n ≠ ';' :: more) :
    EndsOpen (s.take n) (s.drop n) := by
  cases hdrop : s.drop n with
  | nil =>
      have hn : s.length ≤ n := List.drop_eq_nil_iff.mp hdrop
      rw [List.take_of_length_le hn]
      exact Or.inl ⟨rfl, n, h, hn⟩
  | cons c more =>
      obtain ⟨-, hstops⟩ := stopsAt_of_drop h hdrop
      have hstop := hstops.endsHead_eq
      simp only [endsHead, Bool.or_eq_true, beq_iff_eq] at hstop
      rcases hstop with (rfl | rfl) | rfl
      · exact absurd hdrop (hopening more)
      · exact absurd hdrop (hsemicolon more)
      · exact Or.inr ⟨more, rfl, hstops⟩

theorem stands_of_plainStep (hbefore : AllBlank before) (hbegins : BeginsPlain s)
    (h : plainStep before s = .piece p rest) : Stands p rest := by
  simp only [plainStep] at h
  split at h
  · cases h
  · rename_i n hscan
    split at h
    · rename_i hdrop
      obtain ⟨rfl, rfl⟩ := Step.piece.inj h
      obtain ⟨hs, hstops⟩ := stopsAt_of_drop hscan hdrop
      rw [hs] at hbegins
      exact .rule hbefore ((beginsPlain_append_cons (by decide)).mp hbegins) hstops
    · rename_i hdrop
      obtain ⟨rfl, rfl⟩ := Step.piece.inj h
      obtain ⟨hs, hstops⟩ := stopsAt_of_drop hscan hdrop
      rw [hs] at hbegins
      exact .statement hbefore ((beginsPlain_append_cons (by decide)).mp hbegins) hstops
    · rename_i hopening hsemicolon
      obtain ⟨rfl, rfl⟩ := Step.piece.inj h
      have hopen := endsOpen_of_scan hscan (fun more hdrop => hopening _ hdrop)
        (fun more hdrop => hsemicolon _ hdrop)
      have hcut := trimEnd_take_append s n
      have hrest : trailing (s.take n) ++ s.drop n = s.drop (trimEnd (s.take n)).length :=
        List.append_cancel_left (hcut.trans (trimEnd_take_append_drop s n).symm)
      rw [← hrest]
      refine .openStatement hbefore (by rwa [hcut]) (Text.trailing_trimEnd _)
        (Text.allBlank_trailing _) ?_
      rwa [Text.trimEnd_append_trailing]

theorem atNameLength_le (s : Text) : atNameLength s ≤ s.length := by
  rw [atNameLength]
  split
  · rename_i c rest hdrop
    have hlength := congrArg List.length hdrop
    have hname := (List.takeWhile_sublist (l := rest) Text.isNameChar).length_le
    rw [List.length_drop, List.length_cons] at hlength
    split <;> omega
  · exact Nat.zero_le _

theorem stands_of_atStep {tail : Text} (hbefore : AllBlank before)
    (h : atStep before ('@' :: tail) = .piece p rest) : Stands p rest := by
  simp only [atStep, Nat.add_comm 1, List.drop_succ_cons, List.drop_zero] at h
  split at h
  · cases h
  · rename_i hname
    have hlength : (tail.take (atNameLength tail)).length = atNameLength tail :=
      List.length_take_of_le (atNameLength_le tail)
    have hne : tail.take (atNameLength tail) ≠ [] := by
      intro hnil
      rw [hnil] at hlength
      exact hname hlength.symm
    have hcut := List.take_append_drop (atNameLength tail) tail
    split at h
    · cases h
    · rename_i n hscan
      split at h
      · rename_i hdrop
        obtain ⟨rfl, rfl⟩ := Step.piece.inj h
        obtain ⟨hbody, hstops⟩ := stopsAt_of_drop hscan hdrop
        exact .atBlock hbefore hne (by rw [← hbody, hcut, hlength]) hstops
      · rename_i hdrop
        obtain ⟨rfl, rfl⟩ := Step.piece.inj h
        obtain ⟨hbody, hstops⟩ := stopsAt_of_drop hscan hdrop
        exact .atStatement hbefore hne (by rw [← hbody, hcut, hlength]) hstops
      · rename_i hopening hsemicolon
        obtain ⟨rfl, rfl⟩ := Step.piece.inj h
        refine .atOpen hbefore hne (by rw [List.take_append_drop, hcut, hlength]) ?_
        exact endsOpen_of_scan hscan (fun more hdrop => hopening _ hdrop)
          (fun more hdrop => hsemicolon _ hdrop)

theorem stands_of_step (h : step s = .piece p rest) : Stands p rest := by
  have hbefore := Text.allBlank_leading s
  rw [step] at h
  split at h
  · cases h
  · rename_i c tail htail
    have hblank : Text.isBlank c = false :=
      Text.isBlank_of_head?_trimStart (s := s) (by rw [htail]; rfl)
    split at h
    · obtain ⟨rfl, rfl⟩ := Step.piece.inj h
      exact .closing hbefore
    · rename_i hclose
      split at h
      · rename_i hcomment
        split at h
        · cases h
        · rename_i n hlength
          obtain ⟨rfl, rfl⟩ := Step.piece.inj h
          have hn : ((c :: tail).take n).length = n :=
            List.length_take_of_le (commentLength?_le hcomment hlength)
          refine .comment hbefore ?_ ?_
          · rwa [List.take_append_drop]
          · rw [List.take_append_drop, hn, hlength]
      · rename_i hcomment
        split at h
        · obtain ⟨rfl, rfl⟩ := Step.piece.inj h
          exact .stray hbefore
        · rename_i hsemicolon
          split at h
          · rename_i hat
            subst hat
            exact stands_of_atStep hbefore h
          · rename_i hat
            have hbegins : BeginsPlain (c :: tail) :=
              ⟨c, tail, rfl, hblank, hclose, hsemicolon, hat, Bool.eq_false_iff.mpr hcomment⟩
            exact stands_of_plainStep hbefore hbegins h

/-! ## From the piece to the text -/

theorem step_append (hbefore : AllBlank before) {tail : Text} (hblank : Text.isBlank c = false) :
    step (before ++ c :: tail) =
      if c = '\x7d' then .piece (.closing before) tail
      else if startsComment (c :: tail) then
        match commentLength? (c :: tail) with
        | none => .fault .unclosedComment before.length
        | some n => .piece (.leaf (.comment before ((c :: tail).take n))) ((c :: tail).drop n)
      else if c = ';' then .piece (.leaf (.raw before [] true)) tail
      else if c = '@' then atStep before (c :: tail)
      else plainStep before (c :: tail) := by
  have hleading : leading (c :: tail) = [] :=
    Text.leading_eq_nil_iff.mpr (by simpa using hblank)
  rewrite [step, Text.leading_append hbefore, hleading, Text.trimStart_append hbefore,
    Text.trimStart_eq_self hleading, List.append_nil]
  rfl

theorem step_of_beginsPlain (hbefore : AllBlank before) (hbegins : BeginsPlain s) :
    step (before ++ s) = plainStep before s := by
  obtain ⟨c, tail, rfl, hblank, hclose, hsemicolon, hat, hstart⟩ := hbegins
  rw [step_append hbefore hblank, if_neg hclose, if_neg (Bool.eq_false_iff.mp hstart),
    if_neg hsemicolon, if_neg hat]

theorem exists_scan_of_endsOpen (h : EndsOpen text rest) :
    (∃ n, scan endsHead 0 (text ++ rest) = .length n ∧ (text ++ rest).take n = text ∧
      (text ++ rest).drop n = rest) ∧
      (∀ more, rest ≠ '\x7b' :: more) ∧ ∀ more, rest ≠ ';' :: more := by
  rcases h with ⟨rfl, n, hscan, hn⟩ | ⟨more, rfl, hstops⟩
  · rw [List.append_nil]
    exact ⟨⟨n, hscan, List.take_of_length_le hn, List.drop_of_length_le hn⟩, by simp, by simp⟩
  · exact ⟨⟨text.length, hstops more, List.take_left, List.drop_left⟩, by simp, by simp⟩

theorem atStep_append (hname : name ≠ []) {body : Text}
    (hlength : atNameLength (name ++ body) = name.length) :
    atStep before ('@' :: (name ++ body)) =
      match scan endsHead 0 body with
      | .unclosedComment n => .fault .unclosedComment (before.length + (name.length + 1) + n)
      | .length n =>
          match body.drop n with
          | '\x7b' :: rest =>
              .piece (.opening (.atRule before name (trimEnd (body.take n))
                (trailing (body.take n)))) rest
          | ';' :: rest =>
              .piece (.leaf (.atStatement before name (trimEnd (body.take n))
                (trailing (body.take n)) true)) rest
          | rest =>
              .piece (.leaf (.atStatement before name (trimEnd (body.take n))
                (trailing (body.take n)) false)) rest := by
  have hpos : ¬ name.length = 0 := mt List.eq_nil_of_length_eq_zero hname
  simp only [atStep, Nat.add_comm 1, List.drop_succ_cons, List.drop_zero, hlength, if_neg hpos,
    List.drop_left]
  rewrite [List.take_left]
  rfl

/-- An at sign decides the kind of the piece. -/
theorem step_at (hbefore : AllBlank before) (s : Text) :
    step (before ++ '@' :: s) = atStep before ('@' :: s) := by
  have hcomment : ¬ startsComment ('@' :: s) = true := by simp [startsComment_cons]
  rw [step_append hbefore (by decide), if_neg (by decide), if_neg hcomment, if_neg (by decide),
    if_pos rfl]

/-- Blanks behind an open statement are left to what follows. -/
theorem step_openStatement {blanks more : Text} (hbefore : AllBlank before)
    (hbegins : BeginsPlain (text ++ (blanks ++ more))) (htext : trailing text = [])
    (hblanks : AllBlank blanks) (hopen : EndsOpen (text ++ blanks) more) :
    step ((Piece.leaf (statement before text false)).render ++ (blanks ++ more)) =
      .piece (.leaf (statement before text false)) (blanks ++ more) := by
  have hrender : (Piece.leaf (statement before text false)).render ++ (blanks ++ more) =
      before ++ (text ++ (blanks ++ more)) := by
    simp [Piece.render, render_statement, semicolonText]
  obtain ⟨⟨n, hscan, htake, hdrop⟩, hopening, hsemicolon⟩ := exists_scan_of_endsOpen hopen
  have htrim : trimEnd (text ++ blanks) = text := by
    rw [Text.trimEnd_append hblanks, Text.trimEnd_eq_self htext]
  rw [hrender, step_of_beginsPlain hbefore hbegins, plainStep, ← List.append_assoc, hscan]
  dsimp only
  rw [hdrop, htake, htrim]
  split
  · exact absurd rfl (hopening _)
  · exact absurd rfl (hsemicolon _)
  · rw [List.append_assoc, List.drop_left]

/-- Each piece is found in front of a text that it may stand before. -/
theorem step_of_stands (h : Stands p rest) : step (p.render ++ rest) = .piece p rest := by
  cases h with
  | closing hbefore =>
      rw [Piece.render, List.append_assoc, List.singleton_append, step_append hbefore (by decide),
        if_pos rfl]
  | @comment before text _ hbefore hstart hlength =>
      have hrender : (Piece.leaf (.comment before text)).render ++ rest =
          before ++ (text ++ rest) := by
        simp [Piece.render, Node.render]
      obtain ⟨tail, htext⟩ := List.isPrefixOf_iff_prefix.mp hstart
      replace htext : text ++ rest = '/' :: ('*' :: tail) := htext.symm
      rw [hrender, htext, step_append hbefore (by decide), if_neg (by decide), ← htext,
        if_pos hstart, hlength]
      dsimp only
      rw [List.take_left, List.drop_left]
  | stray hbefore =>
      rw [Piece.render, Node.render, semicolonText, if_pos rfl, List.append_nil, List.append_assoc,
        List.singleton_append, step_append hbefore (by decide), if_neg (by decide),
        startsComment_cons, if_neg (by simp), if_pos rfl]
  | @atBlock before name text _ hbefore hname hlength hstops =>
      have hrender : (Piece.opening (.atRule before name (trimEnd text) (trailing text))).render ++
          rest = before ++ '@' :: (name ++ (text ++ '\x7b' :: rest)) := by
        simp [Piece.render, Head.render]
      rw [hrender, step_at hbefore, atStep_append hname hlength, hstops]
      simp
  | @atStatement before name text _ hbefore hname hlength hstops =>
      have hrender : (Piece.leaf (.atStatement before name (trimEnd text) (trailing text)
          true)).render ++ rest = before ++ '@' :: (name ++ (text ++ ';' :: rest)) := by
        simp [Piece.render, Node.render, semicolonText]
      rw [hrender, step_at hbefore, atStep_append hname hlength, hstops]
      simp
  | @atOpen before name text _ hbefore hname hlength hopen =>
      have hrender : (Piece.leaf (.atStatement before name (trimEnd text) (trailing text)
          false)).render ++ rest = before ++ '@' :: (name ++ (text ++ rest)) := by
        simp [Piece.render, Node.render, semicolonText]
      obtain ⟨⟨n, hscan, htake, hdrop⟩, hopening, hsemicolon⟩ := exists_scan_of_endsOpen hopen
      rw [hrender, step_at hbefore, atStep_append hname hlength, hscan]
      dsimp only
      rw [hdrop, htake]
      split
      · exact absurd rfl (hopening _)
      · exact absurd rfl (hsemicolon _)
      · rfl
  | @rule before text _ hbefore hbegins hstops =>
      have hrender : (Piece.opening (.rule before (trimEnd text) (trailing text))).render ++ rest =
          before ++ (text ++ '\x7b' :: rest) := by
        simp [Piece.render, Head.render]
      rw [hrender, step_of_beginsPlain hbefore ((beginsPlain_append_cons (by decide)).mpr hbegins),
        plainStep, hstops]
      simp
  | @statement before text _ hbefore hbegins hstops =>
      have hrender : (Piece.leaf (statement before text true)).render ++ rest =
          before ++ (text ++ ';' :: rest) := by
        simp [Piece.render, render_statement, semicolonText]
      rw [hrender, step_of_beginsPlain hbefore ((beginsPlain_append_cons (by decide)).mpr hbegins),
        plainStep, hstops]
      simp
  | openStatement hbefore hbegins htext hblanks hopen =>
      exact step_openStatement hbefore hbegins htext hblanks hopen

/-! ## Another text behind the piece -/

/-- Whether a piece is a statement without its semicolon, which only the end of its
block ends. -/
def Piece.IsOpen : Piece → Prop
  | .leaf (.declaration d) => d.semicolon = false
  | .leaf (.raw _ _ semicolon) => semicolon = false
  | .leaf (.atStatement _ _ _ _ semicolon) => semicolon = false
  | _ => False

/-- Two texts that are the same or the same up to the end of a block. -/
def AgreesToClosing (rest rest' : Text) : Prop :=
  rest = rest' ∨ ∃ before more more', AllBlank before ∧
    rest = before ++ '\x7d' :: more ∧ rest' = before ++ '\x7d' :: more'

theorem isOpen_statement (before text : Text) (semicolon : Bool) :
    (Piece.leaf (statement before text semicolon)).IsOpen ↔ semicolon = false := by
  rw [statement]
  split <;> rfl

theorem length_takeWhile_replace {α : Type} {q : α → Bool} {run rest rest' : List α}
    (h : ((run ++ rest).takeWhile q).length = run.length) (hhead : rest'.head? = rest.head?) :
    ((run ++ rest').takeWhile q).length = run.length := by
  induction run with
  | nil =>
      cases rest with
      | nil => simp [List.head?_eq_none_iff.mp hhead]
      | cons a rest =>
          obtain ⟨more, rfl⟩ := List.head?_eq_some_iff.mp hhead
          rw [List.nil_append, List.takeWhile_cons] at h ⊢
          split at h
          · simp at h
          · rename_i ha
            simp [ha]
  | cons a run ih =>
      rw [List.cons_append, List.takeWhile_cons] at h ⊢
      split at h
      · rename_i ha
        rw [if_pos ha, List.length_cons, ih (Nat.succ.inj h), List.length_cons]
      · simp at h

theorem atNameLength_cons (hhyphen : c ≠ '-') (s : Text) :
    atNameLength (c :: s) =
      if c.isAlpha || c == '_' then 1 + (s.takeWhile Text.isNameChar).length else 0 := by
  simp [atNameLength, hhyphen]

theorem atNameLength_hyphen_cons (c : Char) (s : Text) :
    atNameLength ('-' :: c :: s) =
      if c.isAlpha || c == '_' then 2 + (s.takeWhile Text.isNameChar).length else 0 := rfl

/-- The name of an at-rule ends at the next character, whatever follows that one. -/
theorem atNameLength_replace {rest' : Text} (hname : name ≠ [])
    (h : atNameLength (name ++ rest) = name.length) (hhead : rest'.head? = rest.head?) :
    atNameLength (name ++ rest') = name.length := by
  obtain ⟨c, name, rfl⟩ := List.exists_cons_of_ne_nil hname
  by_cases hhyphen : c = '-'
  · subst hhyphen
    cases name with
    | nil =>
        cases rest with
        | nil => cases h
        | cons c rest =>
            rw [List.singleton_append, atNameLength_hyphen_cons, List.length_singleton] at h
            split at h <;> omega
    | cons c name =>
        simp only [List.cons_append, atNameLength_hyphen_cons, List.length_cons] at h ⊢
        split at h
        · rename_i hletter
          rw [if_pos hletter, length_takeWhile_replace (by omega) hhead]
          omega
        · cases h
  · rw [List.cons_append, atNameLength_cons hhyphen, List.length_cons] at h ⊢
    split at h
    · rename_i hletter
      rw [if_pos hletter, length_takeWhile_replace (by omega) hhead]
      omega
    · cases h

theorem head?_append_cons (text : Text) (c : Char) (rest rest' : Text) :
    (text ++ c :: rest').head? = (text ++ c :: rest).head? := by
  cases text <;> rfl

/-- The blanks in front of a closing brace are told apart from it. -/
theorem append_closing_inj {blanks more more' : Text} (hblanks : AllBlank blanks)
    (hbefore : AllBlank before) (h : blanks ++ '\x7d' :: more = before ++ '\x7d' :: more') :
    blanks = before ∧ more = more' := by
  have hnone : ∀ rest : Text, leading ('\x7d' :: rest) = [] := fun rest => by
    rw [Text.leading_eq_nil_iff]
    simp [Text.isBlank]
  have hleading := congrArg leading h
  rw [Text.leading_append hblanks, Text.leading_append hbefore, hnone, hnone, List.append_nil,
    List.append_nil] at hleading
  subst hleading
  exact ⟨rfl, (List.cons.inj (List.append_cancel_left h)).2⟩

theorem EndsOpen.replace {blanks rest' : Text} (h : EndsOpen text rest) (hblanks : AllBlank blanks)
    (hrest : AgreesToClosing (blanks ++ rest) rest') :
    ∃ more, rest' = blanks ++ more ∧ EndsOpen text more ∧
      ∀ front : Text, (front ++ more).head? = (front ++ rest).head? ∧
        (BeginsPlain (front ++ rest) → BeginsPlain (front ++ more)) := by
  rcases hrest with rfl | ⟨before, more, more', hbefore, hsplit, rfl⟩
  · exact ⟨rest, rfl, h, fun _ => ⟨rfl, id⟩⟩
  · rcases h with ⟨rfl, _⟩ | ⟨other, rfl, hstops⟩
    · rw [List.append_nil] at hsplit
      have hblank := hblanks '\x7d' (by rw [hsplit]; simp)
      exact absurd hblank (by decide)
    · obtain ⟨rfl, rfl⟩ := append_closing_inj hblanks hbefore hsplit
      refine ⟨_, rfl, Or.inr ⟨more', rfl, hstops⟩, fun front =>
        ⟨head?_append_cons _ _ _ _, fun hbegins => ?_⟩⟩
      rw [beginsPlain_append_cons (by decide)] at hbegins ⊢
      exact hbegins

theorem commentLength?_append_replace (h : commentLength? (text ++ rest) = some text.length)
    (rest' : Text) :
    commentLength? (text ++ rest') = some text.length ∧
      startsComment (text ++ rest') = startsComment (text ++ rest) := by
  obtain ⟨m, hm, hlength⟩ := Option.map_eq_some_iff.mp h
  match text with
  | [] => cases hlength
  | [c] => cases hlength
  | c :: d :: text =>
      obtain rfl : m = text.length := Nat.add_right_cancel hlength
      refine ⟨?_, by simp only [List.cons_append, startsComment_cons, List.head?_cons]⟩
      have hend := (Text.selfDelimiting_endOfFirst? _).replace hm rest'
      exact congrArg (Option.map (· + 2)) hend

/-- What follows a piece may be replaced, for an open statement from the end of its
block on. -/
theorem Stands.replace {rest' : Text} (h : Stands p rest)
    (hrest : p.IsOpen → AgreesToClosing rest rest') : Stands p rest' := by
  cases h with
  | closing hbefore => exact .closing hbefore
  | comment hbefore hstart hlength =>
      obtain ⟨hlength', hstart'⟩ := commentLength?_append_replace hlength rest'
      exact .comment hbefore (hstart'.trans hstart) hlength'
  | stray hbefore => exact .stray hbefore
  | atBlock hbefore hname hlength hstops =>
      exact .atBlock hbefore hname
        (atNameLength_replace hname hlength (head?_append_cons _ _ _ _)) hstops
  | atStatement hbefore hname hlength hstops =>
      exact .atStatement hbefore hname
        (atNameLength_replace hname hlength (head?_append_cons _ _ _ _)) hstops
  | @atOpen before name text _ hbefore hname hlength hopen =>
      have hnone : AllBlank [] := fun _ hc => absurd hc List.not_mem_nil
      obtain ⟨more, rfl, hopen', hmore⟩ := hopen.replace hnone (hrest rfl)
      exact .atOpen hbefore hname (atNameLength_replace hname hlength (hmore text).1) hopen'
  | rule hbefore hbegins hstops => exact .rule hbefore hbegins hstops
  | statement hbefore hbegins hstops => exact .statement hbefore hbegins hstops
  | openStatement hbefore hbegins htext hblanks hopen =>
      have hagrees := hrest ((isOpen_statement _ _ _).mpr rfl)
      obtain ⟨more, rfl, hopen', hmore⟩ := hopen.replace hblanks hagrees
      rw [← List.append_assoc] at hbegins
      exact .openStatement hbefore (by rw [← List.append_assoc]; exact (hmore _).2 hbegins) htext
        hblanks hopen'

/-- An open statement has nothing but blanks behind it up to the end of its block or of
the sheet. -/
theorem Stands.closing_of_isOpen (h : Stands p rest) (hopen : p.IsOpen) :
    AllBlank rest ∨ ∃ before more, AllBlank before ∧ rest = before ++ '\x7d' :: more := by
  have hnone : AllBlank [] := fun _ hc => absurd hc List.not_mem_nil
  cases h with
  | atOpen _ _ _ hends =>
      rcases hends with ⟨rfl, _⟩ | ⟨more, rfl, _⟩
      · exact Or.inl hnone
      · exact Or.inr ⟨[], more, hnone, rfl⟩
  | openStatement _ _ _ hblanks hends =>
      rcases hends with ⟨rfl, _⟩ | ⟨more, rfl, _⟩
      · exact Or.inl (by rwa [List.append_nil])
      · exact Or.inr ⟨_, more, hblanks, rfl⟩
  | statement => cases (isOpen_statement _ _ _).mp hopen
  | closing | comment | stray | atBlock | atStatement | rule => cases hopen

end ComponentCompiler.Stylesheet
