import ComponentCompiler.Proofs.Text.SelfDelimiting
import ComponentCompiler.Stylesheet.Scan

/-!
# Where a scan stops

A scan goes from one unit to the next: an escape, a string, a comment, or a character on
its own.  So it has seen nothing of what follows the character that it stops at, which
may be replaced, and a text in front that holds nothing special only moves the stop.
-/

namespace ComponentCompiler.Stylesheet

open Text (apostrophe)

variable {stop : Char → Bool} {depth n : Nat} {quote c : Char} {s t rest : Text}

/-! ## Strings -/

theorem stringTailLength_cons (hescape : c ≠ '\\') :
    stringTailLength quote (c :: s) =
      if c = quote then 1 else if c = '\n' then 0 else stringTailLength quote s + 1 := by
  rw [stringTailLength]
  · exact fun h => absurd h hescape
  · exact fun _ _ h => absurd h hescape

/-- The patterns for a backslash come first, so that it is none of the later characters. -/
theorem ne_backslash_of_cases (hlast : c = '\\' → rest = [] → False)
    (hmore : ∀ d tail, c = '\\' → rest = d :: tail → False) : c ≠ '\\' := by
  rintro rfl
  cases rest with
  | nil => exact hlast rfl rfl
  | cons d tail => exact hmore d tail rfl rfl

theorem two_le_stringTailLength (quote : Char) (s : Text) :
    2 ≤ stringTailLength quote ('\\' :: s) := by
  cases s with
  | nil => exact Nat.le_refl 2
  | cons c rest => exact Nat.le_add_left 2 _

/-- A string that ends before a character, or at a line feed in its place, ends there
whatever follows that character. -/
theorem stringTailLength_replace (h : stringTailLength quote (t ++ c :: rest) ≤ t.length)
    (rest' : Text) :
    stringTailLength quote (t ++ c :: rest') = stringTailLength quote (t ++ c :: rest) := by
  induction hlength : t.length using Nat.strongRecOn generalizing t with
  | ind length ih =>
      cases t with
      | nil =>
          rw [List.nil_append] at h ⊢
          by_cases hescape : c = '\\'
          · subst hescape
            exact absurd (Nat.le_trans (two_le_stringTailLength quote rest) h) (by simp)
          · rw [stringTailLength_cons hescape] at h
            rw [List.nil_append, stringTailLength_cons hescape, stringTailLength_cons hescape]
            split at h
            · exact absurd h (by simp)
            · rename_i hquote
              split at h
              · rename_i hfeed
                rw [if_neg hquote, if_pos hfeed, if_neg hquote, if_pos hfeed]
              · exact absurd h (by simp)
      | cons d t =>
          subst hlength
          rw [List.cons_append] at h ⊢
          rw [List.cons_append]
          by_cases hescape : d = '\\'
          · subst hescape
            cases t with
            | nil => exact absurd (Nat.le_trans (two_le_stringTailLength quote _) h) (by simp)
            | cons e t =>
                have hinner := Nat.add_le_add_iff_right.mp h
                have hshorter : t.length < t.length + 2 := Nat.lt_add_of_pos_right Nat.two_pos
                exact congrArg (· + 2) (ih t.length hshorter hinner rfl)
          · rw [stringTailLength_cons hescape] at h
            rw [stringTailLength_cons hescape, stringTailLength_cons hescape]
            split
            · rfl
            · rename_i hquote
              rw [if_neg hquote] at h
              split
              · rfl
              · rename_i hfeed
                rw [if_neg hfeed] at h
                have hinner := Nat.add_le_add_iff_right.mp h
                exact congrArg (· + 1) (ih t.length (Nat.lt_succ_self _) hinner rfl)

/-! ## Comments -/

theorem startsComment_cons (c : Char) (s : Text) :
    startsComment (c :: s) = (c == '/' && s.head? == some '*') := by
  cases s <;> simp [startsComment, List.isPrefixOf, BEq.comm]

theorem startsComment_replace (d : Char) (t : Text) (c : Char) (rest rest' : Text) :
    startsComment (d :: (t ++ c :: rest')) = startsComment (d :: (t ++ c :: rest)) := by
  rw [startsComment_cons, startsComment_cons]
  cases t <;> rfl

theorem commentLength?_le (hcomment : startsComment s = true)
    (hlength : commentLength? s = some n) : n ≤ s.length := by
  obtain ⟨m, hm, rfl⟩ := Option.map_eq_some_iff.mp hlength
  have hend := (Text.selfDelimiting_endOfFirst? _).le_length hm
  have htwo := (List.isPrefixOf_iff_prefix.mp hcomment).length_le
  rw [List.length_drop] at hend
  simp only [List.length_cons, List.length_nil] at htwo
  omega

/-- A comment that ends before a character ends there whatever follows. -/
theorem commentLength?_replace {d : Char}
    (hlength : commentLength? (d :: (t ++ c :: rest)) = some n) (hn : n ≤ t.length + 1)
    (rest' : Text) : commentLength? (d :: (t ++ c :: rest')) = some n := by
  obtain ⟨m, hm, rfl⟩ := Option.map_eq_some_iff.mp hlength
  cases t with
  | nil => exact absurd hn (by simp)
  | cons e t =>
      have hend : m ≤ t.length := by
        rw [List.length_cons] at hn
        omega
      have hfound := (Text.selfDelimiting_endOfFirst? _).replace_of_le hm hend (c :: rest')
      exact congrArg (Option.map (· + 2)) hfound

/-! ## The units of a scan -/

/-- What a scan finds at a character. -/
inductive ScanUnit
  /-- It stops there. -/
  | stop
  /-- A comment that is not closed begins there. -/
  | unclosed
  /-- It passes so many characters behind this one and goes on at the depth. -/
  | pass (length depth : Nat)

/-- What a scan finds at the first character of a text. -/
def unitAt (stop : Char → Bool) (depth : Nat) (c : Char) (rest : Text) : ScanUnit :=
  if c = '\\' then .pass 1 depth
  else if c = '"' ∨ c = apostrophe then .pass (stringTailLength c rest) depth
  else if startsComment (c :: rest) then
    match commentLength? (c :: rest) with
    | none => .unclosed
    | some n => .pass (n - 1) depth
  else if c = '(' ∨ c = '[' then .pass 0 (depth + 1)
  else if c = ')' ∨ c = ']' then .pass 0 (depth - 1)
  else if depth = 0 ∧ stop c then .stop
  else .pass 0 depth

/-- A scan goes from one unit to the next. -/
theorem scan_cons (stop : Char → Bool) (depth : Nat) (c : Char) (rest : Text) :
    scan stop depth (c :: rest) =
      match unitAt stop depth c rest with
      | .stop => .length 0
      | .unclosed => .unclosedComment 0
      | .pass n depth' => (scan stop depth' (rest.drop n)).shift (n + 1) := by
  rw [scan, unitAt]
  split
  · rfl
  · split
    · rfl
    · split
      · cases hlength : commentLength? (c :: rest) with
        | none => rfl
        | some n =>
            dsimp only
            rw [Nat.sub_add_cancel (commentLength?_pos hlength)]
      · split
        · rfl
        · split
          · rfl
          · split <;> rfl

theorem Scan.exists_of_shift_eq_length {r : Scan} {k : Nat} (h : r.shift k = .length n) :
    ∃ m, r = .length m ∧ n = m + k := by
  cases r with
  | length m => exact ⟨m, rfl, (Scan.length.inj h).symm⟩
  | unclosedComment m => cases h

/-- A unit that ends before a character is found whatever follows that character. -/
theorem unitAt_replace {d : Char} {k depth' : Nat}
    (h : unitAt stop depth d (t ++ c :: rest) = .pass k depth') (hk : k ≤ t.length)
    (rest' : Text) : unitAt stop depth d (t ++ c :: rest') = .pass k depth' := by
  rw [unitAt] at h ⊢
  rw [startsComment_replace d t c rest rest']
  split at h
  · rename_i hescape
    rw [if_pos hescape, h]
  · rename_i hescape
    rw [if_neg hescape]
    split at h
    · rename_i hquote
      obtain ⟨rfl, rfl⟩ := ScanUnit.pass.inj h
      rw [if_pos hquote, stringTailLength_replace hk]
    · rename_i hquote
      rw [if_neg hquote]
      split at h
      · rename_i hcomment
        rw [if_pos hcomment]
        cases hlength : commentLength? (d :: (t ++ c :: rest)) with
        | none =>
            rw [hlength] at h
            cases h
        | some n =>
            rw [hlength] at h
            obtain ⟨rfl, rfl⟩ := ScanUnit.pass.inj h
            rw [commentLength?_replace hlength (by omega)]
      · rename_i hcomment
        rw [if_neg hcomment, h]

theorem unitAt_stop_replace {d : Char} (h : unitAt stop depth d (t ++ c :: rest) = .stop)
    (rest' : Text) : unitAt stop depth d (t ++ c :: rest') = .stop := by
  rw [unitAt] at h ⊢
  rw [startsComment_replace d t c rest rest']
  split at h
  · cases h
  · rename_i hescape
    split at h
    · cases h
    · rename_i hquote
      split at h
      · split at h <;> cases h
      · rename_i hcomment
        rw [if_neg hescape, if_neg hquote, if_neg hcomment, h]

/-- A scan stops at a stop, whatever follows it. -/
theorem unitAt_of_stop (hslash : stop '/' = false) (h : unitAt stop depth c rest = .stop) :
    stop c = true ∧ ∀ rest', unitAt stop depth c rest' = .stop := by
  rw [unitAt] at h
  split at h
  · cases h
  · rename_i hescape
    split at h
    · cases h
    · rename_i hquote
      split at h
      · split at h <;> cases h
      · split at h
        · cases h
        · rename_i hopening
          split at h
          · cases h
          · rename_i hclosing
            split at h
            · rename_i hstop
              refine ⟨hstop.2, fun rest' => ?_⟩
              have hother : c ≠ '/' := by
                rintro rfl
                exact absurd hstop.2 (by simp [hslash])
              have hcomment : ¬ startsComment (c :: rest') = true := by
                simp [startsComment_cons, hother]
              rw [unitAt, if_neg hescape, if_neg hquote, if_neg hcomment, if_neg hopening,
                if_neg hclosing, if_pos hstop]
            · cases h

/-! ## Another text behind the stop -/

theorem drop_append_cons {k : Nat} (hk : k ≤ t.length) (c : Char) (rest : Text) :
    (t ++ c :: rest).drop k = t.drop k ++ c :: rest :=
  List.drop_append_of_le_length hk

theorem unitAt_of_scan_eq_zero (h : scan stop depth (c :: rest) = .length 0) :
    unitAt stop depth c rest = .stop := by
  rw [scan_cons] at h
  cases hunit : unitAt stop depth c rest with
  | stop => rfl
  | unclosed =>
      rw [hunit] at h
      cases h
  | pass k depth' =>
      rw [hunit] at h
      obtain ⟨m, -, hm⟩ := Scan.exists_of_shift_eq_length h
      cases hm

/-- A scan that stops up to a character stops there whatever follows the character, and
if it stops at the character, this is a stop. -/
theorem scan_replace {depth n : Nat} {t : Text} (hslash : stop '/' = false)
    (h : scan stop depth (t ++ c :: rest) = .length n) (hn : n ≤ t.length) :
    (∀ rest', scan stop depth (t ++ c :: rest') = .length n) ∧
      (n = t.length → stop c = true) := by
  match t with
  | [] =>
      obtain rfl := Nat.le_zero.mp hn
      obtain ⟨hstop, hall⟩ := unitAt_of_stop hslash (unitAt_of_scan_eq_zero h)
      refine ⟨fun rest' => ?_, fun _ => hstop⟩
      rw [List.nil_append, scan_cons, hall]
  | d :: t =>
      rw [List.cons_append, scan_cons] at h
      cases hunit : unitAt stop depth d (t ++ c :: rest) with
      | stop =>
          rw [hunit] at h
          obtain rfl := Scan.length.inj h
          refine ⟨fun rest' => ?_, fun hlength => absurd hlength (by simp)⟩
          rw [List.cons_append, scan_cons, unitAt_stop_replace hunit]
      | unclosed =>
          rw [hunit] at h
          cases h
      | pass k depth' =>
          rw [hunit] at h
          obtain ⟨m, hm, rfl⟩ := Scan.exists_of_shift_eq_length h
          rw [List.length_cons] at hn
          have hk : k ≤ t.length := by omega
          have hrest : m ≤ (t.drop k).length := by
            rw [List.length_drop]
            omega
          rw [drop_append_cons hk] at hm
          obtain ⟨hall, hstop⟩ := scan_replace hslash hm hrest
          refine ⟨fun rest' => ?_, fun hlength => hstop ?_⟩
          · rw [List.cons_append, scan_cons, unitAt_replace hunit hk]
            dsimp only
            rw [drop_append_cons hk, hall]
            rfl
          · rw [List.length_cons] at hlength
            rw [List.length_drop]
            omega
termination_by t.length
decreasing_by simp only [List.length_cons, List.length_drop]; omega

/-! ## Another text in front -/

/-- The characters that have a meaning for every scan. -/
def scanMarks : List Char := ['\\', '"', apostrophe, '/', '(', '[', ')', ']']

/-- Whether a scan passes over a character on its own, changing nothing. -/
def IsPassed (stop : Char → Bool) (c : Char) : Prop := c ∉ scanMarks ∧ stop c = false

theorem unitAt_of_isPassed (h : IsPassed stop c) (depth : Nat) (s : Text) :
    unitAt stop depth c s = .pass 0 depth := by
  obtain ⟨hmarks, hstop⟩ := h
  simp only [scanMarks, List.mem_cons, List.not_mem_nil, or_false, not_or] at hmarks
  obtain ⟨hescape, hquote, hapostrophe, hslash, hround, hsquare, hround', hsquare'⟩ := hmarks
  rw [unitAt, if_neg hescape, if_neg (not_or.mpr ⟨hquote, hapostrophe⟩), startsComment_cons,
    if_neg (by simp [hslash]), if_neg (not_or.mpr ⟨hround, hsquare⟩),
    if_neg (not_or.mpr ⟨hround', hsquare'⟩), if_neg (by simp [hstop])]

/-- A text of such characters only moves the stop. -/
theorem scan_append_of_isPassed (h : ∀ c ∈ t, IsPassed stop c) (depth : Nat) (s : Text) :
    scan stop depth (t ++ s) = (scan stop depth s).shift t.length := by
  induction t with
  | nil =>
      rw [List.nil_append]
      cases scan stop depth s <;> rfl
  | cons c t ih =>
      rw [List.forall_mem_cons] at h
      rw [List.cons_append, scan_cons, unitAt_of_isPassed h.1]
      dsimp only
      rw [List.drop_zero, ih h.2]
      cases scan stop depth s <;> simp [Scan.shift, Nat.add_assoc]

end ComponentCompiler.Stylesheet
