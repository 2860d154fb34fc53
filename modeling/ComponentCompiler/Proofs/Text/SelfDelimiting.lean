import ComponentCompiler.Text.Basic

/-!
# Pieces that show their own end

A function that finds the length of the piece at the start of a text may look at
what follows the piece.  For pieces with a closing delimiter it does not: the
length depends on the characters of the piece alone, so that what follows may be
replaced.  The closing delimiter of such a piece is the first one there is.
-/

namespace ComponentCompiler.Text

variable {length? inner? : Text → Option Nat} {s : Text} {n : Nat}

/-- The text begins with a piece of the length, and this length is found whatever
follows the piece. -/
def Delimits (length? : Text → Option Nat) (s : Text) (n : Nat) : Prop :=
  ∃ piece rest, s = piece ++ rest ∧ piece.length = n ∧
    ∀ rest', length? (piece ++ rest') = some n

/-- A length that is found depends on that many characters alone. -/
def SelfDelimiting (length? : Text → Option Nat) : Prop :=
  ∀ ⦃s : Text⦄ ⦃n : Nat⦄, length? s = some n → Delimits length? s n

/-- A piece that begins with fixed characters and goes on as another one does. -/
theorem Delimits.prepend (start : Text)
    (hstep : ∀ rest, length? (start ++ rest) = (inner? rest).map (· + start.length))
    (h : Delimits inner? s n) : Delimits length? (start ++ s) (n + start.length) := by
  obtain ⟨piece, rest, rfl, rfl, hall⟩ := h
  refine ⟨start ++ piece, rest, by simp, by simp [Nat.add_comm], fun rest' => ?_⟩
  rw [List.append_assoc, hstep, hall rest']
  rfl

theorem SelfDelimiting.le_length (h : SelfDelimiting length?) (hlength : length? s = some n) :
    n ≤ s.length := by
  obtain ⟨piece, rest, rfl, rfl, _⟩ := h hlength
  rw [List.length_append]
  exact Nat.le_add_right _ _

/-- What follows a piece that shows its own end may be replaced. -/
theorem SelfDelimiting.replace (h : SelfDelimiting length?) {piece rest : Text}
    (hlength : length? (piece ++ rest) = some piece.length) (rest' : Text) :
    length? (piece ++ rest') = some piece.length := by
  obtain ⟨found, more, happend, hsame, hall⟩ := h hlength
  obtain ⟨rfl, _⟩ := List.append_inj happend hsame.symm
  exact hall rest'

/-- What follows a text that holds the piece may be replaced. -/
theorem SelfDelimiting.replace_of_le (h : SelfDelimiting length?) {t rest : Text}
    (hlength : length? (t ++ rest) = some n) (hn : n ≤ t.length) (rest' : Text) :
    length? (t ++ rest') = some n := by
  obtain ⟨piece, more, happend, rfl, hall⟩ := h hlength
  have hpiece : piece <+: t ++ rest := happend ▸ List.prefix_append piece more
  obtain ⟨between, rfl⟩ := List.prefix_of_prefix_length_le hpiece (List.prefix_append t rest) hn
  rw [List.append_assoc]
  exact hall _

theorem length_le_of_endOfFirst? {pattern : Text}
    (h : endOfFirst? pattern s = some n) : pattern.length ≤ n := by
  induction s generalizing n with
  | nil =>
      rw [endOfFirst?] at h
      split at h
      · rename_i hempty
        simp [List.isEmpty_iff.mp hempty]
      · simp at h
  | cons c rest ih =>
      rw [endOfFirst?] at h
      split at h
      · exact Nat.le_of_eq (Option.some.inj h)
      · obtain ⟨m, hm, rfl⟩ := Option.map_eq_some_iff.mp h
        exact Nat.le_succ_of_le (ih hm)

theorem endOfFirst?_append (pattern rest : Text) :
    endOfFirst? pattern (pattern ++ rest) = some pattern.length := by
  cases pattern with
  | nil => cases rest <;> simp [endOfFirst?]
  | cons c pattern => simp [endOfFirst?]

/-- A pattern is first found where it ends, whatever follows. -/
theorem selfDelimiting_endOfFirst? (pattern : Text) :
    SelfDelimiting (endOfFirst? pattern) := by
  intro s n h
  induction s generalizing n with
  | nil =>
      rw [endOfFirst?] at h
      split at h
      · rename_i hempty
        obtain rfl := Option.some.inj h
        obtain rfl := List.isEmpty_iff.mp hempty
        exact ⟨[], [], rfl, rfl, fun rest => endOfFirst?_append [] rest⟩
      · simp at h
  | cons c tail ih =>
      rw [endOfFirst?] at h
      split at h
      · rename_i hfound
        obtain rfl := Option.some.inj h
        obtain ⟨rest, hrest⟩ := List.isPrefixOf_iff_prefix.mp hfound
        exact ⟨pattern, rest, hrest.symm, rfl, endOfFirst?_append pattern⟩
      · rename_i hother
        obtain ⟨m, hm, rfl⟩ := Option.map_eq_some_iff.mp h
        obtain ⟨piece, rest, rfl, rfl, hall⟩ := ih hm
        refine ⟨c :: piece, rest, rfl, rfl, fun rest' => ?_⟩
        have hlater : ¬ pattern.isPrefixOf (c :: (piece ++ rest')) = true := by
          intro hfound
          have hlength : pattern.length ≤ (c :: piece).length :=
            Nat.le_succ_of_le (length_le_of_endOfFirst? hm)
          have hearly : pattern <+: c :: piece :=
            List.prefix_of_prefix_length_le (List.isPrefixOf_iff_prefix.mp hfound)
              (List.prefix_append (c :: piece) rest') hlength
          exact hother (List.isPrefixOf_iff_prefix.mpr
            (hearly.trans (List.prefix_append (c :: piece) rest)))
        rw [List.cons_append, endOfFirst?, if_neg hlater, hall rest']
        rfl

/-! ## First occurrences -/

theorem endOfFirst?_eq_none_iff {pattern : Text} (hpattern : pattern ≠ []) :
    endOfFirst? pattern s = none ↔ ¬ pattern <:+: s := by
  induction s with
  | nil => simp [endOfFirst?, hpattern]
  | cons c rest ih =>
      rw [endOfFirst?, List.infix_cons_iff, ← List.isPrefixOf_iff_prefix]
      split
      · rename_i hfound
        simp [hfound]
      · rename_i hother
        rw [Option.map_eq_none_iff, ih]
        simp [hother]

/-- The first place where a text stands is found, and it is in front of all others. -/
theorem exists_first_occurrence {pattern : Text} (h : pattern <:+: s) :
    ∃ first later, s = first ++ pattern ++ later ∧
      endOfFirst? pattern s = some (first.length + pattern.length) ∧
      ∀ earlier rest, s = earlier ++ pattern ++ rest → first <+: earlier := by
  induction s with
  | nil =>
      obtain rfl := List.infix_nil.mp h
      exact ⟨[], [], rfl, rfl, fun _ _ _ => List.nil_prefix⟩
  | cons c tail ih =>
      by_cases hfound : pattern <+: c :: tail
      · obtain ⟨later, hlater⟩ := hfound
        refine ⟨[], later, hlater.symm, ?_, fun _ _ _ => List.nil_prefix⟩
        rw [← hlater, endOfFirst?_append, List.length_nil, Nat.zero_add]
      · obtain ⟨first, later, rfl, hend, hearliest⟩ :=
          ih ((List.infix_cons_iff.mp h).resolve_left hfound)
        refine ⟨c :: first, later, rfl, ?_, fun earlier rest heq => ?_⟩
        · rw [endOfFirst?, if_neg (by simpa using hfound), hend, Option.map_some,
            List.length_cons, Nat.add_right_comm]
        · cases earlier with
          | nil => exact absurd ⟨rest, heq.symm⟩ hfound
          | cons d earlier =>
              obtain ⟨rfl, htail⟩ := List.cons.inj heq
              exact List.cons_prefix_cons.mpr ⟨rfl, hearliest earlier rest htail⟩

end ComponentCompiler.Text
