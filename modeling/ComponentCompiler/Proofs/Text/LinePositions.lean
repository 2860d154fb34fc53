import Mathlib.Data.List.TakeWhile
import ComponentCompiler.Proofs.Text.LineNumbers

/-!
# Lines and columns

A position is computed from the text before an offset: its line feeds give the line and
what stands after the last one gives the column.  Counted back over the lines of the
whole text it gives the offset again, so a position tells where the offset is.
-/

namespace ComponentCompiler.Text

variable {s : Text} {o : Nat}

/-- The offset at which a line begins, the lines being counted from zero: all lines before
it stand there with their line feeds. -/
def lineStart (s : Text) (line : Nat) : Nat :=
  (((lines s).take line).flatMap fun l => l ++ ['\n']).length

/-! ## One character in front -/

theorem lineStart_cons_lineFeed (rest : Text) (line : Nat) :
    lineStart ('\n' :: rest) (line + 1) = lineStart rest line + 1 := by
  rw [lineStart, lines, List.take_succ_cons, List.flatMap_cons, List.length_append, ← lineStart]
  exact Nat.add_comm _ _

theorem lineStart_cons {c : Char} (hc : c ≠ '\n') (rest : Text) (line : Nat) :
    lineStart (c :: rest) (line + 1) = lineStart rest (line + 1) + 1 := by
  obtain ⟨first, more, hlines⟩ := List.exists_cons_of_ne_nil (lines_ne_nil rest)
  rw [lineStart, lineStart, lines_cons_of_ne hc, hlines, List.modifyHead_cons,
    List.take_succ_cons, List.take_succ_cons, List.flatMap_cons, List.flatMap_cons]
  simp only [List.length_append, List.length_cons]
  omega

/-- A line that a text ends goes on in front of it only if it is the first one. -/
theorem lastLineLength_cons (c : Char) (s : Text) :
    lastLineLength (c :: s) =
      if c = '\n' ∨ '\n' ∈ s then lastLineLength s else lastLineLength s + 1 := by
  rw [lastLineLength, lastLineLength, List.reverse_cons, List.takeWhile_append]
  by_cases hmem : '\n' ∈ s
  · have hstop : (s.reverse.takeWhile (· ≠ '\n')).length ≠ s.reverse.length := by
      intro hall
      have hself := (List.takeWhile_prefix (· ≠ '\n') (l := s.reverse)).eq_of_length hall
      have hevery := List.takeWhile_eq_self_iff.mp hself
      simpa using hevery '\n' (List.mem_reverse.mpr hmem)
    rw [if_neg hstop, if_pos (Or.inr hmem)]
  · have hself : s.reverse.takeWhile (· ≠ '\n') = s.reverse := by
      refine List.takeWhile_eq_self_iff.mpr fun d hd => ?_
      have hne : d ≠ '\n' := fun h => hmem (h ▸ List.mem_reverse.mp hd)
      simpa using hne
    rw [hself, if_pos rfl]
    by_cases hc : c = '\n' <;> simp [hc, hmem]

/-! ## The position of an offset -/

/-- Every offset stands in one of the lines, as far behind its beginning as characters
stand after the last line feed. -/
theorem exists_line_of_le (ho : o ≤ s.length) :
    ∃ line, (lines s)[(s.take o).count '\n']? = some line ∧
      lastLineLength (s.take o) ≤ line.length ∧
      lineStart s ((s.take o).count '\n') + lastLineLength (s.take o) = o := by
  induction s generalizing o with
  | nil =>
      obtain rfl := Nat.le_zero.mp ho
      exact ⟨[], rfl, Nat.le_refl _, rfl⟩
  | cons c rest ih =>
      cases o with
      | zero =>
          obtain ⟨first, more, hlines⟩ := List.exists_cons_of_ne_nil (lines_ne_nil (c :: rest))
          exact ⟨first, by rw [hlines]; rfl, Nat.zero_le _, rfl⟩
      | succ o =>
          obtain ⟨line, hline, hlength, hstart⟩ := ih (Nat.le_of_succ_le_succ ho)
          rw [List.take_succ_cons, lastLineLength_cons]
          by_cases hc : c = '\n'
          · subst hc
            rw [List.count_cons_self, if_pos (Or.inl rfl), lineStart_cons_lineFeed]
            exact ⟨line, hline, hlength, by omega⟩
          · rw [List.count_cons_of_ne hc, lines_cons_of_ne hc, List.getElem?_modifyHead, hline]
            by_cases hmem : '\n' ∈ rest.take o
            · obtain ⟨n, hn⟩ : ∃ n, (rest.take o).count '\n' = n + 1 :=
                Nat.exists_eq_add_one.mpr (List.count_pos_iff.mpr hmem)
              rw [if_pos (Or.inr hmem), hn, lineStart_cons hc]
              rw [hn] at hstart
              exact ⟨line, rfl, hlength, by omega⟩
            · have hzero : (rest.take o).count '\n' = 0 := List.count_eq_zero.mpr hmem
              have hlater : ¬ (c = '\n' ∨ '\n' ∈ rest.take o) := not_or.mpr ⟨hc, hmem⟩
              rw [hzero, if_pos rfl, if_neg hlater]
              rw [hzero] at hstart
              exact ⟨c :: line, rfl, Nat.succ_le_succ hlength, congrArg (· + 1) hstart⟩

theorem upTo_natCast (s : Text) (o : Nat) : upTo s o = s.take o := by
  rw [upTo, if_neg (Int.not_lt.mpr (Int.natCast_nonneg o)), Int.toNat_natCast]

theorem lastLineLength_le (s : Text) : lastLineLength s ≤ s.length := by
  have hle := (List.takeWhile_prefix (· ≠ '\n') (l := s.reverse)).length_le
  rwa [List.length_reverse] at hle

/-- The position of an offset in a text: its line is one of the lines, and the beginning of
this line and the column give the offset back. -/
theorem exists_position (ho : o ≤ s.length) :
    ∃ (line column : Nat) (shown : Text),
      position s o = ((line : Int) + 1, (column : Int) + 1) ∧
        (lines s)[line]? = some shown ∧ column ≤ shown.length ∧
          lineStart s line + column = o := by
  obtain ⟨shown, hline, hlength, hstart⟩ := exists_line_of_le ho
  refine ⟨_, _, shown, ?_, hline, hlength, hstart⟩
  have hle := lastLineLength_le (s.take o)
  have htake : (s.take o).length = o := List.length_take_of_le ho
  rw [position, upTo_natCast, htake]
  refine Prod.ext rfl ?_
  dsimp only
  omega

theorem lineContext_of_getElem? {line : Nat} {shown : Text} (hs : s ≠ [])
    (hline : (lines s)[line]? = some shown) :
    lineContext s (some ((line : Int) + 1)) = some (trim shown) := by
  have hposition : ¬ (line : Int) + 1 ≤ 0 := by omega
  have hindex : ((line : Int) + 1).toNat - 1 = line := by omega
  rw [lineContext, if_neg (by simp [hs, hposition]), hindex, hline]
  rfl

example : position "a\n\x7b".toList 2 = (2, 1) ∧ lineStart "a\n\x7b".toList 1 = 2 := by decide

end ComponentCompiler.Text
