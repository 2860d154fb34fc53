import ComponentCompiler.Text.Case

/-!
# Lower case twice

The small letters of the runs are no capitals of any run, so that a text in lower
case stays as it is, and so do such texts put together.
-/

namespace ComponentCompiler.Text

variable {s t : Text} {c d : Char}

/-! ## Small letters -/

/-- Whether a character is its own lower case form. -/
def IsSmall (c : Char) : Prop := lowerChar c = [c]

instance (c : Char) : Decidable (IsSmall c) := inferInstanceAs (Decidable (lowerChar c = [c]))

/-- The last small letter of a run. -/
def CapitalRun.lastSmall (run : CapitalRun) : Nat := run.small + (run.last - run.first)

/-- Whether none of the small letters of the first run is a capital of the second one.
Where the capitals of a run take every second place, small letters are in between. -/
def CapitalRun.avoids (run other : CapitalRun) : Bool :=
  Nat.blt run.lastSmall other.first || Nat.blt other.last run.small ||
    (other.step == 2 && (run.step == 2 || run.first == run.last) &&
      (run.small + other.first) % 2 == 1)

theorem capitalRuns_avoid :
    (capitalRuns.all fun run => capitalRuns.all run.avoids) = true := by
  decide +kernel

/-- The dotted I is no small letter of a run. -/
theorem capitalRuns_avoid_dotted :
    (capitalRuns.all fun run => run.avoids ⟨0x130, 0x130, 2, 0x69⟩) = true := by
  decide +kernel

/-- The small letters of the runs are characters, and no ASCII capitals. -/
theorem capitalRuns_small : ∀ run ∈ capitalRuns,
    0x5B ≤ run.small ∧
      (run.lastSmall < 0xD800 ∨ (0xDFFF < run.small ∧ run.lastSmall < 0x110000)) := by
  decide +kernel

theorem CapitalRun.lower?_eq_none_of_avoids {run other : CapitalRun} {n m : Nat}
    (hn : run.lower? n = some m) (havoids : run.avoids other = true) : other.lower? m = none := by
  rw [lower?] at hn
  split at hn
  · rename_i hrun
    obtain rfl := Option.some.inj hn
    obtain ⟨hfirst, hlast, hstep⟩ := hrun
    simp only [avoids, lastSmall, Bool.or_eq_true, Nat.blt_eq, Bool.and_eq_true, beq_iff_eq]
      at havoids
    rw [lower?, if_neg]
    rintro ⟨hfirst', hlast', hstep'⟩
    rcases havoids with (hbelow | habove) | ⟨⟨hother, hrun⟩, hodd⟩
    · omega
    · omega
    · rw [hother] at hstep'
      rcases hrun with hrun | hrun
      · rw [hrun] at hstep
        omega
      · omega
  · simp at hn

theorem toLower_eq_self (h : 0x5B ≤ c.toNat) : c.toLower = c := by
  unfold Char.toLower
  rw [dif_neg]
  rintro ⟨_, hle⟩
  have hcode : c.toNat ≤ 0x5A := UInt32.le_iff_toNat_le.mp hle
  omega

theorem isSmall_of_run {run : CapitalRun} (hrun : run ∈ capitalRuns) {n m : Nat}
    (hm : run.lower? n = some m) : IsSmall (Char.ofNat m) := by
  have hdotted := CapitalRun.lower?_eq_none_of_avoids hm
    (List.all_eq_true.mp capitalRuns_avoid_dotted run hrun)
  have havoids := List.all_eq_true.mp (List.all_eq_true.mp capitalRuns_avoid run hrun)
  have hnone : capitalRuns.findSome? (·.lower? m) = none := by
    rw [List.findSome?_eq_none_iff]
    exact fun other hother =>
      CapitalRun.lower?_eq_none_of_avoids hm (havoids other hother)
  obtain ⟨hcapital, hvalid⟩ := capitalRuns_small run hrun
  rw [CapitalRun.lower?] at hm
  split at hm
  · obtain rfl := Option.some.inj hm
    generalize hcode : run.small + (n - run.first) = m at hnone hdotted
    have hchar : (Char.ofNat m).toNat = m := by
      have hm : m.isValidChar := by
        simp only [Nat.isValidChar]
        rw [CapitalRun.lastSmall] at hvalid
        omega
      rw [Char.ofNat, dif_pos hm]
      rfl
    have hother : Char.ofNat m ≠ '\u0130' := by
      intro heq
      have hcode := congrArg Char.toNat heq
      rw [hchar] at hcode
      subst hcode
      cases hdotted
    simp only [IsSmall, lowerChar, hchar, hother, hnone, if_false]
    split
    · exact congrArg (fun c => [c]) (toLower_eq_self (by omega))
    · rfl
  · simp at hm

theorem isSmall_of_mem_lowerChar (h : d ∈ lowerChar c) : IsSmall d := by
  rw [lowerChar] at h
  split at h
  · rename_i hascii
    obtain rfl := List.mem_singleton.mp h
    have hall : ∀ n < 0x80, IsSmall (Char.ofNat n).toLower := by decide
    have hsmall := hall c.toNat hascii
    rwa [Char.ofNat_toNat] at hsmall
  · split at h
    · simp only [List.mem_cons, List.not_mem_nil, or_false] at h
      rcases h with rfl | rfl <;> decide
    · split at h
      · rename_i n hn
        obtain rfl := List.mem_singleton.mp h
        obtain ⟨run, hrun, hlower⟩ := List.exists_of_findSome?_eq_some hn
        exact isSmall_of_run hrun hlower
      · rename_i hascii hdotted _ hnone
        obtain rfl := List.mem_singleton.mp h
        simp only [IsSmall, lowerChar, hascii, hdotted, hnone, if_false]

/-! ## Texts -/

theorem isSmall_of_mem_lowerAfter {before : Text} (h : c ∈ lowerAfter before s) : IsSmall c := by
  induction s generalizing before with
  | nil => exact absurd h List.not_mem_nil
  | cons first rest ih =>
      rw [lowerAfter] at h
      rcases List.mem_append.mp h with hfirst | hrest
      · split at hfirst
        · obtain rfl := List.mem_singleton.mp hfirst
          decide
        · exact isSmall_of_mem_lowerChar hfirst
      · exact ih hrest

theorem isSmall_of_mem_lower (h : c ∈ lower s) : IsSmall c := isSmall_of_mem_lowerAfter h

/-- Lower case keeps what is small. -/
theorem mem_lower_of_isSmall (hc : IsSmall c) (h : c ∈ s) : c ∈ lower s := by
  have hsigma : (c == capitalSigma) = false := by
    rw [beq_eq_false_iff_ne]
    rintro rfl
    exact absurd hc (by decide)
  have hall : ∀ before, c ∈ lowerAfter before s := by
    induction s with
    | nil => exact absurd h List.not_mem_nil
    | cons first rest ih =>
        intro before
        rw [lowerAfter]
        rcases List.mem_cons.mp h with rfl | hrest
        · rw [hsigma, Bool.false_and, if_neg Bool.false_ne_true, hc]
          exact List.mem_append_left _ List.mem_cons_self
        · exact List.mem_append_right _ (ih hrest _)
  exact hall []

/-- A text is in lower case if and only if all its characters are small. -/
theorem lower_eq_self_iff : lower s = s ↔ ∀ c ∈ s, IsSmall c := by
  refine ⟨fun h c hc => isSmall_of_mem_lower (h.symm ▸ hc), fun h => ?_⟩
  have hsigma : capitalSigma ∉ s := fun hmem => absurd (h _ hmem) (by decide)
  rw [lower_eq_flatMap hsigma]
  calc
    s.flatMap lowerChar = s.flatMap fun c => [c] := by
      rw [List.flatMap_def, List.map_congr_left h, ← List.flatMap_def]
    _ = s := List.flatMap_singleton' s

/-- A name behind a prefix in lower case is in lower case if it was before. -/
theorem lower_append_lower (hs : lower s = s) (t : Text) : lower (s ++ lower t) = s ++ lower t := by
  refine lower_eq_self_iff.mpr fun c hc => ?_
  rcases List.mem_append.mp hc with hmem | hmem
  · exact lower_eq_self_iff.mp hs c hmem
  · exact isSmall_of_mem_lower hmem

end ComponentCompiler.Text
