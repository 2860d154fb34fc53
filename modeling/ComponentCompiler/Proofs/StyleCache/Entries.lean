import ComponentCompiler.StyleCache

/-!
# Entries of the cache

Operations on the cache move entries and drop them; only setting a key adds one.
So what is known of every entry stays true as long as it is known of the entries
that are set.
-/

namespace ComponentCompiler.StyleCache

variable {κ α : Type} [DecidableEq κ]

theorem mem_entries_of_peek? {cache : StyleCache κ α} {key : κ} {value : α}
    (hfound : cache.peek? key = some value) : (key, some value) ∈ cache.entries := by
  obtain ⟨⟨key', recorded⟩, hfind, rfl⟩ := Option.bind_eq_some_iff.mp hfound
  have hkey : key' = key := by simpa using List.find?_some hfind
  subst key'
  exact List.mem_of_find?_eq_some hfind

theorem peek?_of_entries_eq_nil {cache : StyleCache κ α} (hempty : cache.entries = [])
    (key : κ) : cache.peek? key = none := by
  simp [peek?, hempty]

theorem get_of_peek?_eq_none {cache : StyleCache κ α} {key : κ}
    (hmissing : cache.peek? key = none) : (cache.get key).2 = cache := by
  simp [get, hmissing]

omit [DecidableEq κ] in
theorem mem_entries_of_mem_evict {cache : StyleCache κ α} {entry : κ × Option α}
    (hentry : entry ∈ cache.evict.entries) : entry ∈ cache.entries :=
  List.mem_of_mem_drop hentry

theorem mem_entries_of_mem_get {cache : StyleCache κ α} {key : κ} {entry : κ × Option α}
    (hentry : entry ∈ (cache.get key).2.entries) : entry ∈ cache.entries := by
  cases hfound : cache.peek? key with
  | none => rwa [get_of_peek?_eq_none hfound] at hentry
  | some value =>
      simp only [get, hfound, List.mem_append, List.mem_singleton] at hentry
      rcases hentry with hother | rfl
      · exact (List.mem_filter.mp hother).1
      · exact mem_entries_of_peek? hfound

theorem eq_or_mem_entries_of_mem_set {cache : StyleCache κ α} {key : κ} {value : Option α}
    {entry : κ × Option α} (hentry : entry ∈ (cache.set key value).entries) :
    entry = (key, value) ∨ entry ∈ cache.entries := by
  have hmem := mem_entries_of_mem_evict hentry
  simp only [List.mem_append, List.mem_singleton] at hmem
  rcases hmem with hother | hnew
  · exact Or.inr (List.mem_filter.mp hother).1
  · exact Or.inl hnew

omit [DecidableEq κ] in
theorem mem_entries_of_mem_resize {cache : StyleCache κ α} {maxSize : Int}
    {entry : κ × Option α} (hentry : entry ∈ (cache.resize maxSize).entries) :
    entry ∈ cache.entries := by
  have hmem := mem_entries_of_mem_evict hentry
  exact hmem

/-! ## Sizes -/

/-- There are no more entries than the cache may hold. -/
def IsBounded (cache : StyleCache κ α) : Prop := cache.size ≤ cache.maxSize.toNat

@[simp]
theorem maxSize_get (cache : StyleCache κ α) (key : κ) :
    (cache.get key).2.maxSize = cache.maxSize := by
  rw [get]
  split <;> rfl

@[simp]
theorem maxSize_set (cache : StyleCache κ α) (key : κ) (value : Option α) :
    (cache.set key value).maxSize = cache.maxSize := rfl

omit [DecidableEq κ] in
@[simp]
theorem maxSize_resize (cache : StyleCache κ α) (maxSize : Int) :
    (cache.resize maxSize).maxSize = maxSize := rfl

/-- Finding a key moves its entry, which was there before. -/
theorem size_get_le (cache : StyleCache κ α) (key : κ) :
    (cache.get key).2.size ≤ cache.size := by
  cases hfound : cache.peek? key with
  | none => exact Nat.le_of_eq (congrArg size (get_of_peek?_eq_none hfound))
  | some value =>
      have hlt : (cache.others key).length < cache.entries.length :=
        List.length_filter_lt_length_iff_exists.mpr
          ⟨_, mem_entries_of_peek? hfound, by simp⟩
      simpa [get, hfound, size] using Nat.succ_le_of_lt hlt

theorem IsBounded.get {cache : StyleCache κ α} (hbounded : cache.IsBounded) (key : κ) :
    (cache.get key).2.IsBounded := by
  rw [IsBounded, maxSize_get]
  exact Nat.le_trans (size_get_le cache key) hbounded

theorem isBounded_set (cache : StyleCache κ α) (key : κ) (value : Option α) :
    (cache.set key value).IsBounded :=
  size_set_le cache key value

omit [DecidableEq κ] in
theorem isBounded_resize (cache : StyleCache κ α) (maxSize : Int) :
    (cache.resize maxSize).IsBounded :=
  size_resize_le cache maxSize

omit [DecidableEq κ] in
theorem size_resize_le_size (cache : StyleCache κ α) (maxSize : Int) :
    (cache.resize maxSize).size ≤ cache.size := by
  simp [resize, evict, size]

omit [DecidableEq κ] in
theorem isBounded_of_entries_eq_nil {cache : StyleCache κ α} (hempty : cache.entries = []) :
    cache.IsBounded := by
  simp [IsBounded, size, hempty]

omit [DecidableEq κ] in
/-- A cache that may hold fewer entries than none holds none. -/
theorem entries_eq_nil_of_isOverdrawn {cache : StyleCache κ α}
    (hbounded : cache.IsBounded) (hoverdrawn : cache.isOverdrawn = true) :
    cache.entries = [] := by
  have hnegative : cache.maxSize < 0 := by simpa [isOverdrawn] using hoverdrawn
  have hlength : cache.entries.length ≤ 0 := by
    rw [IsBounded, Int.toNat_of_nonpos (Int.le_of_lt hnegative)] at hbounded
    exact hbounded
  exact List.eq_nil_of_length_eq_zero (Nat.le_zero.mp hlength)

omit [DecidableEq κ] in
/-- Giving a cache a size that its entries fit into drops none of them. -/
theorem entries_resize_of_le {cache : StyleCache κ α} {maxSize : Int}
    (hfits : cache.size ≤ maxSize.toNat) : (cache.resize maxSize).entries = cache.entries := by
  have hnone : cache.entries.length - maxSize.toNat = 0 := Nat.sub_eq_zero_of_le hfits
  simp [resize, evict, hnone]

end ComponentCompiler.StyleCache
