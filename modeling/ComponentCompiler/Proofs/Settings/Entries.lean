import ComponentCompiler.Settings.Value

/-!
# Entries as mappings

Entries whose keys differ are a mapping from keys to values, together with an order of the
keys.  Reordering them changes no value that is found.
-/

namespace ComponentCompiler.Entries

variable {α : Type} {entries first second : Entries α} {key a b : String} {value : α}

/-- The keys in their order. -/
def keys (entries : Entries α) : List String := entries.map (·.1)

/-- The same mapping, whatever the order. -/
def Same (first second : Entries α) : Prop := ∀ key, get? first key = get? second key

/-- One key stands before another one. -/
def Precedes (entries : Entries α) (a b : String) : Prop := [a, b].Sublist (keys entries)

instance (entries : Entries α) (a b : String) : Decidable (entries.Precedes a b) :=
  inferInstanceAs (Decidable (List.Sublist _ _))

theorem Same.refl (entries : Entries α) : Same entries entries := fun _ => rfl

theorem Same.symm (h : Same first second) : Same second first := fun key => (h key).symm

theorem get?_eq_none_iff : get? entries key = none ↔ key ∉ keys entries := by
  simp only [get?, Option.map_eq_none_iff, List.find?_eq_none, keys, List.mem_map, not_exists,
    not_and, beq_iff_eq]

theorem mem_of_get? (h : get? entries key = some value) : (key, value) ∈ entries := by
  obtain ⟨entry, hentry, rfl⟩ := Option.map_eq_some_iff.mp h
  obtain rfl : entry.1 = key := by simpa using List.find?_some hentry
  exact List.mem_of_find?_eq_some hentry

theorem mem_keys_of_get? (h : get? entries key = some value) : key ∈ keys entries :=
  List.mem_map_of_mem (mem_of_get? h)

/-- Setting a key adds no entry but the one for it. -/
theorem eq_or_mem_of_mem_set {entry : String × α} (h : entry ∈ entries.set key value) :
    entry = (key, value) ∨ entry ∈ entries := by
  rw [set] at h
  split at h
  · obtain ⟨other, hother, rfl⟩ := List.mem_map.mp h
    split
    · exact Or.inl rfl
    · exact Or.inr hother
  · rw [List.mem_append, List.mem_singleton] at h
    exact h.symm

theorem get?_append_of_mem {front back : Entries α} (h : key ∈ keys front) :
    get? (front ++ back) key = get? front key := by
  cases hfront : get? front key with
  | none => exact absurd h (get?_eq_none_iff.mp hfront)
  | some value => rw [get?_append, hfront, Option.some_or]

theorem get?_append_of_notMem {front back : Entries α} (h : key ∉ keys front) :
    get? (front ++ back) key = get? back key := by
  rw [get?_append, get?_eq_none_iff.mpr h, Option.none_or]

/-- Around a key there is no other entry for it. -/
theorem notMem_keys_of_nodup {front back : Entries α}
    (hkeys : (keys (front ++ (key, value) :: back)).Nodup) :
    key ∉ keys front ∧ key ∉ keys back := by
  rw [keys, List.map_append, List.map_cons, List.nodup_append, List.nodup_cons] at hkeys
  exact ⟨fun hmem => hkeys.2.2 key hmem key List.mem_cons_self rfl, hkeys.2.1.1⟩

theorem nodup_keys_of_append {front back : Entries α} (hkeys : (keys (front ++ back)).Nodup) :
    (keys front).Nodup ∧ (keys back).Nodup := by
  rw [keys, List.map_append, List.nodup_append] at hkeys
  exact ⟨hkeys.1, hkeys.2.1⟩

theorem notMem_keys_of_append {front back : Entries α} (hkeys : (keys (front ++ back)).Nodup)
    (h : key ∈ keys front) : key ∉ keys back := by
  rw [keys, List.map_append, List.nodup_append] at hkeys
  exact fun hback => hkeys.2.2 key h key hback rfl

theorem get?_of_mem (hkeys : (keys entries).Nodup) (h : (key, value) ∈ entries) :
    get? entries key = some value := by
  obtain ⟨front, back, rfl⟩ := List.append_of_mem h
  rw [get?_append_of_notMem (notMem_keys_of_nodup hkeys).1, get?_cons, if_pos rfl]

theorem nodup_keys_of_perm (hkeys : (keys first).Nodup) (hperm : second.Perm first) :
    (keys second).Nodup :=
  (hperm.map _).nodup_iff.mpr hkeys

/-- Reordering entries with different keys changes no value. -/
theorem get?_of_perm (hkeys : (keys first).Nodup) (hperm : second.Perm first) :
    Same second first := by
  intro key
  have hkeys' := nodup_keys_of_perm hkeys hperm
  cases hsecond : get? second key with
  | some value => exact (get?_of_mem hkeys (hperm.subset (mem_of_get? hsecond))).symm
  | none =>
      cases hfirst : get? first key with
      | none => rfl
      | some value =>
          rw [get?_of_mem hkeys' (hperm.symm.subset (mem_of_get? hfirst))] at hsecond
          exact nomatch hsecond

/-- Two orders of entries with different keys both have a key with one value, or both not. -/
theorem get?_cases_of_perm (hkeys : (keys first).Nodup) (hperm : second.Perm first)
    (key : String) :
    (get? first key = none ∧ get? second key = none) ∨
      ∃ value, get? first key = some value ∧ get? second key = some value := by
  have hsame := get?_of_perm hkeys hperm key
  cases hfirst : get? first key with
  | none => exact Or.inl ⟨rfl, hsame.trans hfirst⟩
  | some value => exact Or.inr ⟨value, rfl, hsame.trans hfirst⟩

/-- What stands before a key is in front of its entry. -/
theorem precedes_iff_mem_front {front back : Entries α}
    (hkeys : (keys (front ++ (b, value) :: back)).Nodup) :
    (front ++ (b, value) :: back).Precedes a b ↔ a ∈ keys front := by
  have hback := (notMem_keys_of_nodup hkeys).2
  rw [Precedes, keys, List.map_append, List.map_cons]
  constructor
  · intro hsublist
    obtain ⟨start, rest, heq, hstart, hrest⟩ := List.sublist_append_iff.mp hsublist
    cases start with
    | nil =>
        obtain rfl : [a, b] = rest := heq
        exact absurd (List.singleton_sublist.mp hrest.tail) hback
    | cons c start =>
        obtain ⟨rfl, -⟩ := List.cons.inj heq
        exact hstart.subset List.mem_cons_self
  · intro hmem
    exact (List.singleton_sublist.mpr hmem).append
      (List.singleton_sublist.mpr List.mem_cons_self)

end ComponentCompiler.Entries
