import Mathlib.Data.List.Dedup
import Mathlib.Data.List.DropRight
import ComponentCompiler.Proofs.StyleCache.Entries

/-!
# Least recent use

What a cache holds is decided by its history alone.  A key is touched when it is set and
when it is found.  The entries are those of the keys touched last, in the order in which
they were touched last: a key stays as long as fewer keys than the size were touched
after it, at every moment since it was touched itself.
-/

namespace ComponentCompiler.StyleCache

variable {κ α : Type} [DecidableEq κ]

/-- What is done to a cache from outside. -/
inductive Operation (κ α : Type)
  | set (key : κ) (value : α)
  | get (key : κ)
  | resize (maxSize : Nat)
  | clear
  /-- Asks for the number of entries. -/
  | count
  /-- Asks whether there is an entry for a key. -/
  | probe (key : κ)
  deriving DecidableEq, Repr

/-- A new cache. -/
def ofSize (size : Nat) : StyleCache κ α := { maxSize := size }

namespace Operation

/-- The cache after an operation. -/
def perform (cache : StyleCache κ α) : Operation κ α → StyleCache κ α
  | set key value => cache.set key (some value)
  | get key => (cache.get key).2
  | resize maxSize => cache.resize maxSize
  | clear => cache.clear
  | count => cache
  | probe _ => cache

/-- The key that an operation touches: one that is set, or one that is found. -/
def touched? (cache : StyleCache κ α) : Operation κ α → Option κ
  | set key _ => some key
  | get key => if (cache.get key).1.isSome then some key else none
  | _ => none

/-- The size in force after an operation. -/
def sizeAfter (size : Nat) : Operation κ α → Nat
  | resize maxSize => maxSize
  | _ => size

/-- The value that an operation sets for a key. -/
def valueFor? (key : κ) : Operation κ α → Option α
  | set other value => if other = key then some value else none
  | _ => none

end Operation

/-! ## Histories -/

/-- The cache after the operations of a history, the earliest first. -/
def after (cache : StyleCache κ α) (history : List (Operation κ α)) : StyleCache κ α :=
  history.foldl Operation.perform cache

/-- The keys that a history touches, in order. -/
def touches (cache : StyleCache κ α) : List (Operation κ α) → List κ
  | [] => []
  | operation :: rest =>
      (operation.touched? cache).toList ++ touches (operation.perform cache) rest

/-- The size in force after a history. -/
def sizeInForce (size : Nat) (history : List (Operation κ α)) : Nat :=
  history.foldl Operation.sizeAfter size

/-- The value that a history set last for a key. -/
def lastValue? (key : κ) (history : List (Operation κ α)) : Option α :=
  history.reverse.findSome? (·.valueFor? key)

/-- Whether a key was set and the cache not cleared since. -/
def IsSetSinceClear (key : κ) (history : List (Operation κ α)) : Prop :=
  ∃ before value since, history = before ++ .set key value :: since ∧ .clear ∉ since

/-- A history of a cache cut at the operation that touches a key last. -/
structure LastTouch (cache : StyleCache κ α) (key : κ) (history : List (Operation κ α))
    (before : List (Operation κ α)) (touch : Operation κ α) (since : List (Operation κ α)) :
    Prop where
  history_eq : history = before ++ touch :: since
  touches_key : touch.touched? (cache.after before) = some key
  last : key ∉ touches (cache.after (before ++ [touch])) since

/-- Whether fewer keys than the size in force were touched after a key was touched last, at
each moment since. -/
def IsRecent (size : Nat) (key : κ) (history : List (Operation κ α)) : Prop :=
  ∃ before touch since, LastTouch (ofSize size) key history before touch since ∧
    ∀ upTo, upTo <+: since →
      (touches ((ofSize size).after (before ++ [touch])) upTo).dedup.length <
        sizeInForce size (before ++ touch :: upTo)

section Append

variable {cache : StyleCache κ α} {size : Nat} {history rest : List (Operation κ α)}
  {operation : Operation κ α}

theorem after_append : cache.after (history ++ rest) = (cache.after history).after rest :=
  List.foldl_append

theorem after_concat :
    cache.after (history ++ [operation]) = operation.perform (cache.after history) := by
  rw [after_append]
  rfl

theorem touches_append :
    touches cache (history ++ rest) =
      touches cache history ++ touches (cache.after history) rest := by
  induction history generalizing cache with
  | nil => rfl
  | cons operation history ih =>
      rw [List.cons_append, touches, touches, ih, List.append_assoc]
      rfl

theorem touches_concat :
    touches cache (history ++ [operation]) =
      touches cache history ++ (operation.touched? (cache.after history)).toList := by
  rw [touches_append, touches, touches, List.append_nil]

omit [DecidableEq κ] in
theorem sizeInForce_concat :
    sizeInForce size (history ++ [operation]) = operation.sizeAfter (sizeInForce size history) := by
  rw [sizeInForce, List.foldl_append]
  rfl

theorem lastValue?_concat {key : κ} :
    lastValue? key (history ++ [operation]) =
      (operation.valueFor? key).or (lastValue? key history) := by
  rw [lastValue?, List.reverse_append, List.reverse_singleton, List.singleton_append,
    List.findSome?_cons]
  cases operation.valueFor? key <;> rfl

end Append

/-! ## The order of last touch -/

section Order

variable {keys touched since : List κ} {key : κ}

/-- A key that is touched goes behind all others. -/
def moveToEnd (key : κ) (keys : List κ) : List κ := keys.filter (· ≠ key) ++ [key]

theorem mem_moveToEnd_of_ne {other : κ} (hne : key ≠ other) :
    key ∈ moveToEnd other keys ↔ key ∈ keys := by
  simp [moveToEnd, hne]

/-- Touching a key once more makes it the one touched last, and keeps the order of the others. -/
theorem dedup_concat (touched : List κ) (key : κ) :
    (touched ++ [key]).dedup = moveToEnd key touched.dedup := by
  induction touched with
  | nil => rfl
  | cons head tail ih =>
      rw [List.cons_append]
      by_cases htail : head ∈ tail
      · rw [List.dedup_cons_of_mem (List.mem_append_left _ htail),
          List.dedup_cons_of_mem htail, ih]
      · by_cases hkey : head = key
        · subst hkey
          rw [List.dedup_cons_of_mem (by simp), List.dedup_cons_of_notMem htail, ih]
          simp [moveToEnd]
        · rw [List.dedup_cons_of_notMem (by simp [htail, hkey]),
            List.dedup_cons_of_notMem htail, ih]
          simp [moveToEnd, hkey]

theorem moveToEnd_suffix (h : keys <:+ touched.dedup) :
    moveToEnd key keys <:+ (touched ++ [key]).dedup := by
  rw [dedup_concat]
  obtain ⟨front, hfront⟩ := h
  refine ⟨front.filter (· ≠ key), ?_⟩
  rw [moveToEnd, moveToEnd, ← hfront, List.filter_append, List.append_assoc]

/-- What was touched after the last touch of a key stands behind it. -/
theorem dedup_suffix_of_last (before : List κ) (hlast : key ∉ since) :
    key :: since.dedup <:+ (before ++ key :: since).dedup := by
  rw [List.dedup_append, List.dedup_cons_of_notMem hlast]
  obtain ⟨front, -, hfront⟩ := List.sublist_suffix_of_union before (key :: since.dedup)
  exact ⟨front, hfront⟩

/-- Of the keys touched last, a key is one if these are more than were touched after it. -/
theorem mem_iff_length_lt {before : List κ} (hlast : key ∉ since)
    (hkeys : keys <:+ (before ++ key :: since).dedup) :
    key ∈ keys ↔ since.dedup.length < keys.length := by
  have hsuffix := dedup_suffix_of_last before hlast
  constructor
  · intro hmem
    by_contra hfew
    have hshort : keys <:+ since.dedup :=
      List.suffix_of_suffix_length_le hkeys ((List.suffix_cons _ _).trans hsuffix)
        (Nat.le_of_not_lt hfew)
    exact hlast (List.mem_dedup.mp (hshort.subset hmem))
  · intro hmany
    have hlong : key :: since.dedup <:+ keys :=
      List.suffix_of_suffix_length_le hsuffix hkeys hmany
    exact hlong.subset List.mem_cons_self

omit [DecidableEq κ] in
theorem length_rtake (keys : List κ) (size : Nat) :
    (keys.rtake size).length = min size keys.length := by
  rw [List.rtake, List.length_drop]
  omega

/-- A key is still one of the last so many if fewer keys were touched after it. -/
theorem mem_rtake_iff {before : List κ} {size : Nat} (hlast : key ∉ since)
    (hkeys : keys <:+ (before ++ key :: since).dedup) :
    key ∈ keys.rtake size ↔ key ∈ keys ∧ since.dedup.length < size := by
  have hshort : keys.rtake size <:+ (before ++ key :: since).dedup :=
    (List.drop_suffix _ keys).trans hkeys
  rw [mem_iff_length_lt hlast hshort, mem_iff_length_lt hlast hkeys, length_rtake, Nat.lt_min,
    and_comm]

theorem mem_rtake_moveToEnd (key : κ) (keys : List κ) (size : Nat) :
    key ∈ (moveToEnd key keys).rtake size ↔ 0 < size := by
  cases size with
  | zero => simp
  | succ size => simp [moveToEnd, List.rtake_concat_succ]

end Order

/-! ## What one operation does to the keys -/

section Step

variable {cache : StyleCache κ α} {key : κ} {operation : Operation κ α}

theorem contains_iff_mem_keys : cache.contains key = true ↔ key ∈ cache.keys := by
  simp [contains, keys]

omit [DecidableEq κ] in
theorem keys_evict (cache : StyleCache κ α) :
    cache.evict.keys = cache.keys.rtake cache.maxSize.toNat := by
  rw [keys, evict, List.map_drop, List.rtake, keys, List.length_map]

omit [DecidableEq κ] in
theorem rtake_keys (hbounded : cache.IsBounded) :
    cache.keys.rtake cache.maxSize.toNat = cache.keys := by
  have hlength : cache.keys.length ≤ cache.maxSize.toNat := by
    rw [keys, List.length_map]
    exact hbounded
  rw [List.rtake, Nat.sub_eq_zero_of_le hlength, List.drop_zero]

theorem keys_set (cache : StyleCache κ α) (key : κ) (value : Option α) :
    (cache.set key value).keys = (moveToEnd key cache.keys).rtake cache.maxSize.toNat := by
  rw [set, keys_evict]
  simp [keys, others, moveToEnd, List.filter_map, Function.comp_def]

theorem keys_get_of_found {value : α} (hfound : cache.peek? key = some value) :
    (cache.get key).2.keys = moveToEnd key cache.keys := by
  simp [get, hfound, keys, others, moveToEnd, List.filter_map, Function.comp_def]

/-- The keys with the one that is touched, if there is one, behind all others. -/
def arrange (touched : Option κ) (keys : List κ) : List κ :=
  match touched with
  | some key => moveToEnd key keys
  | none => keys

/-- All but clearing moves the touched key behind the others, and then drops the keys in
front for which there is no room. -/
theorem keys_perform {size : Nat} (hbounded : cache.IsBounded) (hsize : cache.maxSize = size)
    (hkept : operation ≠ .clear) :
    (operation.perform cache).keys =
      (arrange (operation.touched? cache) cache.keys).rtake (operation.sizeAfter size) := by
  have hnat : cache.maxSize.toNat = size := by rw [hsize, Int.toNat_natCast]
  have hunchanged : cache.keys = cache.keys.rtake size := by rw [← hnat, rtake_keys hbounded]
  cases operation with
  | set key value => rw [Operation.perform, keys_set, hnat]; rfl
  | get key =>
      rw [Operation.perform, Operation.touched?, get_fst]
      cases hfound : cache.peek? key with
      | none => rw [get_of_peek?_eq_none hfound]; exact hunchanged
      | some value =>
          have hmoved := keys_get_of_found hfound
          have hstays := rtake_keys (hbounded.get key)
          rw [maxSize_get, hnat, hmoved] at hstays
          rw [hmoved]
          exact hstays.symm
  | resize maxSize => exact keys_evict { cache with maxSize := maxSize }
  | clear => exact absurd rfl hkept
  | count => exact hunchanged
  | probe key => exact hunchanged

end Step

/-! ## What a history leaves -/

section History

variable {cache : StyleCache κ α} {size : Nat} {key : κ} {operation touch : Operation κ α}
  {history before since : List (Operation κ α)}

theorem touches_last (hlast : LastTouch (ofSize size) key history before touch since) :
    touches (ofSize size) history =
      touches (ofSize size) before ++
        key :: touches ((ofSize size).after (before ++ [touch])) since := by
  rw [hlast.history_eq, touches_append, touches, hlast.touches_key, after_concat]
  rfl

theorem isBounded_perform (hbounded : cache.IsBounded) (operation : Operation κ α) :
    (operation.perform cache).IsBounded := by
  cases operation with
  | set key value => exact isBounded_set cache key _
  | get key => exact hbounded.get key
  | resize maxSize => exact isBounded_resize cache _
  | clear => exact isBounded_of_entries_eq_nil rfl
  | count => exact hbounded
  | probe key => exact hbounded

theorem isBounded_after (size : Nat) (history : List (Operation κ α)) :
    ((ofSize size).after history).IsBounded := by
  induction history using List.reverseRecOn with
  | nil => exact isBounded_of_entries_eq_nil rfl
  | append_singleton history operation ih =>
      rw [after_concat]
      exact isBounded_perform ih operation

theorem maxSize_after (size : Nat) (history : List (Operation κ α)) :
    ((ofSize size).after history).maxSize = sizeInForce size history := by
  induction history using List.reverseRecOn with
  | nil => rfl
  | append_singleton history operation ih =>
      rw [after_concat, sizeInForce_concat]
      cases operation with
      | get key => exact (maxSize_get _ key).trans ih
      | resize maxSize => rfl
      | set | clear | count | probe => exact ih

theorem keys_after_concat (hkept : operation ≠ .clear) :
    ((ofSize size).after (history ++ [operation])).keys =
      (arrange (operation.touched? ((ofSize size).after history))
        ((ofSize size).after history).keys).rtake (sizeInForce size (history ++ [operation])) := by
  rw [after_concat, sizeInForce_concat]
  exact keys_perform (isBounded_after size history) (maxSize_after size history) hkept

theorem arrange_suffix {keys touched : List κ} (h : keys <:+ touched.dedup)
    (next : Option κ) : arrange next keys <:+ (touched ++ next.toList).dedup := by
  cases next with
  | none => rwa [Option.toList_none, List.append_nil]
  | some key => exact moveToEnd_suffix h

/-- The keys of a cache are those touched last, in the order of their last touch. -/
theorem keys_suffix_touches (size : Nat) (history : List (Operation κ α)) :
    ((ofSize size).after history).keys <:+ (touches (ofSize size) history).dedup := by
  induction history using List.reverseRecOn with
  | nil => exact List.nil_suffix
  | append_singleton history operation ih =>
      by_cases hclear : operation = .clear
      · subst hclear
        rw [after_concat]
        exact List.nil_suffix
      · rw [keys_after_concat hclear, touches_concat]
        exact (List.drop_suffix _ _).trans (arrange_suffix ih _)

theorem mem_arrange {next : Option κ} {keys : List κ} (hother : key ∉ next) :
    key ∈ arrange next keys ↔ key ∈ keys := by
  cases next with
  | none => exact Iff.rfl
  | some other => exact mem_moveToEnd_of_ne fun heq => hother (congrArg some heq.symm)

theorem ne_clear_of_touched? (h : touch.touched? cache = some key) : touch ≠ .clear := by
  rintro rfl
  cases h

theorem LastTouch.init (hlast : LastTouch cache key history before touch (since ++ [operation])) :
    LastTouch cache key (before ++ touch :: since) before touch since ∧
      key ∉ operation.touched? (cache.after (before ++ touch :: since)) := by
  have hnone := hlast.last
  have hafter : (cache.after (before ++ [touch])).after since =
      cache.after (before ++ touch :: since) := by
    rw [← after_append, List.append_assoc, List.singleton_append]
  rw [touches_concat, List.mem_append, not_or, hafter] at hnone
  exact ⟨⟨rfl, hlast.touches_key, hnone.1⟩, fun hmem => hnone.2 (Option.mem_toList.mpr hmem)⟩

/-- At the moment of its last touch a key is kept if there is room for any. -/
theorem mem_keys_of_touch (htouch : touch.touched? ((ofSize size).after before) = some key) :
    key ∈ ((ofSize size).after (before ++ [touch])).keys ↔
      0 < sizeInForce size (before ++ [touch]) := by
  rw [keys_after_concat (ne_clear_of_touched? htouch), htouch]
  exact mem_rtake_moveToEnd _ _ _

/-- A further operation drops a key that it does not touch exactly if there is no room for
it behind the keys touched since. -/
theorem mem_keys_concat_iff
    (hlast : LastTouch (ofSize size) key (history ++ [operation]) before touch
      (since ++ [operation]))
    (hkept : operation ≠ .clear) :
    key ∈ ((ofSize size).after (history ++ [operation])).keys ↔
      key ∈ ((ofSize size).after history).keys ∧
        (touches ((ofSize size).after (before ++ [touch])) (since ++ [operation])).dedup.length <
          sizeInForce size (history ++ [operation]) := by
  obtain rfl : history = before ++ touch :: since := by
    have heq := hlast.history_eq
    rw [← List.cons_append, ← List.append_assoc] at heq
    exact List.append_cancel_right heq
  obtain ⟨-, hother⟩ := hlast.init
  have hsuffix := arrange_suffix (keys_suffix_touches size (before ++ touch :: since))
    (operation.touched? ((ofSize size).after (before ++ touch :: since)))
  rw [← touches_concat, touches_last hlast] at hsuffix
  rw [keys_after_concat hkept, mem_rtake_iff hlast.last hsuffix, mem_arrange hother]

/-- As long as the cache is not cleared, a key stays after its last touch as long as there
is room for it behind the keys touched since. -/
theorem mem_keys_iff_of_last (hlast : LastTouch (ofSize size) key history before touch since)
    (hkept : .clear ∉ since) :
    key ∈ ((ofSize size).after history).keys ↔
      ∀ upTo, upTo <+: since →
        (touches ((ofSize size).after (before ++ [touch])) upTo).dedup.length <
          sizeInForce size (before ++ touch :: upTo) := by
  induction since using List.reverseRecOn generalizing history with
  | nil =>
      rw [hlast.history_eq, mem_keys_of_touch hlast.touches_key]
      simp [touches]
  | append_singleton since operation ih =>
      obtain rfl : history = (before ++ touch :: since) ++ [operation] := by
        rw [hlast.history_eq, List.append_assoc, List.cons_append]
      rw [List.mem_append, not_or, List.mem_singleton] at hkept
      rw [mem_keys_concat_iff hlast (Ne.symm hkept.2), ih hlast.init.1 hkept.1]
      constructor
      · rintro ⟨hearlier, hnow⟩ upTo hupTo
        rcases List.prefix_concat_iff.mp hupTo with rfl | hupTo
        · rwa [← List.cons_append, ← List.append_assoc]
        · exact hearlier upTo hupTo
      · intro hall
        refine ⟨fun upTo hupTo => hall upTo (hupTo.trans (List.prefix_append _ _)), ?_⟩
        have hnow := hall _ List.prefix_rfl
        rwa [← List.cons_append, ← List.append_assoc] at hnow

/-! ## Which keys are kept -/

theorem exists_lastTouch (hmem : key ∈ touches cache history) :
    ∃ before touch since, LastTouch cache key history before touch since := by
  induction history using List.reverseRecOn with
  | nil => exact absurd hmem List.not_mem_nil
  | append_singleton history operation ih =>
      by_cases hnow : operation.touched? (cache.after history) = some key
      · exact ⟨history, operation, [], rfl, hnow, List.not_mem_nil⟩
      · rw [touches_concat, List.mem_append, Option.mem_toList] at hmem
        obtain ⟨before, touch, since, hlast⟩ := ih (hmem.resolve_right hnow)
        have hafter : (cache.after (before ++ [touch])).after since = cache.after history := by
          rw [hlast.history_eq, ← after_append, List.append_assoc, List.singleton_append]
        refine ⟨before, touch, since ++ [operation], ?_, hlast.touches_key, ?_⟩
        · rw [hlast.history_eq, List.append_assoc, List.cons_append]
        · rw [touches_concat, hafter, List.mem_append, not_or, Option.mem_toList]
          exact ⟨hlast.last, hnow⟩

/-- An entry was set just now, or it is an old one of a key that was not. -/
theorem mem_entries_of_mem_perform {recorded : Option α}
    (hentry : (key, recorded) ∈ (operation.perform cache).entries) :
    (∃ value, operation = .set key value ∧ recorded = some value) ∨
      operation.valueFor? key = none ∧ operation ≠ .clear ∧ (key, recorded) ∈ cache.entries := by
  cases operation with
  | set other value =>
      have hmem := mem_entries_of_mem_evict hentry
      rw [List.mem_append, List.mem_singleton] at hmem
      rcases hmem with hold | hnew
      · obtain ⟨hmem, hne⟩ := List.mem_filter.mp hold
        have hother : ¬ other = key := fun heq => by simp [heq] at hne
        exact Or.inr ⟨if_neg hother, nofun, hmem⟩
      · obtain ⟨rfl, rfl⟩ := Prod.mk.inj hnew
        exact Or.inl ⟨value, rfl, rfl⟩
  | get other => exact Or.inr ⟨rfl, nofun, mem_entries_of_mem_get hentry⟩
  | resize maxSize => exact Or.inr ⟨rfl, nofun, mem_entries_of_mem_resize hentry⟩
  | clear => exact absurd hentry List.not_mem_nil
  | count => exact Or.inr ⟨rfl, nofun, hentry⟩
  | probe other => exact Or.inr ⟨rfl, nofun, hentry⟩

/-- An entry holds the value set last for its key, which was set since the last clearing. -/
theorem of_mem_entries_after {recorded : Option α}
    (hentry : (key, recorded) ∈ ((ofSize size).after history).entries) :
    IsSetSinceClear key history ∧
      ∃ value, recorded = some value ∧ lastValue? key history = some value := by
  induction history using List.reverseRecOn with
  | nil => exact absurd hentry List.not_mem_nil
  | append_singleton history operation ih =>
      rw [after_concat] at hentry
      rw [lastValue?_concat]
      rcases mem_entries_of_mem_perform hentry with ⟨value, rfl, rfl⟩ | ⟨hother, hclear, hold⟩
      · refine ⟨⟨history, value, [], rfl, List.not_mem_nil⟩, value, rfl, ?_⟩
        rw [Operation.valueFor?, if_pos rfl]
        rfl
      · obtain ⟨⟨before, set, since, hhistory, hsince⟩, value, hvalue, hlast⟩ := ih hold
        refine ⟨⟨before, set, since ++ [operation], ?_, ?_⟩, value, hvalue, ?_⟩
        · rw [hhistory, List.append_assoc, List.cons_append]
        · simp [hsince, Ne.symm hclear]
        · rw [hother, hlast]
          rfl

/-- No clearing comes after the last touch of a key that was set since the last one. -/
theorem LastTouch.clear_notMem (hlast : LastTouch cache key history before touch since)
    (hset : IsSetSinceClear key history) : .clear ∉ since := by
  obtain ⟨front, value, rest, hhistory, hrest⟩ := hset
  rcases List.append_eq_append_iff.mp (hlast.history_eq.symm.trans hhistory) with
    ⟨between, hfront, hsince⟩ | ⟨between, hbefore, hrest'⟩
  · cases between with
    | nil =>
        obtain ⟨-, rfl⟩ := List.cons.inj hsince
        exact hrest
    | cons head between =>
        -- the key would be set after it was touched last
        rw [List.cons_append] at hsince
        obtain ⟨rfl, rfl⟩ := List.cons.inj hsince
        have hnone := hlast.last
        rw [touches_append, touches, List.mem_append, List.mem_append, not_or, not_or] at hnone
        exact absurd (List.mem_singleton_self key) hnone.2.1
  · cases between with
    | nil =>
        obtain ⟨-, rfl⟩ := List.cons.inj hrest'
        exact hrest
    | cons head between =>
        rw [List.cons_append] at hrest'
        obtain ⟨-, rfl⟩ := List.cons.inj hrest'
        exact fun hmem => hrest (by simp [hmem])

/-- A key is kept if it was set since the last clearing and is recent ever since it was
touched last. -/
theorem mem_keys_after_iff (size : Nat) (history : List (Operation κ α)) (key : κ) :
    key ∈ ((ofSize size).after history).keys ↔
      IsSetSinceClear key history ∧ IsRecent size key history := by
  constructor
  · intro hmem
    obtain ⟨⟨found, recorded⟩, hentry, rfl⟩ := List.mem_map.mp hmem
    obtain ⟨hset, -⟩ := of_mem_entries_after hentry
    have htouched := List.mem_dedup.mp ((keys_suffix_touches size history).subset hmem)
    obtain ⟨before, touch, since, hlast⟩ := exists_lastTouch htouched
    exact ⟨hset, before, touch, since, hlast,
      (mem_keys_iff_of_last hlast (hlast.clear_notMem hset)).mp hmem⟩
  · rintro ⟨hset, before, touch, since, hlast, hroom⟩
    exact (mem_keys_iff_of_last hlast (hlast.clear_notMem hset)).mpr hroom

theorem get_fst_of_mem_keys (hmem : key ∈ ((ofSize size).after history).keys) :
    ∃ value, lastValue? key history = some value ∧
      (((ofSize size).after history).get key).1 = some value := by
  obtain ⟨entry, hentry, hkey⟩ := List.mem_map.mp hmem
  have hsome : ((ofSize size).after history).entries.find? (·.1 = key) ≠ none := by
    rw [ne_eq, List.find?_eq_none]
    exact fun hnone => hnone entry hentry (decide_eq_true hkey)
  obtain ⟨⟨other, recorded⟩, hfind⟩ := Option.ne_none_iff_exists'.mp hsome
  obtain rfl : other = key := by simpa using List.find?_some hfind
  obtain ⟨-, value, rfl, hlast⟩ := of_mem_entries_after (List.mem_of_find?_eq_some hfind)
  refine ⟨value, hlast, ?_⟩
  rw [get_fst, peek?, hfind]
  rfl

theorem get_of_notMem_keys (hmissing : key ∉ cache.keys) : cache.get key = (none, cache) := by
  have hnone : cache.peek? key = none := by
    rw [Option.eq_none_iff_forall_not_mem]
    exact fun value hfound =>
      hmissing (List.mem_map_of_mem (f := (·.1)) (mem_entries_of_peek? hfound))
  rw [get, hnone]

/-- Whether the first key was touched for the last time before the second one was. -/
def TouchedBefore (touched : List κ) (earlier later : κ) : Prop :=
  ∃ before since, touched = before ++ earlier :: since ∧ earlier ∉ since ∧ later ∈ since

theorem pairwise_dedup (touched : List κ) : touched.dedup.Pairwise (TouchedBefore touched) := by
  induction touched with
  | nil => exact List.Pairwise.nil
  | cons head tail ih =>
      have hlater : tail.dedup.Pairwise (TouchedBefore (head :: tail)) :=
        ih.imp fun ⟨before, since, htail, hlast⟩ =>
          ⟨head :: before, since, congrArg (head :: ·) htail, hlast⟩
      by_cases hmem : head ∈ tail
      · rwa [List.dedup_cons_of_mem hmem]
      · rw [List.dedup_cons_of_notMem hmem]
        refine List.pairwise_cons.mpr ⟨fun later hmore => ?_, hlater⟩
        exact ⟨[], tail, rfl, hmem, List.mem_dedup.mp hmore⟩

/-- What a cache holds after a history, and what looking things up in it does. -/
structure HoldsRecent (size : Nat) (history : List (Operation κ α)) (cache : StyleCache κ α) :
    Prop where
  contains_iff : ∀ key, cache.contains key = true ↔
    IsSetSinceClear key history ∧ IsRecent size key history
  found : ∀ key, cache.contains key = true →
    ∃ value, lastValue? key history = some value ∧ (cache.get key).1 = some value
  missed : ∀ key, ¬ cache.contains key = true → cache.get key = (none, cache)
  asked : Operation.count.perform cache = cache ∧
    ∀ key, (Operation.probe key).perform cache = cache
  ordered : cache.keys.Pairwise (TouchedBefore (touches (ofSize size) history))
  bounded : cache.size ≤ sizeInForce size history

/-- After any history a cache holds exactly the keys used least long ago, for which there was
room ever since, in the order of their last use and with the values set last. -/
theorem after_holdsRecent (size : Nat) (history : List (Operation κ α)) :
    HoldsRecent size history ((ofSize size).after history) where
  contains_iff key := contains_iff_mem_keys.trans (mem_keys_after_iff size history key)
  found key hkey := get_fst_of_mem_keys (contains_iff_mem_keys.mp hkey)
  missed key hkey := get_of_notMem_keys (mt contains_iff_mem_keys.mpr hkey)
  asked := ⟨rfl, fun _ => rfl⟩
  ordered := (pairwise_dedup _).sublist (keys_suffix_touches size history).sublist
  bounded := by
    have hbounded := isBounded_after size history
    rwa [IsBounded, maxSize_after, Int.toNat_natCast] at hbounded

example :
    ((ofSize 2).after [.set 1 'a', .set 2 'b', .get 1, .get 4, .set 3 'c', .probe 2]).keys =
      [1, 3] := by
  decide

end History

end ComponentCompiler.StyleCache
