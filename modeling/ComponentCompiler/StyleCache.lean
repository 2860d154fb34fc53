/-!
# A bounded cache

The cache keeps the entries that were used last, up to a size.  Entries are
listed by their last use, the oldest first; setting a key and finding it are
uses.  An entry can also record that there is nothing for its key: such an entry
is not found and looking it up is no use.
-/

namespace ComponentCompiler

/-- A cache from keys to values, bounded by `maxSize`.  A negative size can not be
kept: whoever sets one is told by `isOverdrawn`. -/
structure StyleCache (κ α : Type) where
  maxSize : Int := 100
  entries : List (κ × Option α) := []

namespace StyleCache

variable {κ α : Type} [DecidableEq κ]

/-- Whether no number of entries would be small enough. -/
def isOverdrawn (cache : StyleCache κ α) : Bool := cache.maxSize < 0

/-- The keys, the one used longest ago first. -/
def keys (cache : StyleCache κ α) : List κ := cache.entries.map (·.1)

/-- How many entries there are. -/
def size (cache : StyleCache κ α) : Nat := cache.entries.length

/-- Whether there is an entry for a key. -/
def contains (cache : StyleCache κ α) (key : κ) : Bool := cache.entries.any (·.1 = key)

/-- What is recorded for a key. -/
def peek? (cache : StyleCache κ α) (key : κ) : Option α :=
  (cache.entries.find? (·.1 = key)).bind (·.2)

/-- The entries of all other keys. -/
def others (cache : StyleCache κ α) (key : κ) : List (κ × Option α) :=
  cache.entries.filter (·.1 ≠ key)

/-- Drops the oldest entries until there are no more than the size allows. -/
def evict (cache : StyleCache κ α) : StyleCache κ α :=
  { cache with entries := cache.entries.drop (cache.entries.length - cache.maxSize.toNat) }

/-- Looks a key up.  If it is found it becomes the one used last. -/
def get (cache : StyleCache κ α) (key : κ) : Option α × StyleCache κ α :=
  match cache.peek? key with
  | some value => (some value, { cache with entries := cache.others key ++ [(key, some value)] })
  | none => (none, cache)

/-- Records a value for a key, which becomes the one used last. -/
def set (cache : StyleCache κ α) (key : κ) (value : Option α) : StyleCache κ α :=
  { cache with entries := cache.others key ++ [(key, value)] }.evict

/-- Changes the size. -/
def resize (cache : StyleCache κ α) (maxSize : Int) : StyleCache κ α :=
  { cache with maxSize := maxSize }.evict

/-- Drops all entries. -/
def clear (cache : StyleCache κ α) : StyleCache κ α := { cache with entries := [] }

@[simp] theorem get_fst (cache : StyleCache κ α) (key : κ) :
    (cache.get key).1 = cache.peek? key := by
  unfold get
  split <;> simp_all

omit [DecidableEq κ] in
@[simp] theorem maxSize_evict (cache : StyleCache κ α) : cache.evict.maxSize = cache.maxSize := rfl

omit [DecidableEq κ] in
/-- After old entries were dropped there are no more than the size allows. -/
theorem size_evict_le (cache : StyleCache κ α) : cache.evict.size ≤ cache.maxSize.toNat := by
  simp only [size, evict, List.length_drop]
  omega

theorem size_set_le (cache : StyleCache κ α) (key : κ) (value : Option α) :
    (cache.set key value).size ≤ cache.maxSize.toNat :=
  size_evict_le _

omit [DecidableEq κ] in
theorem size_resize_le (cache : StyleCache κ α) (maxSize : Int) :
    (cache.resize maxSize).size ≤ maxSize.toNat :=
  size_evict_le _

end StyleCache

end ComponentCompiler
