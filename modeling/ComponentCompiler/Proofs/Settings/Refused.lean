import ComponentCompiler.Proofs.Settings.Applied

/-!
# Where a configuration stops

A refused configuration has stopped at one of its entries, or at one of the compilers that an
entry lists.  What it leaves is what the entries in front make of the options and the registry
when they are applied alone, with the compilers listed before the refused one registered.
-/

namespace ComponentCompiler.Settings

variable {verbose : Bool} {t t' : Target} {key : String} {value : Value} {refusal : Refusal}
  {entries : Entries Value}

/-! ## Steps one after the other -/

namespace Applying

variable {α β γ : Type} {first : Applying α} {next : α → Applying β} {f : γ → Applying Unit}
  {xs ys : List γ}

theorem bind_of_ok {a : α} {mid : Target} (h : first t = .ok a mid) :
    (first >>= next) t = next a mid := by
  change EStateM.bind first next t = _
  rw [EStateM.bind, h]

theorem bind_of_error (h : first t = .error refusal t') :
    (first >>= next) t = .error refusal t' := by
  change EStateM.bind first next t = _
  rw [EStateM.bind, h]

theorem get_bind {step : Target → Applying α} : (get >>= step) t = step t t := rfl

theorem forM_append_of_ok {mid : Target} (h : xs.forM f t = .ok () mid) :
    (xs ++ ys).forM f t = ys.forM f mid := by
  induction xs generalizing t with
  | nil =>
      obtain rfl := (EStateM.Result.ok.inj h).2
      rfl
  | cons x xs ih =>
      obtain ⟨_, between, hfirst, hrest⟩ := exists_of_bind_ok h
      exact (bind_of_ok hfirst).trans (ih hrest)

theorem exists_of_forM_append_ok (h : (xs ++ ys).forM f t = .ok () t') :
    ∃ mid, xs.forM f t = .ok () mid ∧ ys.forM f mid = .ok () t' := by
  induction xs generalizing t with
  | nil => exact ⟨t, rfl, h⟩
  | cons x xs ih =>
      obtain ⟨_, between, hfirst, hrest⟩ := exists_of_bind_ok h
      obtain ⟨mid, hxs, hys⟩ := ih hrest
      exact ⟨mid, (bind_of_ok hfirst).trans hxs, hys⟩

theorem forM_cons_of_error {x : γ} (h : f x t = .error refusal t') :
    (x :: xs).forM f t = .error refusal t' := bind_of_error h

/-- A run over a list fails where one of the steps does, those in front having gone well. -/
theorem forM_error_iff :
    xs.forM f t = .error refusal t' ↔ ∃ front x back mid, xs = front ++ x :: back ∧
      front.forM f t = .ok () mid ∧ f x mid = .error refusal t' := by
  constructor
  · intro h
    induction xs generalizing t with
    | nil => exact nomatch h
    | cons x xs ih =>
        cases hfirst : f x t with
        | error refusal mid =>
            obtain ⟨rfl, rfl⟩ := EStateM.Result.error.inj ((forM_cons_of_error hfirst).symm.trans h)
            exact ⟨[], x, xs, t, rfl, rfl, hfirst⟩
        | ok _ between =>
            have hrest : xs.forM f between = .error refusal t' := (bind_of_ok hfirst).symm.trans h
            obtain ⟨front, y, back, mid, rfl, hfront, hstep⟩ := ih hrest
            exact ⟨x :: front, y, back, mid, rfl, (bind_of_ok hfirst).trans hfront, hstep⟩
  · rintro ⟨front, x, back, mid, rfl, hfront, hstep⟩
    rw [forM_append_of_ok hfront]
    exact forM_cons_of_error hstep

/-! ## What a refused step leaves -/

theorem debug_ne_error {message : String} : debug verbose message t ≠ .error refusal t' := by
  intro h
  rw [debug] at h
  split at h <;> cases h

/-- A compiler that is refused changes nothing. -/
theorem register_error_iff {tag : String} :
    register verbose tag value t = .error refusal t' ↔
      t' = t ∧ ∃ cause, refusal = .registration cause ∧
        t.registry.register (.text tag) value = .error cause := by
  rw [register, get_bind]
  cases hregistry : t.registry.register (.text tag) value with
  | error cause =>
      constructor
      · intro h
        obtain ⟨rfl, rfl⟩ := EStateM.Result.error.inj h
        exact ⟨rfl, cause, rfl, rfl⟩
      · rintro ⟨rfl, other, rfl, hother⟩
        obtain rfl := Except.error.inj hother
        rfl
  | ok registry =>
      constructor
      · exact fun h => absurd h debug_ne_error
      · rintro ⟨-, cause, -, hcause⟩
        exact nomatch hcause

theorem assign_error {name : OptionName} (h : assign name value t = .error refusal t') :
    t' = t := by
  rw [assign, get_bind] at h
  cases hoptions : t.options.assign name value with
  | error problems =>
      rw [hoptions] at h
      exact (EStateM.Result.error.inj h).2.symm
  | ok options =>
      rw [hoptions] at h
      exact nomatch h

/-- An entry that is refused changes nothing, unless it lists compilers. -/
theorem entry_error (h : entry verbose key value t = .error refusal t')
    (hwhole : key ≠ compilersKey ∨ ∀ listed, value ≠ .record listed) : t' = t := by
  unfold entry at h
  split at h
  case isTrue =>
    rw [get_bind] at h
    split at h
    case isTrue =>
      cases hsettings : mergeSettings t.options.minifierSettings value with
      | error cause =>
          rw [hsettings] at h
          exact (EStateM.Result.error.inj h).2.symm
      | ok settings =>
          rw [hsettings] at h
          exact assign_error h
    case isFalse => exact nomatch h
  case isFalse =>
    split at h
    case isTrue hkey =>
      obtain rfl : key = compilersKey := eq_of_beq hkey
      cases hvalue : entriesOf value with
      | error cause =>
          rw [hvalue] at h
          exact (EStateM.Result.error.inj h).2.symm
      | ok compilers =>
          exact absurd (entriesOf_ok hvalue) (hwhole.resolve_left (fun hne => hne rfl) compilers)
    case isFalse =>
      cases hname : OptionName.ofKey? key with
      | some name =>
          rw [hname] at h
          exact assign_error h
      | none =>
          rw [hname] at h
          exact nomatch h

end Applying

theorem entriesOf_error_iff :
    entriesOf value = .error refusal ↔
      (∀ entries, value ≠ .record entries) ∧ refusal = .noEntries value.typeName := by
  constructor
  · intro h
    cases value
    case record entries => exact nomatch h
    all_goals exact ⟨fun _ => nofun, (Except.error.inj h).symm⟩
  · rintro ⟨hnone, rfl⟩
    cases value
    case record entries => exact absurd rfl (hnone entries)
    all_goals rfl

/-! ## Where a run stops -/

/-- Where a configuration stops and why, with what it leaves. -/
inductive Stops (verbose : Bool) (t : Target) : Value → Refusal → Target → Prop
  /-- It is no record. -/
  | noEntries {value : Value} (hvalue : ∀ entries, value ≠ .record entries) :
      Stops verbose t value (.noEntries value.typeName) t
  /-- An entry is refused as a whole and leaves what the entries in front have done. -/
  | atEntry {front back : Entries Value} {key : String} {value : Value} {refusal : Refusal}
      {t' : Target} (hfront : Applying.config verbose (.record front) t = .ok () t')
      (hwhole : key ≠ compilersKey ∨ ∀ listed, value ≠ .record listed)
      (hrefused : Applying.entry verbose key value t' = .error refusal t') :
      Stops verbose t (.record (front ++ (key, value) :: back)) refusal t'
  /-- A compiler of a list is refused, those listed before it having been registered. -/
  | atCompiler {front back listed more : Entries Value} {tag : String} {function : Value}
      {cause : Registry.Refusal} {t' : Target}
      (hfront : Applying.config verbose (.record (front ++ [(compilersKey, .record listed)])) t =
        .ok () t')
      (hrefused : t'.registry.register (.text tag) function = .error cause) :
      Stops verbose t
        (.record (front ++ (compilersKey, .record (listed ++ (tag, function) :: more)) :: back))
        (.registration cause) t'

namespace Applying

/-- A configuration is refused exactly where it stops, and leaves what it has done so far. -/
theorem config_error_iff_stops :
    config verbose value t = .error refusal t' ↔ Stops verbose t value refusal t' := by
  constructor
  · intro h
    cases hvalue : entriesOf value with
    | error cause =>
        rw [config, hvalue] at h
        obtain ⟨rfl, rfl⟩ := EStateM.Result.error.inj h
        obtain ⟨hnone, rfl⟩ := entriesOf_error_iff.mp hvalue
        exact .noEntries hnone
    | ok entries =>
        obtain rfl := entriesOf_ok hvalue
        obtain ⟨front, ⟨key, value⟩, back, mid, rfl, hfront, hentry⟩ := forM_error_iff.mp h
        have hunchanged := entry_error hentry
        by_cases hkey : key = compilersKey
        · subst hkey
          cases hcompilers : entriesOf value with
          | error cause =>
              have hnone := (entriesOf_error_iff.mp hcompilers).1
              obtain rfl := hunchanged (Or.inr hnone)
              exact .atEntry hfront (Or.inr hnone) hentry
          | ok compilers =>
              obtain rfl := entriesOf_ok hcompilers
              -- the entry is the run over its compilers
              obtain ⟨listed, ⟨tag, function⟩, more, between, rfl, hlisted, hregister⟩ :=
                forM_error_iff.mp hentry
              obtain ⟨rfl, cause, rfl, hrefused⟩ := register_error_iff.mp hregister
              refine .atCompiler ?_ hrefused
              exact (forM_append_of_ok hfront).trans (bind_of_ok hlisted)
        · obtain rfl := hunchanged (Or.inl hkey)
          exact .atEntry hfront (Or.inl hkey) hentry
  · intro h
    cases h with
    | noEntries hnone => rw [config, entriesOf_error_iff.mpr ⟨hnone, rfl⟩]; rfl
    | atEntry hfront _ hrefused => exact forM_error_iff.mpr ⟨_, _, _, _, rfl, hfront, hrefused⟩
    | atCompiler hfront hrefused =>
        obtain ⟨mid, hbefore, hlast⟩ := exists_of_forM_append_ok hfront
        obtain ⟨_, last, hlisted, hdone⟩ := exists_of_bind_ok hlast
        obtain rfl := (EStateM.Result.ok.inj hdone).2
        refine forM_error_iff.mpr ⟨_, _, _, mid, rfl, hbefore, ?_⟩
        exact forM_error_iff.mpr ⟨_, _, _, _, rfl, hlisted,
          register_error_iff.mpr ⟨rfl, _, rfl, hrefused⟩⟩

end Applying

end ComponentCompiler.Settings
