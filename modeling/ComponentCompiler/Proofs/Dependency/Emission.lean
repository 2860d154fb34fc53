import ComponentCompiler.Dependency

/-!
# Paths emitted one after the other

Emitting a path records it and tells the listeners.  A listener can stop this by
failing, and it can have further paths recorded by emitting them itself.  What
is recorded is known beforehand if no listener emits anything: exactly the
emitted paths, up to the one at which a listener fails.
-/

namespace ComponentCompiler

namespace Tracker

/-- The tracker after paths were emitted one after the other, until a listener fails. -/
def after (tracker : Tracker) : List String → Tracker
  | [] => tracker
  | path :: rest =>
      match (emit path).run tracker with
      | .ok _ next => next.after rest
      | .error _ stopped => stopped

/-- No listener fails while paths are emitted one after the other. -/
def Takes (tracker : Tracker) : List String → Prop
  | [] => True
  | path :: rest =>
      match (emit path).run tracker with
      | .ok _ next => next.Takes rest
      | .error _ _ => False

section

variable {tracker next : Tracker} {path : String} {p q : List String}

theorem after_cons_of_ok {rest : List String}
    (hemit : (emit path).run tracker = .ok () next) :
    tracker.after (path :: rest) = next.after rest := by
  rw [after, hemit]

theorem after_cons_of_error {rest : List String} {interruption : Interruption}
    (hemit : (emit path).run tracker = .error interruption next) :
    tracker.after (path :: rest) = next := by
  rw [after, hemit]

theorem takes_cons_of_ok {rest : List String} (hemit : (emit path).run tracker = .ok () next) :
    tracker.Takes (path :: rest) ↔ next.Takes rest := by
  rw [Takes, hemit]

theorem not_takes_cons_of_error {rest : List String} {interruption : Interruption}
    (hemit : (emit path).run tracker = .error interruption next) :
    ¬ tracker.Takes (path :: rest) := by
  rw [Takes, hemit]
  exact id

theorem after_append (h : tracker.Takes p) :
    tracker.after (p ++ q) = (tracker.after p).after q := by
  induction p generalizing tracker with
  | nil => rfl
  | cons path rest ih =>
      cases hemit : (emit path).run tracker with
      | ok _ next =>
          rw [List.cons_append, after_cons_of_ok hemit, after_cons_of_ok hemit]
          exact ih ((takes_cons_of_ok hemit).mp h)
      | error _ _ => exact absurd h (not_takes_cons_of_error hemit)

theorem takes_append :
    tracker.Takes (p ++ q) ↔ tracker.Takes p ∧ (tracker.after p).Takes q := by
  induction p generalizing tracker with
  | nil => exact ⟨fun h => ⟨trivial, h⟩, fun h => h.2⟩
  | cons path rest ih =>
      cases hemit : (emit path).run tracker with
      | ok _ next =>
          rw [List.cons_append, takes_cons_of_ok hemit, takes_cons_of_ok hemit,
            after_cons_of_ok hemit]
          exact ih
      | error _ _ =>
          rw [List.cons_append]
          constructor
          · exact fun h => absurd h (not_takes_cons_of_error hemit)
          · exact fun h => absurd h.1 (not_takes_cons_of_error hemit)

theorem Takes.append (hp : tracker.Takes p) (hq : (tracker.after p).Takes q) :
    tracker.Takes (p ++ q) :=
  takes_append.mpr ⟨hp, hq⟩

end

/-! ## What a single path does -/

/-- The tracker that is left has the property, and an interruption is an allowed one. -/
def Leaves (P : Tracker → Prop) (allowed : Interruption → Prop) {α : Type} :
    EStateM.Result Interruption Tracker α → Prop
  | .ok _ next => P next
  | .error interruption next => allowed interruption ∧ P next

/-- From a tracker with the property the step leads to one with it, and it is
interrupted only as allowed. -/
def Keeps (P : Tracker → Prop) (allowed : Interruption → Prop) {α : Type}
    (step : EStateM Interruption Tracker α) : Prop :=
  ∀ tracker, P tracker → Leaves P allowed (step.run tracker)

namespace Keeps

variable {P : Tracker → Prop} {allowed : Interruption → Prop} {α β γ : Type}

theorem modify {f : Tracker → Tracker} (hf : ∀ tracker, P tracker → P (f tracker)) :
    Keeps P allowed (modify f) :=
  hf

theorem throw {interruption : Interruption} (h : allowed interruption) :
    Keeps P allowed (throw interruption : EStateM Interruption Tracker α) :=
  fun _ htracker => ⟨h, htracker⟩

theorem bind {first : EStateM Interruption Tracker α} {rest : α → EStateM Interruption Tracker β}
    (hfirst : Keeps P allowed first) (hrest : ∀ a, Keeps P allowed (rest a)) :
    Keeps P allowed (first >>= rest) := by
  intro tracker htracker
  have hstep := hfirst tracker htracker
  rw [EStateM.run_bind]
  cases hrun : first.run tracker with
  | ok a next =>
      rw [hrun] at hstep
      exact hrest a next hstep
  | error interruption next =>
      rw [hrun] at hstep
      exact hstep

theorem forM {f : γ → EStateM Interruption Tracker PUnit} (items : List γ)
    (hstep : ∀ c ∈ items, Keeps P allowed (f c)) : Keeps P allowed (items.forM f) := by
  induction items with
  | nil => exact fun _ htracker => htracker
  | cons c rest ih =>
      exact bind (hstep c List.mem_cons_self) fun _ =>
        ih fun d hd => hstep d (List.mem_cons_of_mem c hd)

end Keeps

end Tracker

/-- The listener reacts in allowed ways only. -/
def Listener.Reacts (allowed : Reaction → Prop) (listener : Listener) : Prop :=
  ∀ path, ∀ reaction ∈ listener.react path, allowed reaction

/-- A reaction that emits no further path. -/
def Reaction.IsMute (reaction : Reaction) : Prop := ∀ further, reaction ≠ .report further

/-- A reaction that neither emits a further path nor fails. -/
def Reaction.IsPassive (reaction : Reaction) : Prop := reaction = .unsubscribe

theorem Reaction.IsPassive.isMute {reaction : Reaction} (h : reaction.IsPassive) :
    reaction.IsMute := by
  intro further heq
  rw [IsPassive, heq] at h
  simp at h

namespace Tracker

/-- What is done for one listener when a path is emitted. -/
def deliver (depth : Nat) (path : String) (listener : Listener) :
    EStateM Interruption Tracker Unit := do
  modify (·.note listener path)
  (listener.react path).forM fun reaction =>
    match reaction with
    | .fail message => throw (.listenerFailed message)
    | .unsubscribe => modify (·.unsubscribe listener.name)
    | .report further => emitWithin depth further

theorem emit_run (path : String) (tracker : Tracker) :
    (emit path).run tracker =
      (tracker.listeners.forM (deliver 299 path)).run (tracker.record path) := by
  rw [emit, maxNesting, emitWithin]
  rfl

/-- All listeners react in allowed ways only. -/
def Hears (allowed : Reaction → Prop) (tracker : Tracker) : Prop :=
  ∀ listener ∈ tracker.listeners, listener.Reacts allowed

/-- No listener emits paths itself. -/
abbrev IsMute (tracker : Tracker) : Prop := tracker.Hears Reaction.IsMute

/-- No listener emits paths itself or fails. -/
abbrev IsPassive (tracker : Tracker) : Prop := tracker.Hears Reaction.IsPassive

/-- The tracker holds these paths, and its listeners react in allowed ways only. -/
structure Holds (allowed : Reaction → Prop) (paths : List String) (tracker : Tracker) : Prop where
  paths_eq : tracker.paths = paths
  hears : tracker.Hears allowed

section

variable {kind : Reaction → Prop} {allowed : Interruption → Prop}

/-- A listener that emits nothing itself leaves the recorded paths alone. -/
theorem keeps_deliver (hmute : ∀ reaction, kind reaction → reaction.IsMute)
    (hfail : ∀ message, kind (.fail message) → allowed (.listenerFailed message))
    {listener : Listener} (hlistener : listener.Reacts kind) (depth : Nat) (path : String)
    (paths : List String) : Keeps (Holds kind paths) allowed (deliver depth path listener) := by
  refine Keeps.bind (Keeps.modify ?_) fun _ => Keeps.forM _ ?_
  · exact fun tracker h => ⟨h.paths_eq, h.hears⟩
  · intro reaction hreaction
    have hkind := hlistener path reaction hreaction
    cases reaction with
    | fail message => exact Keeps.throw (hfail message hkind)
    | unsubscribe =>
        refine Keeps.modify fun tracker h => ⟨h.paths_eq, ?_⟩
        exact fun other hother => h.hears other (List.mem_of_mem_eraseP hother)
    | report further => exact absurd rfl (hmute _ hkind further)

/-- Emitting a path records just this one if no listener emits anything itself. -/
theorem emit_holds (hmute : ∀ reaction, kind reaction → reaction.IsMute)
    (hfail : ∀ message, kind (.fail message) → allowed (.listenerFailed message))
    {tracker : Tracker} (hhears : tracker.Hears kind) (path : String) :
    Leaves (Holds kind (tracker.paths ++ [path])) allowed ((emit path).run tracker) := by
  have hdeliver : Keeps (Holds kind (tracker.paths ++ [path])) allowed
      (tracker.listeners.forM (deliver 299 path)) := by
    refine Keeps.forM _ fun listener hmem => ?_
    exact keeps_deliver hmute hfail (hhears listener hmem) 299 path _
  rw [emit_run]
  exact hdeliver (tracker.record path) ⟨rfl, hhears⟩

end

/-! ## What several paths do -/

section

variable {tracker : Tracker}

/-- If no listener emits anything itself, what is recorded is a beginning of the emitted
paths, and all of them if no listener fails. -/
theorem exists_heard_of_isMute (hmute : tracker.IsMute) (paths : List String) :
    ∃ heard, heard <+: paths ∧ (tracker.after paths).paths = tracker.paths ++ heard ∧
      (tracker.Takes paths → heard = paths) := by
  induction paths generalizing tracker with
  | nil => exact ⟨[], List.prefix_rfl, (List.append_nil _).symm, fun _ => rfl⟩
  | cons path rest ih =>
      have hemit : Leaves (Holds Reaction.IsMute (tracker.paths ++ [path])) (fun _ => True)
          ((emit path).run tracker) := emit_holds (fun _ h => h) (fun _ _ => trivial) hmute path
      cases hrun : (emit path).run tracker with
      | ok _ next =>
          rw [hrun] at hemit
          obtain ⟨heard, hprefix, hpaths, hall⟩ := ih hemit.hears
          refine ⟨path :: heard, (List.prefix_cons_inj path).mpr hprefix, ?_, ?_⟩
          · rw [after_cons_of_ok hrun, hpaths, hemit.paths_eq, List.append_assoc]
            rfl
          · intro htakes
            rw [hall ((takes_cons_of_ok hrun).mp htakes)]
      | error _ next =>
          rw [hrun] at hemit
          refine ⟨[path], List.prefix_append [path] rest, ?_, ?_⟩
          · rw [after_cons_of_error hrun]
            exact hemit.2.paths_eq
          · exact fun htakes => absurd htakes (not_takes_cons_of_error hrun)

theorem paths_after_of_takes (hmute : tracker.IsMute) {paths : List String}
    (htakes : tracker.Takes paths) : (tracker.after paths).paths = tracker.paths ++ paths := by
  obtain ⟨heard, -, hpaths, hall⟩ := exists_heard_of_isMute hmute paths
  rw [hpaths, hall htakes]

theorem IsPassive.isMute (hpassive : tracker.IsPassive) : tracker.IsMute :=
  fun listener hlistener path reaction hreaction =>
    (hpassive listener hlistener path reaction hreaction).isMute

/-- Listeners that neither emit anything nor fail stop no path, and stay like this. -/
theorem emit_of_isPassive (hpassive : tracker.IsPassive) (path : String) :
    ∃ next, (emit path).run tracker = .ok () next ∧ next.IsPassive := by
  have hfail (message : String) (h : (Reaction.fail message).IsPassive) : False := by
    simp [Reaction.IsPassive] at h
  have hemit : Leaves (Holds Reaction.IsPassive (tracker.paths ++ [path])) (fun _ => False)
      ((emit path).run tracker) :=
    emit_holds (fun _ => Reaction.IsPassive.isMute) hfail hpassive path
  cases hrun : (emit path).run tracker with
  | ok _ next =>
      rw [hrun] at hemit
      exact ⟨next, rfl, hemit.hears⟩
  | error _ next =>
      rw [hrun] at hemit
      exact hemit.1.elim

theorem takes_of_isPassive (hpassive : tracker.IsPassive) (paths : List String) :
    tracker.Takes paths := by
  induction paths generalizing tracker with
  | nil => exact trivial
  | cons path rest ih =>
      obtain ⟨next, hemit, hnext⟩ := emit_of_isPassive hpassive path
      exact (takes_cons_of_ok hemit).mpr (ih hnext)

end

end Tracker

end ComponentCompiler
