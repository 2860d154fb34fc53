import ComponentCompiler.Component.Build
import ComponentCompiler.Proofs.Result

/-!
# Outcomes of build steps

A build step gives a value or a failure, and leaves a state in both cases.  The
two are looked at apart here, so that a statement about what a step gives need
not mention what it writes to the console.  Two steps agree along a relation on
states if related states let them end alike and lead to related states; steps
composed from agreeing ones agree.
-/

namespace ComponentCompiler.Build

variable {α β : Type}

/-- What a step gives, or why it stops. -/
def outcome (build : Build α) (s : BuildState) : Except Failure α :=
  match build s with
  | .ok a _ => .ok a
  | .error e _ => .error e

/-- The state that a step leaves, whether or not it stops. -/
def final (build : Build α) (s : BuildState) : BuildState :=
  match build s with
  | .ok _ t => t
  | .error _ t => t

@[simp]
theorem outcome_pure (a : α) (s : BuildState) : outcome (pure a) s = .ok a := rfl

@[simp]
theorem final_pure (a : α) (s : BuildState) : final (pure a : Build α) s = s := rfl

@[simp]
theorem outcome_throw (e : Failure) (s : BuildState) :
    outcome (throw e : Build α) s = .error e := rfl

@[simp]
theorem final_throw (e : Failure) (s : BuildState) :
    final (throw e : Build α) s = s := rfl

@[simp]
theorem outcome_modify (f : BuildState → BuildState) (s : BuildState) :
    outcome (modify f) s = .ok () := rfl

@[simp]
theorem final_modify (f : BuildState → BuildState) (s : BuildState) :
    final (modify f) s = f s := rfl

@[simp]
theorem outcome_get (s : BuildState) : outcome get s = .ok s := rfl

@[simp]
theorem final_get (s : BuildState) : final get s = s := rfl

theorem outcome_bind (first : Build α) (next : α → Build β) (s : BuildState) :
    outcome (first >>= next) s =
      first.outcome s >>= fun a => (next a).outcome (first.final s) := by
  simp only [outcome, final, bind, EStateM.bind]
  cases first s <;> rfl

theorem outcome_bind_of_ok {first : Build α} {next : α → Build β} {s : BuildState}
    {a : α} (hfirst : first.outcome s = .ok a) :
    outcome (first >>= next) s = (next a).outcome (first.final s) := by
  rw [outcome_bind, hfirst]
  rfl

theorem outcome_bind_of_error {first : Build α} {next : α → Build β} {s : BuildState}
    {e : Failure} (hfirst : first.outcome s = .error e) :
    outcome (first >>= next) s = .error e := by
  rw [outcome_bind, hfirst]
  rfl

theorem final_bind_of_ok {first : Build α} {next : α → Build β} {s : BuildState}
    {a : α} (hfirst : first.outcome s = .ok a) :
    final (first >>= next) s = (next a).final (first.final s) := by
  simp only [outcome] at hfirst
  simp only [final, bind, EStateM.bind]
  cases hrun : first s with
  | ok b t =>
      rw [hrun] at hfirst
      obtain rfl := Except.ok.inj hfirst
      rfl
  | error e t => simp [hrun] at hfirst

theorem final_bind_of_error {first : Build α} {next : α → Build β} {s : BuildState}
    {e : Failure} (hfirst : first.outcome s = .error e) :
    final (first >>= next) s = first.final s := by
  simp only [outcome] at hfirst
  simp only [final, bind, EStateM.bind]
  cases hrun : first s with
  | ok b t => simp [hrun] at hfirst
  | error e t => rfl

theorem eq_of_outcome_error {build : Build α} {s : BuildState} {e : Failure}
    (h : build.outcome s = .error e) : build s = .error e (build.final s) := by
  rw [outcome] at h
  rw [final]
  cases hrun : build s with
  | ok a t => simp [hrun] at h
  | error e t =>
      rw [hrun] at h
      rw [Except.error.inj h]

theorem bind_apply_of_ok {first : Build α} {next : α → Build β} {s t : BuildState} {a : α}
    (h : first s = .ok a t) : (first >>= next) s = next a t := by
  simp only [bind, EStateM.bind, h]

theorem bind_apply_of_error {first : Build α} {next : α → Build β} {s t : BuildState}
    {e : Failure} (h : first s = .error e t) : (first >>= next) s = .error e t := by
  simp only [bind, EStateM.bind, h]

theorem final_bind_pure (first : Build α) (f : α → β) (s : BuildState) :
    final (first >>= fun a => pure (f a)) s = first.final s := by
  cases hfirst : first.outcome s with
  | ok a => exact final_bind_of_ok hfirst
  | error e => exact final_bind_of_error hfirst

theorem outcome_bind_pure (first : Build α) (f : α → β) (s : BuildState) :
    outcome (first >>= fun a => pure (f a)) s = (first.outcome s).map f := by
  cases hfirst : first.outcome s with
  | ok a => exact outcome_bind_of_ok hfirst
  | error e => exact outcome_bind_of_error hfirst

theorem outcome_mapM_cons {γ : Type} (f : γ → Build α) (c : γ) (rest : List γ)
    (s : BuildState) :
    outcome ((c :: rest).mapM f) s =
      (f c).outcome s >>= fun a =>
        ((rest.mapM f).outcome ((f c).final s)).map (a :: ·) := by
  rw [List.mapM_cons, outcome_bind]
  simp only [outcome_bind_pure]

theorem final_mapM_cons_of_ok {γ : Type} {f : γ → Build α} {c : γ} {rest : List γ}
    {s : BuildState} {a : α} (hfirst : (f c).outcome s = .ok a) :
    final ((c :: rest).mapM f) s = (rest.mapM f).final ((f c).final s) := by
  rw [List.mapM_cons, final_bind_of_ok hfirst, final_bind_pure]

theorem final_mapM_cons_of_error {γ : Type} {f : γ → Build α} {c : γ} {rest : List γ}
    {s : BuildState} {e : Failure} (hfirst : (f c).outcome s = .error e) :
    final ((c :: rest).mapM f) s = (f c).final s := by
  rw [List.mapM_cons, final_bind_of_error hfirst]

theorem discard_eq_bind (build : Build α) :
    (discard build : Build Unit) = build >>= fun _ => pure () := by
  funext s
  simp only [discard, Functor.mapConst, Function.comp, EStateM.map, bind, EStateM.bind]
  cases build s <;> rfl

theorem final_discard (build : Build α) (s : BuildState) :
    (discard build : Build Unit).final s = build.final s := by
  rw [discard_eq_bind]
  exact final_bind_pure build (fun _ => ()) s

theorem outcome_ofRun (run : ExtensionRun α) (s : BuildState) :
    (ofRun run).outcome s =
      match run.outcome with
      | .ok a => .ok a
      | .error failure => .error (.ofExtension failure) := by
  rw [ofRun, outcome_bind_of_ok (outcome_modify _ s)]
  cases run.outcome <;> rfl

theorem final_ofRun (run : ExtensionRun α) (s : BuildState) :
    (ofRun run).final s = { s with notes := s.notes ++ run.notes } := by
  rw [ofRun, final_bind_of_ok (outcome_modify _ s)]
  cases run.outcome <;> rfl

/-! ## Steps that only note something down -/

/-- The step looks at nothing in the state and changes nothing but the notes. -/
structure OnlyNotes (build : Build α) : Prop where
  outcome_eq : ∀ s t, build.outcome s = build.outcome t
  final_eq : ∀ s, ∃ notes, build.final s = { s with notes }

namespace OnlyNotes

theorem pure (a : α) : OnlyNotes (pure a) where
  outcome_eq _ _ := rfl
  final_eq s := ⟨s.notes, rfl⟩

theorem throw (e : Failure) : OnlyNotes (throw e : Build α) where
  outcome_eq _ _ := rfl
  final_eq s := ⟨s.notes, rfl⟩

theorem ofRun (run : ExtensionRun α) : OnlyNotes (ofRun run) where
  outcome_eq s t := by rw [outcome_ofRun, outcome_ofRun]
  final_eq s := ⟨_, final_ofRun run s⟩

theorem bind {first : Build α} {next : α → Build β} (hfirst : OnlyNotes first)
    (hnext : ∀ a, OnlyNotes (next a)) : OnlyNotes (first >>= next) where
  outcome_eq s t := by
    cases hs : first.outcome s with
    | ok a =>
        rw [outcome_bind_of_ok hs, outcome_bind_of_ok ((hfirst.outcome_eq t s).trans hs)]
        exact (hnext a).outcome_eq _ _
    | error e =>
        rw [outcome_bind_of_error hs,
          outcome_bind_of_error ((hfirst.outcome_eq t s).trans hs)]
  final_eq s := by
    obtain ⟨notes, hnotes⟩ := hfirst.final_eq s
    cases hs : first.outcome s with
    | ok a =>
        rw [final_bind_of_ok hs, hnotes]
        exact (hnext a).final_eq _
    | error e =>
        rw [final_bind_of_error hs, hnotes]
        exact ⟨notes, rfl⟩

end OnlyNotes

/-! ## Steps that agree -/

/-- From related states the two steps end alike and leave related states. -/
def Agree (R : BuildState → BuildState → Prop) (x y : Build α) : Prop :=
  ∀ s t, R s t → x.outcome s = y.outcome t ∧ R (x.final s) (y.final t)

namespace Agree

variable {R : BuildState → BuildState → Prop}

theorem pure (a : α) : Agree R (pure a) (pure a) := fun _ _ h => ⟨rfl, h⟩

theorem throw (e : Failure) : Agree R (throw e : Build α) (throw e) :=
  fun _ _ h => ⟨rfl, h⟩

theorem bind {x y : Build α} {f g : α → Build β} (hfirst : Agree R x y)
    (hnext : ∀ a, Agree R (f a) (g a)) : Agree R (x >>= f) (y >>= g) := by
  intro s t hst
  obtain ⟨houtcome, hfinal⟩ := hfirst s t hst
  cases hs : x.outcome s with
  | ok a =>
      have ht : y.outcome t = .ok a := houtcome ▸ hs
      rw [outcome_bind_of_ok hs, outcome_bind_of_ok ht, final_bind_of_ok hs,
        final_bind_of_ok ht]
      exact hnext a _ _ hfinal
  | error e =>
      have ht : y.outcome t = .error e := houtcome ▸ hs
      rw [outcome_bind_of_error hs, outcome_bind_of_error ht, final_bind_of_error hs,
        final_bind_of_error ht]
      exact ⟨rfl, hfinal⟩

theorem mapM {γ : Type} {f g : γ → Build α} (items : List γ)
    (hstep : ∀ c ∈ items, Agree R (f c) (g c)) : Agree R (items.mapM f) (items.mapM g) := by
  induction items with
  | nil => exact pure []
  | cons c rest ih =>
      rw [List.mapM_cons, List.mapM_cons]
      exact bind (hstep c List.mem_cons_self) fun _ =>
        bind (ih fun d hd => hstep d (List.mem_cons_of_mem c hd)) fun _ => pure _

theorem forM {γ : Type} {f g : γ → Build PUnit} (items : List γ)
    (hstep : ∀ c ∈ items, Agree R (f c) (g c)) : Agree R (items.forM f) (items.forM g) := by
  induction items with
  | nil => exact pure PUnit.unit
  | cons c rest ih =>
      exact bind (hstep c List.mem_cons_self) fun _ =>
        ih fun d hd => hstep d (List.mem_cons_of_mem c hd)

end Agree

end ComponentCompiler.Build
