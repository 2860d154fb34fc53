import ComponentCompiler.Proofs.Component.Outcome
import ComponentCompiler.Proofs.Dependency.Emission

/-!
# What steps report and warn of

Every step of a compile accounts for the paths that it emits and the warnings
that it adds.  Both are known beforehand from what the step is applied to.  A
step that fails has emitted its paths nevertheless, unless a listener stopped
it; so after a run over many items the tracker has taken what belongs to the
items that the run came to.
-/

namespace ComponentCompiler

namespace Build

variable {α β γ : Type}

/-- The items that a run over a list comes to: those that it gets through and, if there
is one, the first that it fails at. -/
def begun (f : γ → Build α) : List γ → BuildState → List γ
  | [], _ => []
  | c :: rest, s =>
      c ::
        match (f c).outcome s with
        | .ok _ => begun f rest ((f c).final s)
        | .error _ => []

/-- What a step emits and what it warns of: the paths whether or not it fails, the
warnings if it does not. -/
structure Accounts (build : Build α) (paths : List String) (warnings : List Warning) : Prop where
  tracker_final : ∀ s, (build.final s).tracker = s.tracker.after paths
  takes : ∀ s a, build.outcome s = .ok a → s.tracker.Takes paths
  warnings_final : ∀ s a, build.outcome s = .ok a →
    (build.final s).warnings = s.warnings ++ warnings

section Begun

variable {f : γ → Build α} {c : γ} {rest : List γ} {s : BuildState}

theorem begun_cons_of_ok {a : α} (hc : (f c).outcome s = .ok a) :
    begun f (c :: rest) s = c :: begun f rest ((f c).final s) := by
  rw [begun, hc]

theorem begun_cons_of_error {e : Failure} (hc : (f c).outcome s = .error e) :
    begun f (c :: rest) s = [c] := by
  rw [begun, hc]

theorem begun_prefix (f : γ → Build α) (items : List γ) (s : BuildState) :
    begun f items s <+: items := by
  induction items generalizing s with
  | nil => exact List.prefix_rfl
  | cons c rest ih =>
      cases hc : (f c).outcome s with
      | ok a =>
          rw [begun_cons_of_ok hc]
          exact (List.prefix_cons_inj c).mpr (ih _)
      | error e =>
          rw [begun_cons_of_error hc]
          exact List.prefix_append [c] rest

theorem exists_of_outcome_mapM_cons {results : List α}
    (hrun : ((c :: rest).mapM f).outcome s = .ok results) :
    ∃ a more, (f c).outcome s = .ok a ∧
      (rest.mapM f).outcome ((f c).final s) = .ok more ∧ results = a :: more := by
  rw [outcome_mapM_cons] at hrun
  obtain ⟨a, hc, hmore⟩ := Result.exists_of_bind_eq_ok hrun
  obtain ⟨more, hrest, hresults⟩ := Result.exists_of_map_eq_ok hmore
  exact ⟨a, more, hc, hrest, hresults.symm⟩

theorem begun_eq_of_ok {items : List γ} {results : List α}
    (hrun : (items.mapM f).outcome s = .ok results) : begun f items s = items := by
  induction items generalizing s results with
  | nil => rfl
  | cons c rest ih =>
      obtain ⟨a, more, hc, hrest, -⟩ := exists_of_outcome_mapM_cons hrun
      rw [begun_cons_of_ok hc, ih hrest]

theorem mapM_congr {g : γ → Build α} {items : List γ} (h : ∀ c ∈ items, f c = g c) :
    items.mapM f = items.mapM g := by
  induction items with
  | nil => rfl
  | cons c rest ih =>
      rw [List.mapM_cons, List.mapM_cons, h c List.mem_cons_self,
        ih fun d hd => h d (List.mem_cons_of_mem c hd)]

/-- Of the items that lack a property one is the first. -/
theorem exists_first_of_not {P : γ → Prop} {items : List γ} (h : ∃ c ∈ items, ¬ P c) :
    ∃ front c rest, items = front ++ c :: rest ∧ (∀ d ∈ front, P d) ∧ ¬ P c := by
  induction items with
  | nil =>
      obtain ⟨_, hmem, _⟩ := h
      exact absurd hmem List.not_mem_nil
  | cons c rest ih =>
      by_cases hc : P c
      · have hmore : ∃ d ∈ rest, ¬ P d := by
          obtain ⟨d, hmem, hd⟩ := h
          rcases List.mem_cons.mp hmem with rfl | hmem
          · exact absurd hc hd
          · exact ⟨d, hmem, hd⟩
        obtain ⟨front, d, behind, rfl, hfront, hd⟩ := ih hmore
        exact ⟨c :: front, d, behind, rfl, List.forall_mem_cons.mpr ⟨hc, hfront⟩, hd⟩
      · exact ⟨[], c, rest, rfl, fun _ hmem => absurd hmem List.not_mem_nil, hc⟩

/-- A run stops at the first item that it fails at. -/
theorem mapM_of_failing {before : List γ} {results : List α} {e : Failure}
    (hbefore : (before.mapM f).outcome s = .ok results)
    (hc : (f c).outcome ((before.mapM f).final s) = .error e) (after : List γ) :
    ((before ++ c :: after).mapM f).outcome s = .error e ∧
      ((before ++ c :: after).mapM f).final s = (f c).final ((before.mapM f).final s) := by
  rw [List.mapM_append, List.mapM_cons]
  constructor
  · rw [outcome_bind_of_ok hbefore, outcome_bind_of_error (outcome_bind_of_error hc)]
  · rw [final_bind_of_ok hbefore, final_bind_of_error (outcome_bind_of_error hc),
      final_bind_of_error hc]

/-- A run gives for each item what the item determines. -/
theorem eq_map_of_outcome_mapM {g : γ → α} {items : List γ} {results : List α}
    (hg : ∀ c s a, (f c).outcome s = .ok a → a = g c)
    (hrun : (items.mapM f).outcome s = .ok results) : results = items.map g := by
  induction items generalizing s results with
  | nil => exact (Except.ok.inj hrun).symm
  | cons c rest ih =>
      obtain ⟨a, more, hc, hrest, rfl⟩ := exists_of_outcome_mapM_cons hrun
      rw [hg c s a hc, ih hrest, List.map_cons]

end Begun

namespace Accounts

variable {p q : List String} {v w : List Warning}

theorem throw (e : Failure) (w : List Warning) : Accounts (throw e : Build α) [] w where
  tracker_final _ := rfl
  takes _ _ _ := trivial
  warnings_final _ _ h := by simp at h

/-- A step that leaves the tracker and the warnings alone. -/
theorem of_unchanged {build : Build α}
    (h : ∀ s, (build.final s).tracker = s.tracker ∧ (build.final s).warnings = s.warnings) :
    Accounts build [] [] where
  tracker_final s := (h s).1
  takes _ _ _ := trivial
  warnings_final s _ _ := (h s).2.trans (List.append_nil _).symm

theorem pure (a : α) : Accounts (pure a) [] [] := of_unchanged fun _ => ⟨rfl, rfl⟩

theorem of_onlyNotes {build : Build α} (h : OnlyNotes build) : Accounts build [] [] :=
  of_unchanged fun s => by
    obtain ⟨notes, hfinal⟩ := h.final_eq s
    rw [hfinal]
    exact ⟨rfl, rfl⟩

theorem say (lines : String) : Accounts (say lines) [] [] := of_unchanged fun _ => ⟨rfl, rfl⟩

theorem debug (around : Surroundings) (message : String) :
    Accounts (debug around message) [] [] := by
  rw [Build.debug]
  split
  · exact say _
  · exact pure ()

theorem addWarning (warning : Warning) : Accounts (addWarning warning) [] [warning] where
  tracker_final _ := rfl
  takes _ _ _ := trivial
  warnings_final _ _ _ := rfl

section Bind

variable {first : Build α} {next : α → Build β}

/-- Where a step fails that emits something, nothing more may be due. -/
theorem bind (hfirst : Accounts first p w)
    (hnext : ∀ s a, first.outcome s = .ok a → Accounts (next a) q v)
    (hstop : ∀ s e, first.outcome s = .error e → s.tracker.after (p ++ q) = s.tracker.after p) :
    Accounts (first >>= next) (p ++ q) (w ++ v) where
  tracker_final s := by
    cases hs : first.outcome s with
    | ok a =>
        rw [final_bind_of_ok hs, (hnext s a hs).tracker_final, hfirst.tracker_final,
          Tracker.after_append (hfirst.takes s a hs)]
    | error e => rw [final_bind_of_error hs, hfirst.tracker_final, hstop s e hs]
  takes s b h := by
    rw [outcome_bind] at h
    obtain ⟨a, hs, hb⟩ := Result.exists_of_bind_eq_ok h
    apply (hfirst.takes s a hs).append
    rw [← hfirst.tracker_final]
    exact (hnext s a hs).takes _ b hb
  warnings_final s b h := by
    rw [outcome_bind] at h
    obtain ⟨a, hs, hb⟩ := Result.exists_of_bind_eq_ok h
    rw [final_bind_of_ok hs, (hnext s a hs).warnings_final _ b hb,
      hfirst.warnings_final s a hs, List.append_assoc]

/-- A step with one after it that emits nothing. -/
theorem bind_quiet (hfirst : Accounts first p w)
    (hnext : ∀ s a, first.outcome s = .ok a → Accounts (next a) [] v) :
    Accounts (first >>= next) p (w ++ v) := by
  have hboth := hfirst.bind hnext fun s _ _ => by rw [List.append_nil]
  rwa [List.append_nil] at hboth

/-- A step with one after it that neither emits anything nor warns. -/
theorem bind_silent (hfirst : Accounts first p w) (hnext : ∀ a, Accounts (next a) [] []) :
    Accounts (first >>= next) p w := by
  have hboth := hfirst.bind_quiet fun _ a _ => hnext a
  rwa [List.append_nil] at hboth

/-- A step that never fails, neither emits anything nor warns, with one after it. -/
theorem silent_bind (hfirst : Accounts first [] [])
    (hok : ∀ s e, first.outcome s ≠ .error e) (hnext : ∀ a, Accounts (next a) q v) :
    Accounts (first >>= next) q v :=
  hfirst.bind (fun _ a _ => hnext a) fun s e h => absurd h (hok s e)

end Bind

theorem forM_quiet {f : γ → Build PUnit} {warnings : γ → List Warning}
    (hf : ∀ c, Accounts (f c) [] (warnings c)) (items : List γ) :
    Accounts (items.forM f) [] (items.flatMap warnings) := by
  induction items with
  | nil => exact pure PUnit.unit
  | cons c rest ih => exact (hf c).bind_quiet fun _ _ _ => ih

/-! ### Reports -/

theorem report_cases (path : String) (s : BuildState) :
    (∃ next, (Tracker.emit path).run s.tracker = .ok () next ∧
        Build.report path s = .ok () { s with tracker := next }) ∨
      ∃ interruption stopped, (Tracker.emit path).run s.tracker = .error interruption stopped ∧
        Build.report path s =
          .error (.ofInterruption interruption) { s with tracker := stopped } := by
  cases hemit : (Tracker.emit path).run s.tracker with
  | ok _ next => exact Or.inl ⟨next, rfl, by rw [Build.report, hemit]⟩
  | error interruption stopped =>
      exact Or.inr ⟨interruption, stopped, rfl, by rw [Build.report, hemit]⟩

theorem report (path : String) : Accounts (report path) [path] [] where
  tracker_final s := by
    rcases report_cases path s with ⟨next, hemit, hs⟩ | ⟨_, stopped, hemit, hs⟩
    · rw [Tracker.after_cons_of_ok hemit, final, hs]
      rfl
    · rw [Tracker.after_cons_of_error hemit, final, hs]
  takes s a h := by
    rcases report_cases path s with ⟨next, hemit, -⟩ | ⟨_, stopped, -, hs⟩
    · exact (Tracker.takes_cons_of_ok hemit).mpr trivial
    · rw [outcome, hs] at h
      simp at h
  warnings_final s a h := by
    rcases report_cases path s with ⟨next, -, hs⟩ | ⟨_, stopped, -, hs⟩
    · rw [final, hs]
      exact (List.append_nil _).symm
    · rw [outcome, hs] at h
      simp at h

theorem outcome_report_of_takes {path : String} {s : BuildState}
    (htakes : s.tracker.Takes [path]) : (Build.report path).outcome s = .ok () := by
  rcases report_cases path s with ⟨next, -, hs⟩ | ⟨_, stopped, hemit, -⟩
  · rw [outcome, hs]
  · exact absurd htakes (Tracker.not_takes_cons_of_error hemit)

/-- Reports one after the other: a listener that stops one of them stops the rest. -/
theorem reports (paths : List String) : Accounts (paths.forM Build.report) paths [] := by
  induction paths with
  | nil => exact pure PUnit.unit
  | cons path rest ih =>
      refine (report path).bind (q := rest) (fun _ _ _ => ih) fun s e hstop => ?_
      rcases report_cases path s with ⟨next, -, hs⟩ | ⟨_, stopped, hemit, -⟩
      · rw [outcome, hs] at hstop
        simp at hstop
      · exact (Tracker.after_cons_of_error hemit).trans (Tracker.after_cons_of_error hemit).symm

/-! ### Runs over a list -/

section

variable {f : γ → Build α} {paths : γ → List String} {warnings : γ → List Warning}
variable {items : List γ} {s : BuildState}

/-- After a run the tracker has taken what belongs to the items that the run came to. -/
theorem tracker_final_mapM (hf : ∀ c, Accounts (f c) (paths c) (warnings c))
    (items : List γ) (s : BuildState) :
    ((items.mapM f).final s).tracker = s.tracker.after ((begun f items s).flatMap paths) := by
  induction items generalizing s with
  | nil => rfl
  | cons c rest ih =>
      cases hc : (f c).outcome s with
      | ok a =>
          rw [final_mapM_cons_of_ok hc, begun_cons_of_ok hc, ih, (hf c).tracker_final,
            List.flatMap_cons, Tracker.after_append ((hf c).takes s a hc)]
      | error e =>
          rw [final_mapM_cons_of_error hc, begun_cons_of_error hc, (hf c).tracker_final,
            List.flatMap_cons, List.flatMap_nil, List.append_nil]

theorem takes_of_mapM (hf : ∀ c, Accounts (f c) (paths c) (warnings c)) {results : List α}
    (hrun : (items.mapM f).outcome s = .ok results) :
    s.tracker.Takes (items.flatMap paths) := by
  induction items generalizing s results with
  | nil => exact trivial
  | cons c rest ih =>
      obtain ⟨a, more, hc, hrest, -⟩ := exists_of_outcome_mapM_cons hrun
      rw [List.flatMap_cons]
      apply ((hf c).takes s a hc).append
      rw [← (hf c).tracker_final]
      exact ih hrest

/-- A run gets through its items if it gets through each of them when no listener fails. -/
theorem exists_outcome_mapM (hf : ∀ c, Accounts (f c) (paths c) (warnings c))
    (hok : ∀ c ∈ items, ∀ s, s.tracker.Takes (paths c) → ∃ a, (f c).outcome s = .ok a)
    (htakes : s.tracker.Takes (items.flatMap paths)) :
    ∃ results, (items.mapM f).outcome s = .ok results := by
  induction items generalizing s with
  | nil => exact ⟨[], rfl⟩
  | cons c rest ih =>
      rw [List.flatMap_cons, Tracker.takes_append] at htakes
      obtain ⟨a, hc⟩ := hok c List.mem_cons_self s htakes.1
      rw [← (hf c).tracker_final] at htakes
      obtain ⟨results, hrest⟩ := ih (fun d hd => hok d (List.mem_cons_of_mem c hd)) htakes.2
      exact ⟨a :: results, by rw [outcome_mapM_cons, hc, hrest]; rfl⟩

/-- A run that gets through some items and fails at the next one has emitted what belongs to
these, if no listener fails. -/
theorem mapM_of_failing_item (hf : ∀ c, Accounts (f c) (paths c) (warnings c)) {front : List γ}
    {c : γ} {e : Failure}
    (hfront : ∀ d ∈ front, ∀ s, s.tracker.Takes (paths d) → ∃ a, (f d).outcome s = .ok a)
    (hc : ∀ s, s.tracker.Takes (paths c) → (f c).outcome s = .error e)
    (htakes : s.tracker.Takes ((front ++ [c]).flatMap paths)) (rest : List γ) :
    ((front ++ c :: rest).mapM f).outcome s = .error e ∧
      (((front ++ c :: rest).mapM f).final s).tracker =
        s.tracker.after ((front ++ [c]).flatMap paths) := by
  rw [List.flatMap_append, List.flatMap_singleton] at htakes ⊢
  obtain ⟨hbefore, hhere⟩ := Tracker.takes_append.mp htakes
  obtain ⟨results, hresults⟩ := exists_outcome_mapM hf hfront hbefore
  have htracker := tracker_final_mapM hf front s
  rw [begun_eq_of_ok hresults] at htracker
  rw [← htracker] at hhere
  obtain ⟨houtcome, hfinal⟩ := mapM_of_failing hresults (hc _ hhere) rest
  refine ⟨houtcome, ?_⟩
  rw [hfinal, (hf c).tracker_final, htracker, Tracker.after_append hbefore]

theorem warnings_final_mapM (hf : ∀ c, Accounts (f c) (paths c) (warnings c))
    {results : List α} (hrun : (items.mapM f).outcome s = .ok results) :
    ((items.mapM f).final s).warnings = s.warnings ++ items.flatMap warnings := by
  induction items generalizing s results with
  | nil => exact (List.append_nil _).symm
  | cons c rest ih =>
      obtain ⟨a, more, hc, hrest, -⟩ := exists_of_outcome_mapM_cons hrun
      rw [final_mapM_cons_of_ok hc, ih hrest, (hf c).warnings_final s a hc, List.flatMap_cons,
        List.append_assoc]

end

end Accounts

end Build

end ComponentCompiler
