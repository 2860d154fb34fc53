import Mathlib.Data.List.Induction
import Mathlib.Data.List.Infix
import Mathlib.Data.List.Nodup
import Mathlib.Data.List.TakeWhile
import Mathlib.Tactic.FinCases
import ComponentCompiler.Proofs.Dependency.Emission

/-!
# The lifetime of a subscription

Whoever subscribes a listener gets a function that ends the subscription.  The tracker
does not number its subscriptions: the function removes the first listener of the same
name.  A ledger that does number them says which subscriptions are active, and so who is
to be told of the next path.  The two agree as long as each call of such a function finds
its own subscription, or one that is served in the same place, and finds no other one of
the listener once its own is over.
-/

namespace ComponentCompiler

/-- A reaction that only fails. -/
def Reaction.IsFailure (reaction : Reaction) : Prop := ∃ message, reaction = .fail message

namespace Tracker

/-- What is done with a tracker from outside. -/
inductive Action
  | subscribe (listener : Listener)
  | emit (path : String)
  /-- Calls the function that the subscription of this number gave back. -/
  | leave (number : Nat)

/-- A tracker in use, and the listeners of all subscriptions made with it, which are
numbered from zero. -/
structure Usage where
  tracker : Tracker := {}
  subscribed : List Listener := []

/-- A subscription with its number. -/
structure Subscription where
  number : Nat
  listener : Listener

/-- How many subscriptions were made, and which of them are active, the oldest first. -/
structure Ledger where
  made : Nat := 0
  active : List Subscription := []

namespace Usage

/-- What an action does to the tracker. -/
def perform (usage : Usage) : Action → Usage
  | .subscribe listener =>
      { tracker := usage.tracker.subscribe listener
        subscribed := usage.subscribed ++ [listener] }
  | .emit path => { usage with tracker := usage.tracker.after [path] }
  | .leave number =>
      match usage.subscribed[number]? with
      | some listener => { usage with tracker := usage.tracker.unsubscribe listener.name }
      | none => usage

/-- A new tracker after some actions. -/
def after (actions : List Action) : Usage := actions.foldl perform {}

end Usage

namespace Ledger

/-- What an action is meant to do: a call ends the subscription of its number. -/
def perform (ledger : Ledger) : Action → Ledger
  | .subscribe listener =>
      { made := ledger.made + 1, active := ledger.active ++ [⟨ledger.made, listener⟩] }
  | .emit _ => ledger
  | .leave number => { ledger with active := ledger.active.filter (·.number ≠ number) }

/-- The ledger after some actions. -/
def after (actions : List Action) : Ledger := actions.foldl perform {}

/-- The listeners of the active subscriptions, the oldest subscription first. -/
def listeners (ledger : Ledger) : List Listener := ledger.active.map (·.listener)

end Ledger

/-- What the listeners are told of a path, one after the other, up to one that fails. -/
def told (path : String) : List Listener → List Delivery
  | [] => []
  | listener :: rest =>
      ⟨listener.name, path⟩ :: if (listener.react path).isEmpty then told path rest else []

/-- What is told in the course of some actions if each path goes to the subscriptions active
at that moment. -/
def toldDuring (ledger : Ledger) : List Action → List Delivery
  | [] => []
  | .emit path :: rest => told path ledger.listeners ++ toldDuring ledger rest
  | action :: rest => toldDuring (ledger.perform action) rest

/-- The paths that actions emit. -/
def emitted (actions : List Action) : List String :=
  actions.filterMap fun
    | .emit path => some path
    | _ => none

/-- Whether removing the first listener of a name is as good as ending the subscription of a
number: it is over and so are all others of the listener, or it is active and everything
between the first one of the listener and it is a subscription of this listener too. -/
inductive EndsOwn (number : Nat) (listener : Listener) : List Subscription → Prop
  | ended {active : List Subscription}
      (hnone : ∀ s ∈ active, s.number ≠ number ∧ s.listener.name ≠ listener.name) :
      EndsOwn number listener active
  | active {before run rest : List Subscription}
      (hbefore : ∀ s ∈ before, s.listener.name ≠ listener.name)
      (hrun : ∀ s ∈ run, s.listener = listener) :
      EndsOwn number listener (before ++ (run ++ ⟨number, listener⟩ :: rest))

/-- The tracker serves the listeners of the active subscriptions, in their order. -/
def ServesActive (actions : List Action) : Prop :=
  (Usage.after actions).tracker.listeners = (Ledger.after actions).listeners

/-- Every call among the actions ends its own subscription only. -/
def CallsEndOwn (actions : List Action) : Prop :=
  ∀ done number rest listener, actions = done ++ .leave number :: rest →
    (Usage.after done).subscribed[number]? = some listener →
      EndsOwn number listener (Ledger.after done).active

/-! ## Removing the first listener of a name -/

section Removal

variable {number : Nat} {listener : Listener} {active before run rest : List Subscription}

theorem concat_eq_cons_iff {α : Type} {a b : α} {xs : List α} :
    xs ++ [a] = b :: xs ↔ ∀ x ∈ b :: xs, x = a := by
  induction xs generalizing b with
  | nil => simp [eq_comm]
  | cons x xs ih =>
      rw [List.cons_append, List.cons_eq_cons, ih, List.forall_mem_cons (a := b)]
      constructor
      · rintro ⟨rfl, hall⟩
        exact ⟨hall _ List.mem_cons_self, hall⟩
      · rintro ⟨rfl, hall⟩
        exact ⟨hall x List.mem_cons_self, hall⟩

/-- Ending the subscription of the number in the ledger. -/
theorem listeners_filter_ne
    (hnodup : ((before ++ ⟨number, listener⟩ :: rest).map (·.number)).Nodup) :
    ((before ++ ⟨number, listener⟩ :: rest).filter (·.number ≠ number)).map (·.listener) =
      before.map (·.listener) ++ rest.map (·.listener) := by
  rw [List.map_append, List.map_cons, List.nodup_middle, List.nodup_cons,
    ← List.map_append] at hnodup
  have hothers : ∀ s ∈ before ++ rest, s.number ≠ number := fun s hmem heq =>
    hnodup.1 (List.mem_map.mpr ⟨s, hmem, heq⟩)
  have hbefore : before.filter (·.number ≠ number) = before :=
    List.filter_eq_self.mpr fun s hmem => by simpa using hothers s (List.mem_append_left _ hmem)
  have hrest : rest.filter (·.number ≠ number) = rest :=
    List.filter_eq_self.mpr fun s hmem => by simpa using hothers s (List.mem_append_right _ hmem)
  rw [List.filter_append, List.filter_cons, hbefore, hrest, List.map_append]
  simp

/-- Removing the first listener of the name from a run that begins with one. -/
theorem eraseP_run (hhead : ∀ s ∈ run.head?, s.listener.name = listener.name) :
    ((run ++ ⟨number, listener⟩ :: rest).map (·.listener)).eraseP (·.name == listener.name) =
        run.map (·.listener) ++ rest.map (·.listener) ↔
      ∀ s ∈ run, s.listener = listener := by
  cases run with
  | nil => simp
  | cons s run =>
      have hname : s.listener.name = listener.name := hhead s rfl
      rw [List.cons_append, List.map_cons, List.eraseP_cons_of_pos (by simpa using hname),
        List.map_append, List.map_cons, List.append_cons, List.append_left_inj, List.map_cons,
        concat_eq_cons_iff, ← List.map_cons, List.forall_mem_map]

theorem eraseP_eq_filter_of_active (hbefore : ∀ s ∈ before, s.listener.name ≠ listener.name)
    (hhead : ∀ s ∈ run.head?, s.listener.name = listener.name)
    (hnodup : ((before ++ (run ++ ⟨number, listener⟩ :: rest)).map (·.number)).Nodup) :
    ((before ++ (run ++ ⟨number, listener⟩ :: rest)).map (·.listener)).eraseP
          (·.name == listener.name) =
        ((before ++ (run ++ ⟨number, listener⟩ :: rest)).filter (·.number ≠ number)).map
          (·.listener) ↔
      ∀ s ∈ run, s.listener = listener := by
  have hnone : ∀ other ∈ before.map (·.listener), ¬ (other.name == listener.name) = true := by
    simpa using hbefore
  have hfront : ((before ++ run).map (·.listener)) = before.map (·.listener) ++
      run.map (·.listener) := List.map_append
  rw [← List.append_assoc] at hnodup
  have hfilter := listeners_filter_ne hnodup
  rw [List.append_assoc] at hfilter
  rw [hfilter, List.map_append, List.eraseP_append_right _ hnone, hfront, List.append_assoc,
    List.append_right_inj]
  exact eraseP_run hhead

theorem eraseP_eq_filter_of_over (hover : ∀ s ∈ active, s.number ≠ number) :
    (active.map (·.listener)).eraseP (·.name == listener.name) =
        (active.filter (·.number ≠ number)).map (·.listener) ↔
      ∀ s ∈ active, s.listener.name ≠ listener.name := by
  have hkept : active.filter (·.number ≠ number) = active :=
    List.filter_eq_self.mpr fun s hmem => by simpa using hover s hmem
  rw [hkept, List.eraseP_eq_self_iff, List.forall_mem_map]
  simp

/-- Removing the first listener of the name is what ends the subscription exactly if the
active subscriptions are as required. -/
theorem eraseP_eq_filter_iff (hnodup : (active.map (·.number)).Nodup)
    (hown : ∀ s ∈ active, s.number = number → s.listener = listener) :
    (active.map (·.listener)).eraseP (·.name == listener.name) =
        (active.filter (·.number ≠ number)).map (·.listener) ↔
      EndsOwn number listener active := by
  constructor
  · intro heq
    by_cases hover : ∀ s ∈ active, s.number ≠ number
    · exact .ended fun s hmem => ⟨hover s hmem, (eraseP_eq_filter_of_over hover).mp heq s hmem⟩
    · -- the first active subscription of the listener begins the run
      obtain ⟨⟨_, own⟩, hmem, rfl⟩ : ∃ s ∈ active, s.number = number := by simpa using hover
      obtain rfl : own = listener := hown _ hmem rfl
      obtain ⟨front, rest, rfl⟩ := List.append_of_mem hmem
      let isOther (s : Subscription) : Bool := s.listener.name != own.name
      have hbefore : ∀ s ∈ front.takeWhile isOther, s.listener.name ≠ own.name := fun s hs => by
        simpa [isOther] using List.mem_takeWhile_imp hs
      have hhead : ∀ s ∈ (front.dropWhile isOther).head?, s.listener.name = own.name := by
        intro s hs
        have hstop := List.head?_dropWhile_not isOther front
        rw [Option.mem_def.mp hs] at hstop
        simpa [isOther] using hstop
      rw [← List.takeWhile_append_dropWhile (p := isOther) (l := front), List.append_assoc]
        at hnodup heq ⊢
      exact .active hbefore ((eraseP_eq_filter_of_active hbefore hhead hnodup).mp heq)
  · intro hends
    cases hends with
    | ended hnone =>
        exact (eraseP_eq_filter_of_over fun s hmem => (hnone s hmem).1).mpr fun s hmem =>
          (hnone s hmem).2
    | active hbefore hrun =>
        refine (eraseP_eq_filter_of_active hbefore ?_ hnodup).mpr hrun
        exact fun s hs => congrArg _ (hrun s (List.mem_of_mem_head? hs))

end Removal

/-! ## One path -/

section Emission

variable {tracker : Tracker} {path : String} {listener : Listener}

theorem deliver_run_of_quiet (hquiet : listener.Reacts Reaction.IsFailure) (tracker : Tracker)
    (path : String) (depth : Nat) :
    if (listener.react path).isEmpty then
      (deliver depth path listener).run tracker = .ok () (tracker.note listener path)
    else ∃ interruption, (deliver depth path listener).run tracker =
      .error interruption (tracker.note listener path) := by
  cases hreact : listener.react path with
  | nil =>
      rw [List.isEmpty_nil, if_pos rfl, deliver, hreact]
      rfl
  | cons reaction rest =>
      obtain ⟨message, rfl⟩ := hquiet path reaction (hreact ▸ List.mem_cons_self)
      rw [List.isEmpty_cons, if_neg Bool.false_ne_true, deliver, hreact]
      exact ⟨.listenerFailed message, rfl⟩

theorem leaves_deliveries {listeners : List Listener}
    (hquiet : ∀ listener ∈ listeners, listener.Reacts Reaction.IsFailure) (tracker : Tracker)
    (path : String) (depth : Nat) :
    Leaves (· = { tracker with deliveries := tracker.deliveries ++ told path listeners })
      (fun _ => True) ((listeners.forM (deliver depth path)).run tracker) := by
  induction listeners generalizing tracker with
  | nil => simp [told, Leaves]
  | cons listener rest ih =>
      have hstep := deliver_run_of_quiet (hquiet listener List.mem_cons_self) tracker path depth
      change Leaves _ _
        ((deliver depth path listener >>= fun _ => rest.forM (deliver depth path)).run tracker)
      rw [EStateM.run_bind, told]
      split at hstep
      · rename_i hreact
        have hrest := ih (fun other hother => hquiet other (List.mem_cons_of_mem _ hother))
          (tracker.note listener path)
        rw [hstep, if_pos hreact]
        simpa [note] using hrest
      · rename_i hreact
        obtain ⟨interruption, hstop⟩ := hstep
        rw [hstop, if_neg hreact]
        exact ⟨trivial, rfl⟩

/-- Listeners that do not call back are told of a path in order, up to one that fails. -/
theorem after_singleton (hquiet : tracker.Hears Reaction.IsFailure) (path : String) :
    tracker.after [path] =
      { tracker with
        paths := tracker.paths ++ [path]
        deliveries := tracker.deliveries ++ told path tracker.listeners } := by
  have hleaves := leaves_deliveries hquiet (tracker.record path) path 299
  rw [← emit_run] at hleaves
  cases hrun : (emit path).run tracker with
  | ok _ next =>
      rw [hrun] at hleaves
      rw [after_cons_of_ok hrun]
      exact hleaves
  | error _ stopped =>
      rw [hrun] at hleaves
      rw [after_cons_of_error hrun]
      exact hleaves.2

end Emission

/-! ## Any actions -/

section Actions

variable {actions done : List Action} {action : Action}

theorem Usage.after_concat :
    Usage.after (actions ++ [action]) = (Usage.after actions).perform action :=
  List.foldl_append

theorem Ledger.after_concat :
    Ledger.after (actions ++ [action]) = (Ledger.after actions).perform action :=
  List.foldl_append

/-- No listener among the actions calls back into the tracker. -/
def AreQuiet (actions : List Action) : Prop :=
  ∀ listener, .subscribe listener ∈ actions → listener.Reacts Reaction.IsFailure

theorem AreQuiet.of_prefix (hquiet : AreQuiet actions) (hdone : done <+: actions) :
    AreQuiet done :=
  fun listener hmem => hquiet listener (hdone.subset hmem)

theorem AreQuiet.init (hquiet : AreQuiet (actions ++ [action])) : AreQuiet actions :=
  hquiet.of_prefix (List.prefix_append _ _)

theorem hears_after (hquiet : AreQuiet actions) :
    (Usage.after actions).tracker.Hears Reaction.IsFailure := by
  induction actions using List.reverseRecOn with
  | nil => exact fun _ hmem => absurd hmem List.not_mem_nil
  | append_singleton actions action ih =>
      have hears := ih hquiet.init
      rw [Usage.after_concat]
      cases action with
      | subscribe listener =>
          intro other hother
          rcases List.mem_append.mp hother with hold | hnew
          · exact hears other hold
          · obtain rfl := List.mem_singleton.mp hnew
            exact hquiet other (by simp)
      | emit path =>
          intro other hother
          rw [Usage.perform, after_singleton hears] at hother
          exact hears other hother
      | leave number =>
          intro other hother
          rw [Usage.perform] at hother
          split at hother
          · exact hears other (List.mem_of_mem_eraseP hother)
          · exact hears other hother

/-- The tracker holds all paths that were emitted, in order. -/
theorem paths_after (hquiet : AreQuiet actions) :
    (Usage.after actions).tracker.paths = emitted actions := by
  induction actions using List.reverseRecOn with
  | nil => rfl
  | append_singleton actions action ih =>
      rw [Usage.after_concat, emitted, List.filterMap_append, ← emitted, ← ih hquiet.init]
      cases action with
      | subscribe listener => exact (List.append_nil _).symm
      | emit path => rw [Usage.perform, after_singleton (hears_after hquiet.init)]; rfl
      | leave number =>
          rw [Usage.perform]
          split <;> exact (List.append_nil _).symm

/-- What the ledger knows of the subscriptions made with the tracker. -/
structure Registers (usage : Usage) (ledger : Ledger) : Prop where
  made_eq : ledger.made = usage.subscribed.length
  listener_eq : ∀ s ∈ ledger.active, usage.subscribed[s.number]? = some s.listener
  ascending : ledger.active.Pairwise (·.number < ·.number)

theorem Registers.perform {usage : Usage} {ledger : Ledger} (h : Registers usage ledger)
    (action : Action) : Registers (usage.perform action) (ledger.perform action) := by
  cases action with
  | subscribe listener =>
      have hlt : ∀ s ∈ ledger.active, s.number < ledger.made := by
        intro s hs
        rw [h.made_eq]
        exact (List.getElem?_eq_some_iff.mp (h.listener_eq s hs)).1
      refine ⟨by simp [Usage.perform, Ledger.perform, h.made_eq], ?_, ?_⟩
      · intro s hs
        rcases List.mem_append.mp hs with hold | hnew
        · exact List.getElem?_append_left (h.made_eq ▸ hlt s hold) ▸ h.listener_eq s hold
        · obtain rfl := List.mem_singleton.mp hnew
          simp [Usage.perform, h.made_eq]
      · refine List.pairwise_append.mpr ⟨h.ascending, List.pairwise_singleton _ _, ?_⟩
        intro s hs new hnew
        obtain rfl := List.mem_singleton.mp hnew
        exact hlt s hs
  | emit path => exact ⟨h.made_eq, h.listener_eq, h.ascending⟩
  | leave number =>
      have hsame : (usage.perform (.leave number)).subscribed = usage.subscribed := by
        rw [Usage.perform]
        split <;> rfl
      refine ⟨hsame ▸ h.made_eq, ?_, h.ascending.filter _⟩
      intro s hs
      rw [hsame]
      exact h.listener_eq s (List.mem_filter.mp hs).1

theorem registers_after (actions : List Action) :
    Registers (Usage.after actions) (Ledger.after actions) := by
  induction actions using List.reverseRecOn with
  | nil => exact ⟨rfl, fun _ hmem => absurd hmem List.not_mem_nil, List.Pairwise.nil⟩
  | append_singleton actions action ih =>
      rw [Usage.after_concat, Ledger.after_concat]
      exact ih.perform action

/-- A further action serves the active subscriptions as before, if it is no call that ends
another one. -/
theorem servesActive_concat_iff (hquiet : AreQuiet actions) (hserves : ServesActive actions) :
    ServesActive (actions ++ [action]) ↔
      ∀ number listener, action = .leave number →
        (Usage.after actions).subscribed[number]? = some listener →
          EndsOwn number listener (Ledger.after actions).active := by
  have hregisters := registers_after actions
  rw [ServesActive] at hserves ⊢
  rw [Usage.after_concat, Ledger.after_concat]
  cases action with
  | subscribe listener =>
      refine iff_of_true ?_ nofun
      rw [Usage.perform, Ledger.perform, Ledger.listeners, List.map_append, ← Ledger.listeners]
      exact congrArg (· ++ [listener]) hserves
  | emit path =>
      refine iff_of_true ?_ nofun
      rw [Usage.perform, after_singleton (hears_after hquiet)]
      exact hserves
  | leave number =>
      cases hsubscribed : (Usage.after actions).subscribed[number]? with
      | none =>
          refine iff_of_true ?_ ?_
          · have hother : ∀ s ∈ (Ledger.after actions).active, s.number ≠ number := by
              rintro s hs rfl
              rw [hregisters.listener_eq s hs] at hsubscribed
              cases hsubscribed
            rw [Usage.perform, hsubscribed, Ledger.perform, Ledger.listeners,
              List.filter_eq_self.mpr fun s hs => by simpa using hother s hs]
            exact hserves
          · intro called listener hcall hsome
            obtain rfl := Action.leave.inj hcall
            rw [hsubscribed] at hsome
            cases hsome
      | some listener =>
          have hnodup : ((Ledger.after actions).active.map (·.number)).Nodup :=
            List.pairwise_map.mpr (hregisters.ascending.imp Nat.ne_of_lt)
          have hown : ∀ s ∈ (Ledger.after actions).active, s.number = number →
              s.listener = listener := by
            rintro s hs rfl
            rw [hregisters.listener_eq s hs] at hsubscribed
            exact Option.some.inj hsubscribed
          rw [Usage.perform, hsubscribed, Ledger.perform]
          dsimp only [Tracker.unsubscribe]
          rw [hserves, Ledger.listeners, Ledger.listeners, eraseP_eq_filter_iff hnodup hown]
          constructor
          · intro hends called other hcall hother
            obtain rfl := Action.leave.inj hcall
            rw [hsubscribed] at hother
            exact Option.some.inj hother ▸ hends
          · exact fun hall => hall number listener rfl hsubscribed

theorem forall_servesActive_iff (hquiet : AreQuiet actions) :
    (∀ done, done <+: actions → ServesActive done) ↔ CallsEndOwn actions := by
  constructor
  · intro hserves done number rest listener heq hsubscribed
    have hdone : done <+: actions := ⟨_, heq.symm⟩
    have hnext : done ++ [.leave number] <+: actions := ⟨rest, by simp [heq]⟩
    exact (servesActive_concat_iff (hquiet.of_prefix hdone) (hserves done hdone)).mp
      (hserves _ hnext) number listener rfl hsubscribed
  · intro hcalls done hdone
    induction done using List.reverseRecOn with
    | nil => rfl
    | append_singleton done action ih =>
        have hearlier : done <+: actions := (List.prefix_append _ _).trans hdone
        refine (servesActive_concat_iff (hquiet.of_prefix hearlier) (ih hearlier)).mpr ?_
        rintro number listener rfl hsubscribed
        obtain ⟨rest, hrest⟩ := hdone
        exact hcalls done number rest listener (by simp [← hrest]) hsubscribed

theorem toldDuring_concat (ledger : Ledger) (actions : List Action) (action : Action) :
    toldDuring ledger (actions ++ [action]) =
      toldDuring ledger actions ++ toldDuring (actions.foldl Ledger.perform ledger) [action] := by
  induction actions generalizing ledger with
  | nil => rfl
  | cons head rest ih =>
      cases head with
      | subscribe listener => exact ih _
      | emit path =>
          rw [List.cons_append, toldDuring, ih, ← List.append_assoc]
          rfl
      | leave number => exact ih _

/-- As long as the active subscriptions are served, they are told of what is emitted. -/
theorem deliveries_after (hquiet : AreQuiet actions)
    (hserves : ∀ done, done <+: actions → ServesActive done) :
    (Usage.after actions).tracker.deliveries = toldDuring {} actions := by
  induction actions using List.reverseRecOn with
  | nil => rfl
  | append_singleton actions action ih =>
      have hearlier := ih hquiet.init fun done hdone =>
        hserves done (hdone.trans (List.prefix_append _ _))
      rw [Usage.after_concat, toldDuring_concat, ← hearlier]
      cases action with
      | subscribe listener => exact (List.append_nil _).symm
      | emit path =>
          have hnow : (Usage.after actions).tracker.listeners = (Ledger.after actions).listeners :=
            hserves actions (List.prefix_append _ _)
          rw [Usage.perform, after_singleton (hears_after hquiet.init), toldDuring, toldDuring,
            List.append_nil, hnow]
          rfl
      | leave number =>
          rw [Usage.perform]
          split <;> exact (List.append_nil _).symm

/-- The tracker holds every path.  At each moment it serves the active subscriptions, oldest
first, exactly if every call ends its own subscription only, and then each subscription hears
what is emitted in its lifetime. -/
theorem hears_own_lifetime_iff (hquiet : AreQuiet actions) :
    (Usage.after actions).tracker.paths = emitted actions ∧
      ((∀ done, done <+: actions → ServesActive done) ↔ CallsEndOwn actions) ∧
      (CallsEndOwn actions →
        (Usage.after actions).tracker.deliveries = toldDuring {} actions) :=
  ⟨paths_after hquiet, forall_servesActive_iff hquiet, fun hcalls =>
    deliveries_after hquiet ((forall_servesActive_iff hquiet).mpr hcalls)⟩

end Actions

/-- A listener that is subscribed twice in a row, whose second subscription is ended first,
and one that fails. -/
theorem hears_own_lifetime_of_neighbours :
    let log : Listener := ⟨"log", fun _ => []⟩
    let boom : Listener := ⟨"boom", fun _ => [.fail "no"]⟩
    let actions : List Action :=
      [.subscribe log, .subscribe log, .subscribe boom, .leave 1, .emit "/a", .leave 0, .leave 0,
        .subscribe log, .emit "/b"]
    AreQuiet actions ∧ CallsEndOwn actions ∧
      (Usage.after actions).tracker.paths = ["/a", "/b"] ∧
      (Usage.after actions).tracker.deliveries =
        [⟨"log", "/a"⟩, ⟨"boom", "/a"⟩, ⟨"boom", "/b"⟩] := by
  intro log boom actions
  have hquiet : AreQuiet actions := by
    intro listener hmem
    have hcases : listener = log ∨ listener = boom ∨ listener = log := by
      simpa [actions] using hmem
    rcases hcases with rfl | rfl | rfl
    · exact fun _ _ hmem => absurd hmem List.not_mem_nil
    · exact fun _ reaction hmem => ⟨"no", List.mem_singleton.mp hmem⟩
    · exact fun _ _ hmem => absurd hmem List.not_mem_nil
  obtain ⟨hpaths, hserves, hheard⟩ := hears_own_lifetime_iff hquiet
  have hcalls : CallsEndOwn actions := by
    refine hserves.mp fun done hdone => ?_
    rw [← List.mem_inits] at hdone
    fin_cases hdone <;> rfl
  exact ⟨hquiet, hcalls, hpaths, hheard hcalls⟩

/-- The second call of the function that ended the first of two subscriptions ends the other
one too, which is told of nothing any more. -/
theorem deliveries_ne_of_repeated_call :
    let log : Listener := ⟨"log", fun _ => []⟩
    let actions : List Action :=
      [.subscribe log, .subscribe log, .leave 0, .leave 0, .emit "/a"]
    AreQuiet actions ∧ (Ledger.after actions).active = [⟨1, log⟩] ∧
      toldDuring {} actions = [⟨"log", "/a"⟩] ∧
      (Usage.after actions).tracker.deliveries = [] := by
  intro log actions
  refine ⟨?_, rfl, rfl, rfl⟩
  intro listener hmem
  obtain rfl : listener = log := by simpa [actions] using hmem
  exact fun _ _ hmem => absurd hmem List.not_mem_nil

end Tracker

end ComponentCompiler
