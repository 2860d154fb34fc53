import ComponentCompiler.Settings.Value

/-!
# Dependencies

A tracker records the files that a component depends on and tells its listeners
of each one.  A listener may answer by failing, by ending its own subscription,
or by reporting a further file; such a report is delivered at once, within the
delivery that caused it.
-/

namespace ComponentCompiler

/-- What a listener does when it hears of a file. -/
inductive Reaction
  | fail (message : String)
  /-- Ends the listener's own subscription. -/
  | unsubscribe
  /-- Reports a further file. -/
  | report (path : String)
  deriving DecidableEq, Repr

/-- Someone who wants to hear of files.  Two listeners of one name are the same. -/
structure Listener where
  name : String
  react : String → List Reaction

/-- A file that a listener was told of. -/
structure Delivery where
  listener : String
  path : String
  deriving DecidableEq, Repr

/-- The files reported so far, and who is told of the next one. -/
structure Tracker where
  listeners : List Listener := []
  paths : List String := []
  /-- What listeners were told, in order. -/
  deliveries : List Delivery := []

namespace Tracker

/-- Why a report was not delivered to everyone. -/
inductive Interruption
  /-- A listener failed. -/
  | listenerFailed (message : String)
  /-- Reports caused reports without end. -/
  | endless
  deriving DecidableEq, Repr

/-- One more subscription, which is served last. -/
def subscribe (tracker : Tracker) (listener : Listener) : Tracker :=
  { tracker with listeners := tracker.listeners ++ [listener] }

/-- Ends the first subscription of a listener, if there is one. -/
def unsubscribe (tracker : Tracker) (name : String) : Tracker :=
  { tracker with listeners := tracker.listeners.eraseP (·.name == name) }

/-- What someone hands over to be told of files. -/
inductive Offer
  | listener (l : Listener)
  /-- A value that is no listener. -/
  | value (v : Value)

/-- The refusal of something that is no listener. -/
structure NotAListener where
  typeName : String
  deriving DecidableEq, Repr

/-- The refusal in words. -/
def NotAListener.message (refusal : NotAListener) : String :=
  s!"Dependency listener must be callable, got {refusal.typeName}"

/-- One more subscription if a listener is offered. -/
def accept (tracker : Tracker) : Offer → Except NotAListener Tracker
  | .listener l => .ok (tracker.subscribe l)
  | .value v => .error ⟨v.typeName⟩

/-- A new tracker with the offered listeners. -/
def ofOffers (offers : List Offer) : Except NotAListener Tracker := offers.foldlM accept {}

/-- Records a file. -/
def record (tracker : Tracker) (path : String) : Tracker :=
  { tracker with paths := tracker.paths ++ [path] }

/-- Notes that a listener was told of a file. -/
def note (tracker : Tracker) (listener : Listener) (path : String) : Tracker :=
  { tracker with deliveries := tracker.deliveries ++ [⟨listener.name, path⟩] }

/-- Records a file and tells the current listeners of it in order, reports that
they cause being nested at most `depth` deep. -/
def emitWithin : (depth : Nat) → (path : String) → EStateM Interruption Tracker Unit
  | 0, _ => throw .endless
  | depth + 1, path => do
      modify (·.record path)
      let current := (← get).listeners
      current.forM fun listener => do
        modify (·.note listener path)
        (listener.react path).forM fun reaction =>
          match reaction with
          | .fail message => throw (.listenerFailed message)
          | .unsubscribe => modify (·.unsubscribe listener.name)
          | .report further => emitWithin depth further

/-- How deep reports may be nested.  The number stands for the limit on calls within calls that
the program runs under: reports that cause reports without end run into that limit, and the
report that reaches it fails.  What the limit is does not matter to reports that come to an end
before it. -/
def maxNesting : Nat := 300

/-- Records a file and tells the current listeners of it. -/
def emit (path : String) : EStateM Interruption Tracker Unit := emitWithin maxNesting path

end Tracker

end ComponentCompiler
