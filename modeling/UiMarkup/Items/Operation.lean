import UiMarkup.Items.Store
import UiMarkup.Observer.Script

/-!
# UiMarkup.Items.Operation

The operations on a store of items as a system.  Items are addressed by path;
a value that is assigned is announced to its observers only if it differs from
the one before, and the action of a command is run as an observer of it.
-/

namespace UiMarkup.Items

open Observer (Handle Signal Storage Outcome System)

variable {S ω : Type} [Storage S ω]

/-- What an observer or an action is called with. -/
inductive Notice where
  | text (value : String)
  | flag (value : Bool)
  | choice (value : UInt64)
  /-- The call of an action, which carries no value. -/
  | run
  deriving DecidableEq

/-- The operations on the items of a store. -/
inductive Operation (ω : Type) where
  | setText (path : String) (value : String)
  | setFlag (path : String) (value : Bool)
  | setChoice (path : String) (value : UInt64)
  /-- Assigns the opposite of a boolean. -/
  | toggle (path : String)
  /-- Calls the observers of a text with a value that is not assigned. -/
  | emitText (path : String) (value : String)
  | emitFlag (path : String) (value : Bool)
  | emitChoice (path : String) (value : UInt64)
  | observe (path : String) (observer : ω)
  | disconnect (path : String) (handle : Handle)
  | disconnectAll (path : String)
  | bind (path : String) (action : ω)
  | unbind (path : String)
  | execute (path : String)

/-- The replies to operations. -/
inductive Reply where
  | failed (e : Error)
  /-- Whether an assignment changed the value, or a handle was found. -/
  | answer (b : Bool)
  | connected (handle : Handle)
  /-- The item has no value to observe. -/
  | notObservable
  | done
  deriving DecidableEq

/-! ## single operations -/

/-- The value of the boolean at a path. -/
def flagAt (s : Items S ω) (path : String) : Except Error Bool := do
  let i ← s.itemOf .flag path
  match i.content with
  | .flag state => .ok state.value
  | _ => .ok false

/-- Assigns a text to the content of an item: whether that is a change, the
new content and the calls to make. -/
def Content.assignText (value : String) : Content S ω → Bool × Content S ω × List (ω × Notice)
  | .text state =>
    let (changed, state, observers) := state.assign value
    (changed, .text state, observers.map (·, .text value))
  | content => (false, content, [])

/-- Assigns a boolean to the content of an item. -/
def Content.assignFlag (value : Bool) : Content S ω → Bool × Content S ω × List (ω × Notice)
  | .flag state =>
    let (changed, state, observers) := state.assign value
    (changed, .flag state, observers.map (·, .flag value))
  | content => (false, content, [])

/-- Assigns a choice to the content of an item. -/
def Content.assignChoice (value : UInt64) : Content S ω → Bool × Content S ω × List (ω × Notice)
  | .choice state options =>
    let (changed, state, observers) := state.assign value
    (changed, .choice state options, observers.map (·, .choice value))
  | content => (false, content, [])

/-- Assigns to the item of a kind at a path; the reply says whether the value
changed. -/
def assignAt (s : Items S ω) (kind : Kind) (path : String)
    (assign : Content S ω → Bool × Content S ω × List (ω × Notice)) :
    Outcome (Items S ω) ω Notice Reply :=
  match s.itemOf kind path with
  | .error e => .quiet s (.failed e)
  | .ok i =>
    let (changed, content, calls) := assign i.content
    ⟨s.modify path fun _ => content, calls, fun _ => .answer changed⟩

/-- Calls the observers of the item of a kind at a path; nothing is assigned. -/
def emitAt (s : Items S ω) (kind : Kind) (path : String) (notice : Notice) :
    Outcome (Items S ω) ω Notice Reply :=
  match s.itemOf kind path with
  | .error e => .quiet s (.failed e)
  | .ok i =>
    let observers := i.content.changed?.elim [] Signal.observers
    ⟨s, observers.map (·, notice), fun _ => .done⟩

/-- Changes the signal of the item at a path. -/
def withSignal (s : Items S ω) (path : String)
    (change : Signal S → Reply × Signal S) :
    Outcome (Items S ω) ω Notice Reply :=
  match s.item path with
  | .error e => .quiet s (.failed e)
  | .ok i =>
    match i.content.changed? with
    | none => .quiet s .notObservable
    | some signal =>
      let (reply, signal) := change signal
      .quiet (s.modify path (Content.setChanged signal)) reply

/-- Changes the action of the command at a path. -/
def withCommand (s : Items S ω) (path : String) (action : Option ω) :
    Outcome (Items S ω) ω Notice Reply :=
  match s.itemOf .command path with
  | .error e => .quiet s (.failed e)
  | .ok _ => .quiet (s.modify path fun _ => .command action) .done

/-- Runs the action of the command at a path. -/
def executeAt (s : Items S ω) (path : String) : Outcome (Items S ω) ω Notice Reply :=
  match s.itemOf .command path with
  | .error e => .quiet s (.failed e)
  | .ok i =>
    match i.content with
    | .command (some action) => ⟨s, [(action, .run)], fun _ => .done⟩
    | _ => .quiet s (.failed (.unboundCommand i.name))

/-! ## the system -/

/-- What the operations on a store do. -/
def system : System (Items S ω) (Operation ω) ω Notice Reply := fun s operation =>
  match operation with
  | .setText path value => s.assignAt .text path (Content.assignText value)
  | .setFlag path value => s.assignAt .flag path (Content.assignFlag value)
  | .setChoice path value => s.assignAt .choice path (Content.assignChoice value)
  | .toggle path =>
    match s.flagAt path with
    | .error e => .quiet s (.failed e)
    | .ok value =>
      { s.assignAt .flag path (Content.assignFlag !value) with reply := fun _ => .done }
  | .emitText path value => s.emitAt .text path (.text value)
  | .emitFlag path value => s.emitAt .flag path (.flag value)
  | .emitChoice path value => s.emitAt .choice path (.choice value)
  | .observe path observer =>
    s.withSignal path fun signal =>
      let (handle, signal) := signal.connect observer
      (.connected handle, signal)
  | .disconnect path handle =>
    s.withSignal path fun signal =>
      let (found, signal) := signal.disconnect handle
      (.answer found, signal)
  | .disconnectAll path => s.withSignal path fun signal => (.done, signal.disconnectAll)
  | .bind path action => s.withCommand path (some action)
  | .unbind path => s.withCommand path none
  | .execute path => s.executeAt path

end UiMarkup.Items
