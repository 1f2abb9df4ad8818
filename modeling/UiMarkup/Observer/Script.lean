/-!
# UiMarkup.Observer.Script

What happens when operations call observers and observers perform operations.
An operation changes the state at once and names the calls to make; the
calls are made one after the other, each to its end, before the reply to the
operation is given.  An observer is called by running its script, which may
perform operations of its own, so calls nest.

* `System` says what operations do;
* `Script` is what a caller or an observer does;
* `run` carries a script out.
-/

namespace UiMarkup.Observer

/-- What an operation does: the state it leaves, the observers to call and
what to call each with, and the reply, which is read off the state after all
calls are made. -/
structure Outcome (State Observer Notice Reply : Type) where
  state : State
  calls : List (Observer × Notice)
  reply : State → Reply

/-- The outcome of an operation that calls nobody. -/
def Outcome.quiet (state : State) (reply : Reply) : Outcome State Observer Notice Reply :=
  ⟨state, [], fun _ => reply⟩

/-- What operations do in each state. -/
abbrev System (State Operation Observer Notice Reply : Type) :=
  State → Operation → Outcome State Observer Notice Reply

/-- What a caller or an observer does: it performs operations one after the
other and goes on by their replies.  It may read and change a memory of its
own, which no operation sees. -/
inductive Script (Operation Reply Memory : Type) where
  /-- Nothing more. -/
  | done
  /-- Perform an operation and go on by its reply. -/
  | perform (operation : Operation) (next : Reply → Script Operation Reply Memory)
  /-- Change the memory and go on by what it was. -/
  | remember (change : Memory → Memory) (next : Memory → Script Operation Reply Memory)

/-- Carries a script out.  `behavior` is the script that an observer runs when
it is called with a notice.  Calls may nest without end, so `fuel` bounds the
number of steps on the way from the outermost script to any point; there is no
result if it runs out. -/
def run (system : System S O W N R) (behavior : W → N → Script O R M) :
    Nat → Script O R M → S × M → Option (S × M)
  | 0, _, _ => none
  | _ + 1, .done, at_ => some at_
  | fuel + 1, .remember change next, (state, memory) =>
    run system behavior fuel (next memory) (state, change memory)
  | fuel + 1, .perform operation next, (state, memory) =>
    let outcome := system state operation
    let called := outcome.calls.foldlM
      (fun at_ call => run system behavior fuel (behavior call.1 call.2) at_)
      (outcome.state, memory)
    match called with
    | none => none
    | some (state, memory) => run system behavior fuel (next (outcome.reply state)) (state, memory)

end UiMarkup.Observer
