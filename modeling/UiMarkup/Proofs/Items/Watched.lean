import Mathlib.Data.List.Destutter
import UiMarkup.Items.Operation
import UiMarkup.Proofs.Observer.Roster

/-!
# UiMarkup.Proofs.Items.Watched

A value and the connections that watch it, without a store or a signal.  The
changes are steps on a value and a roster, and what they tell the connections
is told of the list of all changes.

* `Watched.Step`, `Watched.Runs`: the changes, with what they are answered by
  and the calls that they make;
* `received`, `dueTo`: the values that a connection is called with, and those
  that are assigned while it is present and differ from the value before;
* `Watched.Runs.account`: they are the same.
-/

namespace UiMarkup.Items

open Observer (Handle Performed Roster)

variable {α ω : Type}

/-! ## changes -/

/-- What is done to an item with a value. -/
inductive Change (α ω : Type) where
  | assign (value : α)
  | connect (observer : ω)
  | disconnect (handle : Handle)
  | disconnectAll

namespace Change

/-- The value that is assigned, if one is. -/
def assigned? : Change α ω → Option α
  | .assign value => some value
  | _ => none

/-- Whether no connection with the handle is left afterwards. -/
def Ends (h : Handle) : Change α ω → Prop
  | .disconnect handle => handle = h
  | .disconnectAll => True
  | _ => False

end Change

/-- A change, with its reply and the calls that it makes, each of a connection
and with a value. -/
abbrev Event (α ω : Type) := Performed (Change α ω) (Handle × ω) α Reply

/-- The values that are assigned. -/
def assigned (events : List (Event α ω)) : List α :=
  events.filterMap (·.operation.assigned?)

/-- The value that was assigned last, or the one at the start. -/
def valueAfter (start : α) (events : List (Event α ω)) : α :=
  (assigned events).getLastD start

/-- The handles that connections were answered by. -/
def connections (events : List (Event α ω)) : List Handle :=
  events.filterMap fun e =>
    match e.reply with
    | .connected h => some h
    | _ => none

/-- The values that a connection is called with, in the order of time. -/
def received (h : Handle) (events : List (Event α ω)) : List α :=
  (events.flatMap (·.calls)).filterMap fun call => if call.1.1 = h then some call.2 else none

/-- The values that are assigned while a connection is present, and that differ
from the value before.  `present` says whether the connection is there at the
start, and `start` is the value then. -/
def dueTo [DecidableEq α] (h : Handle) (present : Bool) (start : α) :
    List (Event α ω) → List α
  | [] => []
  | e :: more =>
    match e.operation with
    | .assign value =>
      (if present ∧ start ≠ value then [value] else []) ++ dueTo h present value more
    | .connect _ => dueTo h (present || e.reply = .connected h) start more
    | .disconnect handle => dueTo h (present && handle ≠ h) start more
    | .disconnectAll => dueTo h false start more

section

variable [DecidableEq α] {h : Handle} {present : Bool} {start : α} {reply : Reply}
  {calls : List ((Handle × ω) × α)} {more : List (Event α ω)}

theorem dueTo_assign (value : α) :
    dueTo h present start (⟨.assign value, reply, calls⟩ :: more) =
      (if present ∧ start ≠ value then [value] else []) ++ dueTo h present value more := rfl

theorem dueTo_connect (x : ω) :
    dueTo h present start (⟨.connect x, reply, calls⟩ :: more) =
      dueTo h (present || reply = .connected h) start more := rfl

theorem dueTo_disconnect (handle : Handle) :
    dueTo h present start (⟨.disconnect handle, reply, calls⟩ :: more) =
      dueTo h (present && handle ≠ h) start more := rfl

end

theorem received_cons (h : Handle) (e : Event α ω) (more : List (Event α ω)) :
    received h (e :: more) = received h [e] ++ received h more := by
  simp [received]

/-! ## steps -/

/-- A value, and the connections that watch it. -/
structure Watched (α ω : Type) where
  value : α
  roster : Roster ω

namespace Watched

variable [DecidableEq α] {w w' w'' : Watched α ω} {e : Event α ω} {events more : List (Event α ω)}
  {h : Handle}

/-- A change, with what it is answered by and the calls that it makes. -/
inductive Step : Watched α ω → Event α ω → Watched α ω → Prop
  /-- All connections are called in order if the value differs, and none
  otherwise. -/
  | assign {w : Watched α ω} (value : α) :
      Step w ⟨.assign value, .answer (w.value ≠ value),
        if w.value = value then [] else w.roster.entries.map (·, value)⟩ ⟨value, w.roster⟩
  | connect {w : Watched α ω} (x : ω) {h : Handle} (hnew : h ∉ w.roster.given) :
      Step w ⟨.connect x, .connected h, []⟩ ⟨w.value, w.roster.connect h x⟩
  | disconnect {w : Watched α ω} (h : Handle) :
      Step w ⟨.disconnect h, .answer (h ∈ w.roster.handles), []⟩
        ⟨w.value, w.roster.disconnect h⟩
  | disconnectAll {w : Watched α ω} :
      Step w ⟨.disconnectAll, .done, []⟩ ⟨w.value, w.roster.disconnectAll⟩

/-- Changes one after the other. -/
inductive Runs : Watched α ω → List (Event α ω) → Watched α ω → Prop
  | nil {w : Watched α ω} : Runs w [] w
  | cons {w w' w'' : Watched α ω} {e : Event α ω} {events : List (Event α ω)} :
      Step w e w' → Runs w' events w'' → Runs w (e :: events) w''

theorem runs_append : Runs w (events ++ more) w'' ↔ ∃ w', Runs w events w' ∧ Runs w' more w'' := by
  constructor
  · intro hruns
    induction events generalizing w with
    | nil => exact ⟨w, .nil, hruns⟩
    | cons e events ih =>
        obtain _ | ⟨hstep, hrest⟩ := hruns
        obtain ⟨w', hevents, hmore⟩ := ih hrest
        exact ⟨w', .cons hstep hevents, hmore⟩
  · rintro ⟨w', hevents, hmore⟩
    induction hevents with
    | nil => exact hmore
    | cons hstep _ ih => exact .cons hstep (ih hmore)

theorem Step.sound (hstep : Step w e w') (hw : w.roster.Sound) : w'.roster.Sound := by
  cases hstep with
  | assign value => exact hw
  | connect x hnew => exact hw.connect hnew x
  | disconnect h => exact hw.disconnect h
  | disconnectAll => exact hw.disconnectAll

theorem Runs.sound (hruns : Runs w events w') (hw : w.roster.Sound) : w'.roster.Sound := by
  induction hruns with
  | nil => exact hw
  | cons hstep _ ih => exact ih (hstep.sound hw)

/-- The value is the one that was assigned last. -/
theorem Runs.value_eq (hruns : Runs w events w') : w'.value = valueAfter w.value events := by
  induction hruns with
  | nil => rfl
  | cons hstep _ ih =>
      rw [ih]
      cases hstep with
      | assign value => exact List.getLastD_cons.symm
      | _ => rfl

theorem Runs.given_eq (hruns : Runs w events w') :
    w'.roster.given = w.roster.given ++ connections events := by
  induction hruns with
  | nil => exact (List.append_nil _).symm
  | cons hstep _ ih =>
      rw [ih]
      cases hstep with
      | connect x hnew => exact List.append_assoc ..
      | _ => rfl

/-! ## the calls of one change -/

/-- A change calls connections in the order in which they were made. -/
theorem Step.sublist (hstep : Step w e w') (hw : w.roster.Sound) :
    (e.calls.map (·.1.1)).Sublist w.roster.given := by
  cases hstep with
  | assign value =>
      split
      · exact List.nil_sublist _
      · rw [List.map_map]
        exact hw.sublist
  | _ => exact List.nil_sublist _

omit [DecidableEq α] in
/-- If all connections are called, each one that is present is called once. -/
theorem filterMap_map_entries {entries : List (Handle × ω)} (hnodup : (entries.map Prod.fst).Nodup)
    (h : Handle) (value : α) :
    ((entries.map (·, value)).filterMap fun call => if call.1.1 = h then some call.2 else none) =
      if h ∈ entries.map Prod.fst then [value] else [] := by
  induction entries with
  | nil => rfl
  | cons entry entries ih =>
      obtain ⟨hfirst, hrest⟩ := List.nodup_cons.1 hnodup
      rw [List.map_cons, List.filterMap_cons, ih hrest]
      by_cases hentry : entry.1 = h
      · subst hentry
        simp [hfirst]
      · have hmem : h ∈ entries.map Prod.fst ↔ h ∈ (entry :: entries).map Prod.fst := by
          rw [List.map_cons, List.mem_cons, or_iff_right (Ne.symm hentry)]
        simp only [if_neg hentry]
        exact if_congr hmem rfl rfl

/-- A connection is called by an assignment if it is present and the value
differs. -/
theorem received_assign (hw : w.roster.Sound) (h : Handle) (value : α) (reply : Reply) :
    received h [(⟨.assign value, reply,
        if w.value = value then [] else w.roster.entries.map (·, value)⟩ : Event α ω)] =
      if h ∈ w.roster.handles ∧ w.value ≠ value then [value] else [] := by
  rw [received, List.flatMap_singleton]
  by_cases hvalue : w.value = value
  · simp [hvalue]
  · rw [if_neg hvalue, filterMap_map_entries hw.nodup_handles]
    exact if_congr (and_iff_left hvalue).symm rfl rfl

/-! ## all changes -/

/-- A connection is called with the values that are assigned while it is
present and differ from the value before, in that order, and with no others. -/
theorem Runs.received_eq (hruns : Runs w events w') (hw : w.roster.Sound) (h : Handle) :
    received h events = dueTo h (h ∈ w.roster.handles) w.value events := by
  induction hruns with
  | nil => rfl
  | @cons now _ _ _ _ hstep _ ih =>
      rw [received_cons, ih (hstep.sound hw)]
      cases hstep with
      | assign value =>
          rw [received_assign hw, dueTo_assign]
          simp only [decide_eq_true_eq]
      | @connect x k hnew =>
          have hpresent : (h ∈ now.roster.handles ∨ Reply.connected k = .connected h) ↔
              h ∈ (now.roster.connect k x).handles := by
            rw [Roster.handles_connect, List.mem_append, List.mem_singleton, Reply.connected.injEq,
              eq_comm]
          rw [dueTo_connect, ← Bool.decide_or, decide_eq_decide.2 hpresent]
          rfl
      | disconnect k =>
          have hpresent : (h ∈ now.roster.handles ∧ k ≠ h) ↔
              h ∈ (now.roster.disconnect k).handles := by
            rw [Roster.handles_disconnect, List.mem_filter, decide_eq_true_eq, ne_comm]
          rw [dueTo_disconnect, ← Bool.decide_and, decide_eq_decide.2 hpresent]
          rfl
      | disconnectAll => rfl

/-- Calls are made in the order in which the connections were made. -/
theorem Runs.sublist (hruns : Runs w events w') (hw : w.roster.Sound) :
    ∀ e ∈ events, (e.calls.map (·.1.1)).Sublist w'.roster.given := by
  induction hruns with
  | nil => simp
  | cons hstep hrest ih =>
      refine List.forall_mem_cons.2 ⟨?_, ih (hstep.sound hw)⟩
      have hgiven := (Runs.cons hstep hrest).given_eq
      rw [hgiven]
      exact (hstep.sublist hw).trans (List.sublist_append_left _ _)

/-- Without what ends the connection, what is due to it is what is assigned
without repetitions. -/
theorem cons_dueTo_eq_destutter (hstays : ∀ e ∈ events, ¬ e.operation.Ends h) (start : α) :
    start :: dueTo h true start events = (start :: assigned events).destutter (· ≠ ·) := by
  induction events generalizing start with
  | nil => rfl
  | cons e events ih =>
      obtain ⟨hfirst, hrest⟩ := List.forall_mem_cons.1 hstays
      have ih := ih hrest
      obtain ⟨operation, reply, calls⟩ := e
      cases operation with
      | assign value =>
          have hassigned : assigned (⟨.assign value, reply, calls⟩ :: events) =
              value :: assigned events := rfl
          rw [hassigned, List.destutter_cons_cons, dueTo_assign]
          by_cases hvalue : start = value
          · rw [if_neg (by simp [hvalue]), if_neg (by simp [hvalue]), hvalue]
            exact ih value
          · rw [if_pos ⟨rfl, hvalue⟩, if_pos hvalue]
            exact congrArg (start :: ·) (ih value)
      | connect x => exact ih start
      | disconnect k =>
          have hk : k ≠ h := hfirst
          rw [dueTo_disconnect, decide_eq_true hk]
          exact ih start
      | disconnectAll => exact absurd trivial hfirst

/-- What changes tell the connections, from the value and the roster of `w`
on. -/
structure Account (w : Watched α ω) (events : List (Event α ω)) : Prop where
  /-- Each connection is called with the values that are assigned while it is
  present and differ from the value before, in that order, and with no
  others. -/
  received_eq : ∀ h, received h events = dueTo h (h ∈ w.roster.handles) w.value events
  /-- A connection that is present all the time is called with the values that
  are assigned, without repetitions. -/
  received_of_stays : ∀ h ∈ w.roster.handles, (∀ e ∈ events, ¬ e.operation.Ends h) →
    w.value :: received h events = (w.value :: assigned events).destutter (· ≠ ·)
  /-- No handle is given out twice, and every change calls connections in the
  order in which they were made, each once. -/
  nodup : (w.roster.given ++ connections events).Nodup
  sublist : ∀ e ∈ events, (e.calls.map (·.1.1)).Sublist (w.roster.given ++ connections events)
  /-- An assignment says whether the value differs from the last one, and calls
  all connections that are then present if it does, and none otherwise. -/
  assign : ∀ before e rest value, events = before ++ e :: rest → e.operation = .assign value →
    ∃ now, Runs w before now ∧ now.value = valueAfter w.value before ∧
      e.reply = .answer (now.value ≠ value) ∧
      e.calls = if now.value = value then [] else now.roster.entries.map (·, value)

theorem Runs.account (hruns : Runs w events w') (hw : w.roster.Sound) : Account w events where
  received_eq := hruns.received_eq hw
  received_of_stays h hh hstays := by
    rw [hruns.received_eq hw h, decide_eq_true hh]
    exact cons_dueTo_eq_destutter hstays w.value
  nodup := hruns.given_eq ▸ (hruns.sound hw).nodup
  sublist := hruns.given_eq ▸ hruns.sublist hw
  assign before e rest value heq hassign := by
    subst heq
    obtain ⟨now, hbefore, hrest⟩ := runs_append.1 hruns
    refine ⟨now, hbefore, hbefore.value_eq, ?_⟩
    obtain _ | ⟨hstep, -⟩ := hrest
    cases hstep with
    | assign value' =>
        obtain rfl := Change.assign.inj hassign
        exact ⟨rfl, rfl⟩
    | _ => cases hassign

end Watched

end UiMarkup.Items
