import Mathlib.Data.List.Nodup
import UiMarkup.Observer.Emission
import UiMarkup.Proofs.Observer.Arena
import UiMarkup.Proofs.Observer.Chronicle

/-!
# UiMarkup.Proofs.Observer.Roster

A signal is a plain list of observers.  A roster has no storage and no order
beside it: it is the list of the connections that are present, and its steps
are the operations on that list.

* `Roster.Step`, `Roster.Runs`: what the operations do to the list, and what
  they are answered by;
* `Signal.Represents`: a signal stands for a roster;
* `Represents.step`, `Represents.runs`: the operations on the signal are steps
  of the roster;
* `refines_roster`: so a signal is a list of observers, whatever is done with it.
-/

namespace UiMarkup.Observer

/-- The connections that are present, in the order in which they were made,
and the handles of all that were ever made. -/
structure Roster (ω : Type) where
  given : List Handle
  entries : List (Handle × ω)

/-- An operation on a signal, with the reply and the calls. -/
abbrev Answered (ω ν : Type) := Performed (Signal.Operation ω ν) ω ν Signal.Reply

namespace Roster

variable {ω ν : Type} {r r' : Roster ω} {p : Answered ω ν} {ps : List (Answered ω ν)} {h : Handle}

/-- The roster before any connection is made. -/
def empty : Roster ω := ⟨[], []⟩

/-- The handles of the connections that are present. -/
def handles (r : Roster ω) : List Handle :=
  r.entries.map Prod.fst

/-- The roster with one connection more, which is the last. -/
def connect (r : Roster ω) (h : Handle) (x : ω) : Roster ω :=
  ⟨r.given ++ [h], r.entries ++ [(h, x)]⟩

/-- The roster without the connection of a handle. -/
def disconnect (r : Roster ω) (h : Handle) : Roster ω :=
  ⟨r.given, r.entries.filter (·.1 ≠ h)⟩

/-- The roster without its connections. -/
def disconnectAll (r : Roster ω) : Roster ω :=
  ⟨r.given, []⟩

@[simp] theorem handles_connect (r : Roster ω) (h : Handle) (x : ω) :
    (r.connect h x).handles = r.handles ++ [h] := by
  simp [handles, connect]

@[simp] theorem handles_disconnect (r : Roster ω) (h : Handle) :
    (r.disconnect h).handles = r.handles.filter (· ≠ h) := by
  rw [handles, handles, disconnect, List.filter_map]
  rfl

@[simp] theorem handles_disconnectAll (r : Roster ω) : r.disconnectAll.handles = [] := rfl

/-- An operation on the list, with what it is answered by and the calls that
it makes. -/
inductive Step : Roster ω → Answered ω ν → Roster ω → Prop
  /-- A connection is appended under a new handle. -/
  | connect {r : Roster ω} (x : ω) {h : Handle} (hnew : h ∉ r.given) :
      Step r ⟨.connect x, .connected h, []⟩ (r.connect h x)
  /-- The connection with the handle is removed, if it is present. -/
  | disconnect {r : Roster ω} (h : Handle) :
      Step r ⟨.disconnect h, .disconnected (h ∈ r.handles), []⟩ (r.disconnect h)
  /-- The list is emptied. -/
  | disconnectAll {r : Roster ω} : Step r ⟨.disconnectAll, .done, []⟩ r.disconnectAll
  | count {r : Roster ω} : Step r ⟨.count, .counted r.entries.length, []⟩ r
  /-- The observers are called in list order, each once and with the value. -/
  | emit {r : Roster ω} (v : ν) :
      Step r ⟨.emit v, .done, r.entries.map fun entry => (entry.2, v)⟩ r

/-- Operations on the list one after the other. -/
inductive Runs : Roster ω → List (Answered ω ν) → Roster ω → Prop
  | nil {r : Roster ω} : Runs r [] r
  | cons {r r' r'' : Roster ω} {p : Answered ω ν} {ps : List (Answered ω ν)} :
      Step r p r' → Runs r' ps r'' → Runs r (p :: ps) r''

/-! ## handles -/

/-- The handles that connections were answered by. -/
def connected (ps : List (Answered ω ν)) : List Handle :=
  ps.filterMap fun p =>
    match p.reply with
    | .connected h => some h
    | _ => none

/-- No handle was given out twice, and the handles present stand in the order
in which they were given out. -/
structure Sound (r : Roster ω) : Prop where
  nodup : r.given.Nodup
  sublist : r.handles.Sublist r.given

theorem sound_empty : (empty : Roster ω).Sound :=
  ⟨List.nodup_nil, .slnil⟩

theorem Sound.nodup_handles (hr : r.Sound) : r.handles.Nodup :=
  hr.nodup.sublist hr.sublist

theorem Sound.connect (hr : r.Sound) (hnew : h ∉ r.given) (x : ω) : (r.connect h x).Sound := by
  refine ⟨?_, ?_⟩
  · rw [Roster.connect, List.nodup_append_comm, List.singleton_append, List.nodup_cons]
    exact ⟨hnew, hr.nodup⟩
  · rw [handles_connect]
    exact hr.sublist.append_right _

theorem Sound.disconnect (hr : r.Sound) (h : Handle) : (r.disconnect h).Sound := by
  refine ⟨hr.nodup, ?_⟩
  rw [handles_disconnect]
  exact List.filter_sublist.trans hr.sublist

theorem Sound.disconnectAll (hr : r.Sound) : r.disconnectAll.Sound :=
  ⟨hr.nodup, List.nil_sublist _⟩

theorem Sound.step (hr : r.Sound) (hp : Step r p r') : r'.Sound := by
  cases hp with
  | connect x hnew => exact hr.connect hnew x
  | disconnect h => exact hr.disconnect h
  | disconnectAll => exact hr.disconnectAll
  | count => exact hr
  | emit => exact hr

theorem Runs.given_eq (h : Runs r ps r') : r'.given = r.given ++ connected ps := by
  induction h with
  | nil => simp [connected]
  | cons hstep _ ih =>
      rw [ih]
      cases hstep <;> simp [connected, Roster.connect, disconnect, disconnectAll]

/-! ## a handle serves once -/

/-- The handle was given out, and its connection is gone. -/
def Stale (r : Roster ω) (h : Handle) : Prop :=
  h ∈ r.given ∧ h ∉ r.handles

/-- Whatever happens, a connection that is gone does not come back. -/
theorem Stale.step (hs : r.Stale h) (hp : Step r p r') : r'.Stale h := by
  obtain ⟨hgiven, hgone⟩ := hs
  cases hp with
  | @connect _ k hnew =>
      have hne : h ≠ k := by
        rintro rfl
        exact hnew hgiven
      refine ⟨List.mem_append_left _ hgiven, ?_⟩
      simp [hgone, hne]
  | disconnect k =>
      refine ⟨hgiven, ?_⟩
      simp [hgone]
  | disconnectAll => exact ⟨hgiven, by simp⟩
  | count => exact ⟨hgiven, hgone⟩
  | emit => exact ⟨hgiven, hgone⟩

theorem Stale.reply_of_runs (hs : r.Stale h) (hps : Runs r ps r') :
    ∀ p ∈ ps, p.operation = .disconnect h → p.reply = .disconnected false := by
  induction hps with
  | nil => simp
  | cons hstep _ ih =>
      intro p hp hop
      rcases List.mem_cons.1 hp with rfl | hp
      · cases hstep <;> simp_all [Stale]
      · exact ih (hs.step hstep) p hp hop

/-- A connection that was found and removed is gone. -/
theorem Sound.stale_of_step (hr : r.Sound) (hp : Step r p r') (hop : p.operation = .disconnect h)
    (hreply : p.reply = .disconnected true) : r'.Stale h := by
  cases hp with
  | disconnect k =>
      obtain rfl : k = h := by simpa using hop
      have hmem : k ∈ r.handles := by simpa using hreply
      exact ⟨hr.sublist.subset hmem, by simp⟩
  | _ => simp at hop

/-- What was removed once is not found again. -/
theorem Runs.pairwise (hps : Runs r ps r') (hr : r.Sound) :
    ps.Pairwise fun p q => ∀ h, p.operation = .disconnect h → p.reply = .disconnected true →
      q.operation = .disconnect h → q.reply = .disconnected false := by
  induction hps with
  | nil => exact .nil
  | cons hstep hrest ih =>
      refine .cons (fun q hq h hop hreply => ?_) (ih (hr.step hstep))
      exact (hr.stale_of_step hstep hop hreply).reply_of_runs hrest q hq

end Roster

namespace Signal

open Roster

variable {S ω ν : Type} [Storage S ω] {s : Signal S} {r : Roster ω}

/-- The signal stands for the roster: it has its handles in its order, and its
storage holds the observers of the roster under them, and nothing else. -/
structure Represents (s : Signal S) (r : Roster ω) : Prop where
  reached : Storage.Reached r.given s.slots
  order : s.order = r.handles
  found : ∀ h x, Storage.get? s.slots h = some x ↔ (h, x) ∈ r.entries
  sound : r.Sound

theorem Represents.isSome_get?_iff (hs : s.Represents r) (h : Handle) :
    (Storage.get? s.slots h).isSome ↔ h ∈ r.handles := by
  rw [Option.isSome_iff_exists]
  simp [hs.found, handles]

/-- The observers of the signal are those of the list. -/
theorem Represents.observers_eq (hs : s.Represents r) : s.observers = r.entries.map Prod.snd := by
  have hfound : ∀ entry ∈ r.entries,
      (Storage.get? s.slots ∘ Prod.fst) entry = (some ∘ Prod.snd) entry :=
    fun entry hentry => (hs.found entry.1 entry.2).2 hentry
  rw [observers, hs.order, handles, List.filterMap_map, List.filterMap_congr hfound,
    List.filterMap_eq_map]

variable [LawfulStorage S]

theorem represents_empty : (empty : Signal S).Represents (.empty : Roster ω) where
  reached := .empty
  order := rfl
  found h x := by simp [empty, Roster.empty, LawfulStorage.get?_empty]
  sound := sound_empty

theorem Represents.count_eq (hs : s.Represents r) : s.count = r.entries.length := by
  rw [count, LawfulStorage.size_eq hs.reached hs.sound.nodup_handles
    (fun h => (hs.isSome_get?_iff h).symm), handles, List.length_map]

/-- A failed removal changes nothing, so both cases are one. -/
theorem Represents.disconnect_eq (hs : s.Represents r) (h : Handle) :
    s.disconnect h =
      (decide (h ∈ r.handles), ⟨(Storage.remove s.slots h).2, r.handles.filter (· ≠ h)⟩) := by
  have hfst := LawfulStorage.fst_remove h hs.reached
  have hpresent := hs.isSome_get?_iff h
  rw [← hfst] at hpresent
  unfold disconnect
  split
  next slots heq =>
    have hgone : h ∉ r.handles := by simpa [heq] using hpresent
    have hkept : r.handles.filter (· ≠ h) = r.handles := by
      rw [List.filter_eq_self]
      intro k hk
      have hne : k ≠ h := fun heq => hgone (heq ▸ hk)
      simpa using hne
    rw [decide_eq_false hgone, hkept, ← hs.order, heq]
  next slots heq =>
    have hthere : h ∈ r.handles := by simpa [heq] using hpresent
    rw [decide_eq_true hthere, hs.order, heq]

/-! ## every operation is a step of the list -/

theorem Represents.connect (hs : s.Represents r) (x : ω) :
    (s.connect x).2.Represents (r.connect (s.connect x).1 x) where
  reached := hs.reached.insert x
  order := by rw [handles_connect, ← hs.order, Signal.connect]
  found h y := by
    have hnew : (Storage.insert s.slots x).1 ∉ r.handles :=
      fun hmem => LawfulStorage.insert_fresh x hs.reached (hs.sound.sublist.subset hmem)
    simp only [Signal.connect, Roster.connect, LawfulStorage.get?_insert x h hs.reached,
      List.mem_append, List.mem_singleton, Prod.mk.injEq]
    split
    next heq =>
      subst heq
      have hnone : ((Storage.insert s.slots x).1, y) ∉ r.entries :=
        fun hmem => hnew (List.mem_map_of_mem hmem)
      simp [hnone, eq_comm]
    next hne => simp [hs.found, hne]
  sound := hs.sound.connect (LawfulStorage.insert_fresh x hs.reached) x

theorem Represents.disconnect (hs : s.Represents r) (h : Handle) :
    (s.disconnect h).2.Represents (r.disconnect h) := by
  rw [hs.disconnect_eq]
  refine ⟨hs.reached.remove h, ?_, fun k x => ?_, hs.sound.disconnect h⟩
  · rw [handles_disconnect]
  · rw [LawfulStorage.get?_remove h k hs.reached, Roster.disconnect, List.mem_filter, ← hs.found]
    by_cases hk : k = h <;> simp [hk]

theorem Represents.disconnectAll (hs : s.Represents r) :
    s.disconnectAll.Represents r.disconnectAll where
  reached := hs.reached.clear
  order := rfl
  found h x := by
    simp [Signal.disconnectAll, Roster.disconnectAll, LawfulStorage.get?_clear h hs.reached]
  sound := hs.sound.disconnectAll

/-- What an operation on the signal does and is answered by is a step of the
list. -/
theorem Represents.step (hs : s.Represents r) (op : Operation ω ν) :
    ∃ r', Step r ⟨op, (system s op).reply (system s op).state, (system s op).calls⟩ r' ∧
      (system s op).state.Represents r' := by
  cases op with
  | connect x => exact ⟨_, .connect x (LawfulStorage.insert_fresh x hs.reached), hs.connect x⟩
  | disconnect h =>
      refine ⟨_, ?_, hs.disconnect h⟩
      have hreply : (s.disconnect h).1 = decide (h ∈ r.handles) := by rw [hs.disconnect_eq]
      simpa [system, Outcome.quiet, hreply] using Step.disconnect h
  | disconnectAll => exact ⟨_, .disconnectAll, hs.disconnectAll⟩
  | count =>
      refine ⟨r, ?_, hs⟩
      simpa [system, Outcome.quiet, hs.count_eq] using Step.count
  | emit v =>
      refine ⟨r, ?_, hs⟩
      simpa [system, hs.observers_eq, Function.comp_def] using Step.emit v

/-- The operations on the signal, one after the other, are a run of the list. -/
theorem Represents.runs (hs : s.Represents r) (ops : List (Operation ω ν)) :
    ∃ r', Runs r (answers system s ops) r' ∧ (after system s ops).Represents r' := by
  induction ops generalizing s r with
  | nil => exact ⟨r, .nil, hs⟩
  | cons op ops ih =>
      obtain ⟨r₁, hstep, hs₁⟩ := hs.step op
      obtain ⟨r₂, hruns, hs₂⟩ := ih hs₁
      exact ⟨r₂, .cons hstep hruns, hs₂⟩

/-- A signal is a plain list of observers, whatever is done with it.  The
handles it keeps in order are those of the list, without duplicates, in the
order in which they were given out, and exactly those under which the storage
holds something; a handle that was disconnected once is never found again. -/
theorem refines_roster (S : Type) [Storage S ω] [LawfulStorage S] (ops : List (Operation ω ν)) :
    ∃ r : Roster ω, Runs .empty (answers system (empty : Signal S) ops) r ∧
      (after system (empty : Signal S) ops).order = r.handles ∧
      r.handles.Nodup ∧
      (∀ h, h ∈ r.handles ↔
        (Storage.get? (after system (empty : Signal S) ops).slots h).isSome) ∧
      r.handles.Sublist (connected (answers system (empty : Signal S) ops)) ∧
      (answers system (empty : Signal S) ops).Pairwise fun p q => ∀ h,
        p.operation = .disconnect h → p.reply = .disconnected true →
          q.operation = .disconnect h → q.reply = .disconnected false := by
  obtain ⟨r, hruns, hs⟩ := (represents_empty (S := S)).runs ops
  refine ⟨r, hruns, hs.order, hs.sound.nodup_handles, fun h => (hs.isSome_get?_iff h).symm, ?_,
    hruns.pairwise sound_empty⟩
  have hgiven := hruns.given_eq
  rw [Roster.empty, List.nil_append] at hgiven
  exact hgiven ▸ hs.sound.sublist

/-- Three connections, of which the first goes and leaves its place to a fourth. -/
def replacing : List (Operation String Nat) :=
  [.connect "a", .connect "b", .connect "c", .disconnect ⟨0, 1⟩, .connect "d",
    .disconnect ⟨0, 1⟩, .count, .emit 7]

/-- The fourth observer has the place of the first and runs last; the handle of
the first does not remove it. -/
theorem refines_roster_replacing :
    (answers system (empty : Signal (Arena String)) replacing).drop 3 =
        [⟨.disconnect ⟨0, 1⟩, .disconnected true, []⟩, ⟨.connect "d", .connected ⟨0, 2⟩, []⟩,
          ⟨.disconnect ⟨0, 1⟩, .disconnected false, []⟩, ⟨.count, .counted 3, []⟩,
          ⟨.emit 7, .done, [("b", 7), ("c", 7), ("d", 7)]⟩] ∧
      ∃ r : Roster String,
        Runs .empty (answers system (empty : Signal (Arena String)) replacing) r ∧
          r.handles = [⟨1, 1⟩, ⟨2, 1⟩, ⟨0, 2⟩] := by
  obtain ⟨r, hruns, horder, -⟩ := refines_roster (Arena String) replacing
  exact ⟨rfl, r, hruns, horder.symm⟩

end Signal

end UiMarkup.Observer
