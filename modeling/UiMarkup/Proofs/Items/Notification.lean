import UiMarkup.Proofs.Items.Places
import UiMarkup.Proofs.Items.Watched
import UiMarkup.Proofs.Observer.Excerpt
import UiMarkup.Proofs.Observer.Quiet
import UiMarkup.Proofs.Outcome

/-!
# UiMarkup.Proofs.Items.Notification

Which values the observers of an item are called with.  The item stands
somewhere in a store, among others that a run may do anything to; as long as
its observers leave it alone, the changes of its value reach them as if the
item were a value with a list of connections.

* `ValueKind`: texts, booleans and choices, treated alike;
* `ValueKind.Stands`: an item of a store stands for a value with connections;
* `Stands.step`, `Stands.of_system`: operations on the item, and on all else;
* `notified_of_run`: what a run tells the observers of the item, and that it ends
  if they perform no operation.
-/

namespace UiMarkup.Items

open Observer

variable {S ω M : Type}

/-! ## items with a value -/

/-- The kinds of items that have a value. -/
inductive ValueKind where
  | text
  | flag
  | choice

namespace ValueKind

/-- The kind of the items. -/
def kind : ValueKind → Kind
  | .text => .text
  | .flag => .flag
  | .choice => .choice

/-- The type of their values. -/
abbrev Carrier : ValueKind → Type
  | .text => String
  | .flag => Bool
  | .choice => UInt64

instance : (k : ValueKind) → DecidableEq k.Carrier
  | .text => inferInstanceAs (DecidableEq String)
  | .flag => inferInstanceAs (DecidableEq Bool)
  | .choice => inferInstanceAs (DecidableEq UInt64)

/-- What observers are called with when a value is announced. -/
def notice : (k : ValueKind) → k.Carrier → Notice
  | .text => .text
  | .flag => .flag
  | .choice => .choice

/-- What an operation does to an item of the kind, if it assigns a value, makes
a connection or removes some. -/
def change? : (k : ValueKind) → Operation ω → Option (Change k.Carrier ω)
  | .text, .setText _ value => some (.assign value)
  | .flag, .setFlag _ value => some (.assign value)
  | .choice, .setChoice _ value => some (.assign value)
  | _, .observe _ observer => some (.connect observer)
  | _, .disconnect _ handle => some (.disconnect handle)
  | _, .disconnectAll _ => some .disconnectAll
  | _, _ => none

/-- The content is that of an item of the kind, and has this value and this
signal. -/
inductive Holds : (k : ValueKind) → Content S ω → Observed k.Carrier S → Prop
  | text (state : Observed String S) : Holds .text (.text state) state
  | flag (state : Observed Bool S) : Holds .flag (.flag state) state
  | choice (state : Observed UInt64 S) (options : List Info) :
      Holds .choice (.choice state options) state

variable {k : ValueKind} {c : Content S ω} {state : Observed k.Carrier S}

theorem Holds.kind_eq (h : k.Holds c state) : c.kind = k.kind := by
  cases h <;> rfl

theorem Holds.changed?_eq (h : k.Holds c state) : c.changed? = some state.changed := by
  cases h <;> rfl

theorem Holds.setChanged (h : k.Holds c state) (signal : Signal S) :
    k.Holds (c.setChanged signal) { state with changed := signal } := by
  cases h with
  | text => exact .text _
  | flag => exact .flag _
  | choice _ options => exact .choice _ options

/-- What an operation does is what the event says: it has the same reply,
whatever the observers do to the store, and makes the same calls. -/
structure Matches (k : ValueKind)
    (done : Change k.Carrier ω × Outcome (Items S ω) ω Notice Reply) (e : Event k.Carrier ω) :
    Prop where
  operation : done.1 = e.operation
  reply : ∀ t, done.2.reply t = e.reply
  calls : done.2.calls = e.calls.map fun call => (call.1.2, k.notice call.2)

/-- A change of the item, then the calls that it makes. -/
def told (k : ValueKind) (e : Event k.Carrier ω) : List (Change k.Carrier ω ⊕ (ω × Notice)) :=
  .inl e.operation :: e.calls.map fun call => .inr (call.1.2, k.notice call.2)

theorem Matches.told_eq {done : Change k.Carrier ω × Outcome (Items S ω) ω Notice Reply}
    {e : Event k.Carrier ω} (h : k.Matches done e) : Observer.told done = k.told e := by
  rw [Observer.told, told, h.operation, h.calls, List.map_map]
  rfl

variable [Storage S ω]

/-- What an assignment does to the content of an item. -/
def assign : (k : ValueKind) → k.Carrier → Content S ω → Bool × Content S ω × List (ω × Notice)
  | .text => Content.assignText
  | .flag => Content.assignFlag
  | .choice => Content.assignChoice

/-- An assignment to the content is one to its value. -/
theorem Holds.assign (h : k.Holds c state) (value : k.Carrier) :
    k.Holds (k.assign value c).2.1 (state.assign value).2.1 ∧
      (k.assign value c).1 = (state.assign value).1 ∧
      (k.assign value c).2.2 = (state.assign value).2.2.map (·, k.notice value) := by
  cases h with
  | text => exact ⟨.text _, rfl, rfl⟩
  | flag => exact ⟨.flag _, rfl, rfl⟩
  | choice _ options => exact ⟨.choice _ options, rfl, rfl⟩

/-! ## an item of a store -/

/-- At the position stands an item of the kind, with the value and for the
connections of `w`. -/
def Stands (k : ValueKind) (s : Items S ω) (position : Position) (w : Watched k.Carrier ω) : Prop :=
  ∃ i state, s.root.at? position = some (.item i) ∧ k.Holds i.content state ∧
    state.value = w.value ∧ state.changed.Represents w.roster

variable {s : Items S ω} {o : Operation ω} {position : Position} {w w' : Watched k.Carrier ω}

/-- Operations on other items leave the item alone. -/
theorem Stands.of_system (hs : k.Stands s position w) (hpath : s.locate? o.path ≠ some position) :
    k.Stands (system s o).state position w := by
  obtain ⟨i, state, hitem, hrest⟩ := hs
  exact ⟨i, state, (at?_system hpath i).2 hitem, hrest⟩

section

variable {path : String} {i : Item S ω} (hpath : s.locate? path = some position)
  (hitem : s.root.at? position = some (.item i)) (hstate : k.Holds i.content state)

include hpath hitem hstate

/-- The item with another signal. -/
theorem stands_of_setChanged {signal : Signal S} {r : Roster ω}
    (hsignal : signal.Represents r) :
    k.Stands (s.modify path (Content.setChanged signal)) position ⟨state.value, r⟩ :=
  ⟨_, _, at?_modify hpath hitem _, hstate.setChanged signal, rfl, hsignal⟩

omit [Storage S ω] in
theorem withSignal_eq (change : Signal S → Reply × Signal S) :
    s.withSignal path change =
      .quiet (s.modify path (Content.setChanged (change state.changed).2))
        (change state.changed).1 := by
  rw [withSignal, item_eq_ok hpath hitem]
  simp only [hstate.changed?_eq]

end

/-! ## operations on the item -/

theorem system_assign {value : k.Carrier} (h : k.change? o = some (.assign value)) :
    system s o = s.assignAt k.kind o.path (k.assign value) := by
  cases k <;> cases o <;> cases h <;> rfl

/-- An assignment to the item assigns to its value. -/
theorem Stands.assign {value : k.Carrier} (hs : k.Stands s position w)
    (hpath : s.locate? o.path = some position) (h : k.change? o = some (.assign value)) :
    ∃ e, w.Step e ⟨value, w.roster⟩ ∧ k.Matches (.assign value, system s o) e ∧
      k.Stands (system s o).state position ⟨value, w.roster⟩ := by
  obtain ⟨i, state, hitem, hstate, hvalue, hroster⟩ := hs
  obtain ⟨hholds, hchanged, hcalls⟩ := hstate.assign value
  have hsystem : system s o = _ := system_assign h
  rw [assignAt, itemOf_eq_ok hpath hitem hstate.kind_eq] at hsystem
  refine ⟨_, .assign value, ⟨rfl, fun t => ?_, ?_⟩, ?_⟩
  · have hdiffers : (state.assign value).1 = decide (w.value ≠ value) := by
      rw [← hvalue, Bool.eq_iff_iff, Observed.changed_assign, decide_eq_true_iff]
    rw [hsystem, ← hdiffers, ← hchanged]
  · rw [hsystem]
    simp only [hcalls, Observed.calls_assign, hvalue, hroster.observers_eq]
    split
    · rfl
    · simp [Function.comp_def]
  · rw [hsystem]
    refine ⟨_, _, at?_modify hpath hitem _, hholds, Observed.value_assign .., ?_⟩
    rwa [Observed.signal_assign]

/-- A change of the signal of the item is one of the roster, if that is so of
every signal that stands for the roster. -/
theorem Stands.withSignal {path : String} {c : Change k.Carrier ω}
    {change : Signal S → Reply × Signal S} (hs : k.Stands s position w)
    (hpath : s.locate? path = some position)
    (hchange : ∀ signal : Signal S, signal.Represents w.roster →
      ∃ roster, w.Step ⟨c, (change signal).1, []⟩ ⟨w.value, roster⟩ ∧
        (change signal).2.Represents roster) :
    ∃ e w', w.Step e w' ∧ k.Matches (c, s.withSignal path change) e ∧
      k.Stands (s.withSignal path change).state position w' := by
  obtain ⟨i, state, hitem, hstate, hvalue, hroster⟩ := hs
  obtain ⟨roster, hstep, hafter⟩ := hchange _ hroster
  refine ⟨_, _, hstep, ?_⟩
  rw [withSignal_eq hpath hitem hstate, ← hvalue]
  exact ⟨⟨rfl, fun _ => rfl, rfl⟩, stands_of_setChanged hpath hitem hstate hafter⟩

/-- A change of the item is a step of the value and the connections that it
stands for. -/
theorem Stands.step [LawfulStorage S] {c : Change k.Carrier ω} (hs : k.Stands s position w)
    (hpath : s.locate? o.path = some position) (h : k.change? o = some c) :
    ∃ e w', w.Step e w' ∧ k.Matches (c, system s o) e ∧
      k.Stands (system s o).state position w' := by
  cases c with
  | assign value =>
      obtain ⟨e, hstep, hdone⟩ := hs.assign hpath h
      exact ⟨e, _, hstep, hdone⟩
  | connect x =>
      obtain ⟨path, rfl⟩ : ∃ path, o = .observe path x := by
        cases k <;> cases o <;> cases h <;> exact ⟨_, rfl⟩
      rw [system]
      refine hs.withSignal hpath fun signal hsignal => ⟨_, .connect x ?_, hsignal.connect x⟩
      exact LawfulStorage.insert_fresh x hsignal.reached
  | disconnect handle =>
      obtain ⟨path, rfl⟩ : ∃ path, o = .disconnect path handle := by
        cases k <;> cases o <;> cases h <;> exact ⟨_, rfl⟩
      rw [system]
      refine hs.withSignal hpath fun signal hsignal => ⟨_, ?_, hsignal.disconnect handle⟩
      have hfound : (signal.disconnect handle).1 = decide (handle ∈ w.roster.handles) := by
        rw [hsignal.disconnect_eq]
      change w.Step ⟨_, .answer (signal.disconnect handle).1, []⟩ _
      rw [hfound]
      exact .disconnect handle
  | disconnectAll =>
      obtain ⟨path, rfl⟩ : ∃ path, o = .disconnectAll path := by
        cases k <;> cases o <;> cases h <;> exact ⟨_, rfl⟩
      rw [system]
      exact hs.withSignal hpath fun signal hsignal => ⟨_, .disconnectAll, hsignal.disconnectAll⟩

/-! ## all operations -/

/-- The operations that change the item at a position, with what they do to
it. -/
def view (k : ValueKind) (s : Items S ω) (position : Position) (o : Operation ω) :
    Option (Change k.Carrier ω) :=
  if s.locate? o.path = some position then k.change? o else none

theorem view_system (k : ValueKind) (s : Items S ω) (position : Position) (o : Operation ω) :
    k.view (system s o).state position = k.view s position := by
  funext o'
  rw [view, view, locate?_system]

/-- Operations one after the other are changes of the value and the connections
that the item stands for, if those on the item are changes. -/
theorem Stands.runs [LawfulStorage S] {operations : List (Operation ω)} (hs : k.Stands s position w)
    (hoperations : ∀ o ∈ operations,
      s.locate? o.path = some position → (k.change? o).isSome) :
    ∃ events w', w.Runs events w' ∧
      List.Forall₂ k.Matches (outcomes (k.view s position) system s operations) events ∧
      k.Stands (after system s operations) position w' := by
  induction operations generalizing s w with
  | nil => exact ⟨[], w, .nil, .nil, hs⟩
  | cons o operations ih =>
      obtain ⟨hfirst, hrest⟩ := List.forall_mem_cons.1 hoperations
      have hrest' : ∀ o' ∈ operations,
          (system s o).state.locate? o'.path = some position → (k.change? o').isSome :=
        fun o' ho' hpath => hrest o' ho' (locate?_system s o o'.path ▸ hpath)
      rw [outcomes]
      by_cases hpath : s.locate? o.path = some position
      · obtain ⟨c, hc⟩ := Option.isSome_iff_exists.1 (hfirst hpath)
        obtain ⟨e, w', hstep, hmatches, hs'⟩ := hs.step hpath hc
        obtain ⟨events, w'', hruns, hmatches', hs''⟩ := ih hs' hrest'
        rw [view_system] at hmatches'
        have hview : k.view s position o = some c := (if_pos hpath).trans hc
        refine ⟨e :: events, w'', .cons hstep hruns, ?_, hs''⟩
        rw [hview]
        exact .cons hmatches hmatches'
      · obtain ⟨events, w', hruns, hmatches, hs'⟩ := ih (hs.of_system hpath) hrest'
        rw [view_system] at hmatches
        have hview : k.view s position o = none := if_neg hpath
        refine ⟨events, w', hruns, ?_, hs'⟩
        rw [hview]
        exact hmatches

end ValueKind

/-! ## runs -/

variable [Storage S ω]

/-- What the diary `d` of a run from the store `s` to `s'` says of the item at a
position, with the value and for the connections of `w` at the start. -/
structure Notified (k : ValueKind) (position : Position) (w : Watched k.Carrier ω) (s : Items S ω)
    (d : Diary (Operation ω) ω Notice) (s' : Items S ω) (events : List (Event k.Carrier ω)) :
    Prop where
  /-- In the order of time, what the diary says of the item are these changes,
  each with its calls right behind it. -/
  excerpt : d.excerpt (k.view s position) = events.flatMap k.told
  /-- The changes are answered as the events say, whatever the observers do. -/
  answered : List.Forall₂ k.Matches
    (outcomes (k.view s position) system s (Diary.operations d)) events
  /-- The connections are called with the values that are due to them. -/
  account : Watched.Account w events
  /-- At the end the item stands for the value and the connections that the
  changes lead to, and the value is the one that was assigned last. -/
  final : ∃ w', w.Runs events w' ∧ k.Stands s' position w' ∧
    w'.value = valueAfter w.value events

/-- **Observers are called with the changes that are made while they are
connected**.  A run may do anything to a store, but to one item it only assigns
values, connects observers and disconnects them, and all observers leave that
item alone.  If such a run ends, what it tells of the item is what the changes
tell the connections of a value; and it ends if the observers perform no
operation.  The item may have had any value before, and any connections. -/
theorem notified_of_run [LawfulStorage S] (k : ValueKind)
    {behavior : ω → Notice → Script (Operation ω) Reply M} {script : Script (Operation ω) Reply M}
    {s : Items S ω} {position : Position} {i : Item S ω} {value : k.Carrier}
    (earlier : List (Signal.Operation ω k.Carrier)) (m : M)
    (hitem : s.root.at? position = some (.item i))
    (hstate : k.Holds i.content ⟨⟨value⟩, after Signal.system .empty earlier⟩)
    (hobservers : ∀ w v, (behavior w v).Only fun o => s.locate? o.path ≠ some position)
    (hscript : script.Only fun o => s.locate? o.path = some position → (k.change? o).isSome) :
    (∀ fuel result, run system behavior fuel script (s, m) = some result →
      ∃ roster d events,
        (after Signal.system (.empty : Signal S) earlier).Represents roster ∧
          record system behavior fuel script ([], s, m) = some (d, result) ∧
          Notified k position ⟨value, roster⟩ s d result.1 events) ∧
      (Quiet behavior → ∃ result enough, ∀ fuel ≥ enough,
        run system behavior fuel script (s, m) = some result) := by
  refine ⟨fun fuel result hrun => ?_, fun hquiet => hquiet.exists_run system script s m⟩
  obtain ⟨roster, -, hroster⟩ := (Signal.represents_empty (S := S)).runs earlier
  have hs : k.Stands s position ⟨value, roster⟩ := ⟨i, _, hitem, hstate, rfl, hroster⟩
  obtain ⟨d, hrecord, hd⟩ := faithful_of_run hrun
  have hbehavior : ∀ w v, (behavior w v).Only fun o => k.view s position o = none :=
    fun w v => (hobservers w v).mono fun o ho => if_neg ho
  have honly : ∀ w v, (behavior w v).Only
      fun o => s.locate? o.path = some position → (k.change? o).isSome :=
    fun w v => (hobservers w v).mono fun o ho hpath => absurd hpath ho
  obtain ⟨_, rfl, hoperations⟩ := adds_of_record honly hscript hrecord
  obtain ⟨events, w', hruns, hmatches, hs'⟩ := hs.runs hoperations
  refine ⟨roster, d, events, hroster, hrecord, ?_, hmatches, hruns.account hroster.sound, ?_⟩
  · rw [excerpt_of_record hbehavior hrecord]
    exact flatMap_eq_of_forall₂ hmatches fun _ _ _ h => h.told_eq
  · exact ⟨w', hruns, hd.state ▸ hs', hruns.value_eq⟩

/-- A store with a text that `w` watches, and with a boolean. -/
def watchedStore : Items (Arena String) String :=
  ⟨Group.ofEntries rootName [
    .item ⟨.ofName "Name", .text ⟨⟨"n"⟩,
      after (Signal.system (ν := String)) .empty [.connect "w"]⟩⟩,
    .item (.ofKind .flag "Dark")]⟩

/-- The observer `a` of the text sets the boolean, and `w` forgets all that
watch that. -/
def marking : String → Notice → Script (Operation String) Reply Unit
  | "a", _ => .perform (.setFlag "Dark" true) fun _ => .done
  | "w", _ => .perform (.disconnectAll "Dark") fun _ => .done
  | _, _ => .done

/-- The text is assigned the same value twice under two spellings of its name,
and `a` is replaced by `b` in between. -/
def assigning : Script (Operation String) Reply Unit :=
  .perform (.observe "Name" "a") fun _ =>
  .perform (.setText "Name" "x") fun _ =>
  .perform (.setText "NAME" "x") fun _ =>
  .perform (.disconnect "Name" ⟨1, 1⟩) fun _ =>
  .perform (.observe "name" "b") fun _ =>
  .perform (.setText "Name" "n") fun _ => .done

/-- Observers that perform no operation. -/
def resting (_ : String) (_ : Notice) : Script (Operation String) Reply Unit := .done

/-- The repeated value is not announced.  The others reach `w` and, in the order
of connection, whoever is connected besides it; what they do to the boolean is
not said of the text.  If all of them rest, the run ends with enough fuel. -/
theorem notified_of_run_assigning :
    (∃ roster d events s',
      record system marking 20 assigning ([], watchedStore, ()) = some (d, s', ()) ∧
      Notified .text [0] ⟨"n", roster⟩ watchedStore d s' events ∧
      d.excerpt (ValueKind.text.view watchedStore [0]) =
        [.inl (.connect "a"),
          .inl (.assign "x"), .inr ("w", .text "x"), .inr ("a", .text "x"),
          .inl (.assign "x"),
          .inl (.disconnect ⟨1, 1⟩), .inl (.connect "b"),
          .inl (.assign "n"), .inr ("w", .text "n"), .inr ("b", .text "n")]) ∧
      ∃ result enough, ∀ fuel ≥ enough,
        run system resting fuel assigning (watchedStore, ()) = some result := by
  obtain ⟨⟨s', _⟩, hrun⟩ : ∃ result, run system marking 20 assigning (watchedStore, ()) =
      some result := ⟨_, rfl⟩
  have hobservers : ∀ w v, (marking w v).Only
      fun o => watchedStore.locate? o.path ≠ some [0] := by
    intro w v
    unfold marking
    split
    · exact ⟨by decide, fun _ => trivial⟩
    · exact ⟨by decide, fun _ => trivial⟩
    · trivial
  have hscript : assigning.Only
      fun o => watchedStore.locate? o.path = some [0] → (ValueKind.text.change? o).isSome :=
    ⟨fun _ => rfl, fun _ => ⟨fun _ => rfl, fun _ => ⟨fun _ => rfl, fun _ => ⟨fun _ => rfl,
      fun _ => ⟨fun _ => rfl, fun _ => ⟨fun _ => rfl, fun _ => trivial⟩⟩⟩⟩⟩⟩
  obtain ⟨roster, d, events, -, hrecord, hnotified⟩ :=
    (notified_of_run .text [.connect "w"] () rfl (.text _) hobservers hscript).1 20 _ hrun
  have hresting : ∀ w v, (resting w v).Only
      fun o => watchedStore.locate? o.path ≠ some [0] := fun _ _ => trivial
  have hquiet : Quiet resting := fun _ _ => trivial
  obtain ⟨-, hends⟩ := notified_of_run .text [.connect "w"] () rfl (.text _) hresting hscript
  refine ⟨⟨roster, d, events, s', hrecord, hnotified, ?_⟩, hends hquiet⟩
  have hexcerpt : (record system marking 20 assigning ([], watchedStore, ())).map
      (fun done => done.1.excerpt (ValueKind.text.view watchedStore [0])) = some _ := rfl
  rw [hrecord] at hexcerpt
  exact Option.some.inj hexcerpt

end UiMarkup.Items
