import Mathlib.Data.List.Infix
import UiMarkup.Proofs.Items.Notification
import UiMarkup.Proofs.Observer.Delivery

/-!
# UiMarkup.Proofs.Items.Reassignment

Observers that assign the item that they observe.  An assignment from inside
another one is announced at once, so the observers that the outer one has not
called yet are called with the newer value first and with the older one last.

* `valueAt?`, `observersAt`: what is read off a store at a position;
* `ValueKind.topic`: the value of an item, and the operations that assign it;
* `lastTold_of_run`: the value that an observer is told last is the value at the
  end, unless those ahead of it have replaced it before it was told;
* `not_told_value_of_fixing`: it is replaced if an observer in front corrects it.
-/

namespace UiMarkup.Items

open Observer

variable {S ω M : Type}

/-! ## what is read at a position -/

/-- The content of the item at a position, if an item is there. -/
def contentAt? (s : Items S ω) (position : Position) : Option (Content S ω) :=
  (s.root.at? position).bind fun e => e.item?.map (·.content)

/-- The observers of the item at a position, in the order in which they are
called. -/
def observersAt [Storage S ω] (s : Items S ω) (position : Position) : List ω :=
  ((s.contentAt? position).bind Content.changed?).elim [] Signal.observers

namespace ValueKind

/-- The value in the content of an item of the kind. -/
def value? : (k : ValueKind) → Content S ω → Option k.Carrier
  | .text, .text state => some state.value
  | .flag, .flag state => some state.value
  | .choice, .choice state _ => some state.value
  | _, _ => none

/-- The value of the item of the kind at a position. -/
def valueAt? (k : ValueKind) (s : Items S ω) (position : Position) : Option k.Carrier :=
  (s.contentAt? position).bind k.value?

/-- The operations that assign a value to an item of the kind. -/
def Assigns : ValueKind → Operation ω → Prop
  | .text, .setText .. => True
  | .flag, .setFlag .. | .flag, .toggle _ => True
  | .choice, .setChoice .. => True
  | _, _ => False

variable {k : ValueKind} {s : Items S ω} {o : Operation ω} {position : Position}
  {w : Watched k.Carrier ω} {c : Content S ω} {state : Observed k.Carrier S}

theorem Holds.value?_eq (h : k.Holds c state) : k.value? c = some state.value := by
  cases h <;> rfl

variable [Storage S ω]

theorem Stands.valueAt?_eq (hs : k.Stands s position w) : k.valueAt? s position = some w.value := by
  obtain ⟨i, state, hitem, hstate, hvalue, -⟩ := hs
  rw [valueAt?, contentAt?, hitem, ← hvalue]
  exact hstate.value?_eq

theorem Stands.observersAt_eq (hs : k.Stands s position w) :
    s.observersAt position = w.roster.entries.map Prod.snd := by
  obtain ⟨i, state, hitem, hstate, -, hroster⟩ := hs
  rw [← hroster.observers_eq, observersAt, contentAt?, hitem]
  exact congrArg (·.elim [] Signal.observers) hstate.changed?_eq

theorem notice_inj (k : ValueKind) (u v : k.Carrier) (h : k.notice u = k.notice v) : u = v := by
  cases k <;> cases h <;> rfl

theorem kind_ne_command (k : ValueKind) : k.kind ≠ .command := by
  cases k <;> decide

/-! ## operations that assign -/

theorem Stands.flagAt_eq {w : Watched Bool ω} (hs : ValueKind.flag.Stands s position w)
    {path : String} (hpath : s.locate? path = some position) : s.flagAt path = .ok w.value := by
  obtain ⟨⟨info, content⟩, state, hitem, hstate, hvalue, -⟩ := hs
  have hof : s.itemOf .flag path = .ok ⟨info, content⟩ := itemOf_eq_ok hpath hitem hstate.kind_eq
  rw [flagAt, hof, ← hvalue]
  cases hstate
  rfl

theorem assigns_of_change? {value : k.Carrier} (h : k.change? o = some (.assign value)) :
    k.Assigns o := by
  cases k <;> cases o <;> cases h <;> trivial

/-- An operation that assigns does what the assignment of some value does: to
toggle is to assign the opposite. -/
theorem Stands.exists_assign (hs : k.Stands s position w) (ho : k.Assigns o)
    (hpath : s.locate? o.path = some position) :
    ∃ o' value, k.change? o' = some (.assign value) ∧ o'.path = o.path ∧
      (system s o).state = (system s o').state ∧ (system s o).calls = (system s o').calls := by
  cases k <;> cases o <;> first
    | exact ho.elim
    | exact ⟨_, _, rfl, rfl, rfl, rfl⟩
    | skip
  next path =>
    have hvalue : s.flagAt path = .ok w.value := hs.flagAt_eq hpath
    refine ⟨.setFlag path !w.value, !w.value, rfl, rfl, ?_⟩
    simp only [system, hvalue, and_self]

/-- An operation that assigns leaves the item with the value, and calls its
observers with it if it differs from the one before. -/
theorem Stands.of_assigns (hs : k.Stands s position w) (ho : k.Assigns o)
    (hpath : s.locate? o.path = some position) :
    ∃ value, k.Stands (system s o).state position ⟨value, w.roster⟩ ∧
      (system s o).calls = if w.value = value then []
        else (s.observersAt position).map (·, k.notice value) := by
  obtain ⟨o', value, hchange, hpath', hstate, hcalls⟩ := hs.exists_assign ho hpath
  obtain ⟨e, hstep, hmatches, hs'⟩ := hs.assign (hpath' ▸ hpath) hchange
  refine ⟨value, hstate ▸ hs', ?_⟩
  rw [hcalls, hmatches.calls, hs.observersAt_eq]
  obtain ⟨operation, reply, calls⟩ := e
  obtain rfl := hmatches.operation
  cases hstep
  split
  · rfl
  · simp [Function.comp_def]

/-! ## all other operations -/

section

omit [Storage S ω]

variable {path : String} {i : Item S ω} (hpath : s.locate? path = some position)
  (hitem : s.root.at? position = some (.item i))

include hpath hitem

theorem itemOf_of_kind_ne {kind : Kind} (hkind : i.kind ≠ kind) :
    s.itemOf kind path = .error (.wrongKind (.only kind) (.item i.kind) path) := by
  rw [itemOf, find?_eq_some_iff.2 ⟨position, hpath, hitem⟩]
  exact if_neg hkind

theorem state_assignAt_of_kind_ne {kind : Kind} (hkind : i.kind ≠ kind)
    (assign : Content S ω → Bool × Content S ω × List (ω × Notice)) :
    (s.assignAt kind path assign).state = s := by
  rw [assignAt, itemOf_of_kind_ne hpath hitem hkind]
  rfl

theorem state_withCommand_of_kind_ne (hkind : i.kind ≠ .command) (action : Option ω) :
    (s.withCommand path action).state = s := by
  rw [withCommand, itemOf_of_kind_ne hpath hitem hkind]
  rfl

end

/-- An operation on the item that neither assigns a value nor changes who
observes it changes nothing. -/
theorem Stands.state_eq (hs : k.Stands s position w) (hpath : s.locate? o.path = some position)
    (hassigns : ¬ k.Assigns o) (hchange : k.change? o = none) : (system s o).state = s := by
  obtain ⟨i, state, hitem, hstate, -⟩ := hs
  have hkind : i.kind = k.kind := hstate.kind_eq
  have hcommand : i.kind ≠ .command := hkind ▸ k.kind_ne_command
  cases o with
  | setText path value =>
      have hne : i.kind ≠ .text := hkind ▸ by cases k <;> simp_all [kind, change?]
      exact state_assignAt_of_kind_ne hpath hitem hne _
  | setFlag path value =>
      have hne : i.kind ≠ .flag := hkind ▸ by cases k <;> simp_all [kind, change?]
      exact state_assignAt_of_kind_ne hpath hitem hne _
  | setChoice path value =>
      have hne : i.kind ≠ .choice := hkind ▸ by cases k <;> simp_all [kind, change?]
      exact state_assignAt_of_kind_ne hpath hitem hne _
  | toggle path =>
      have hne : i.kind ≠ .flag := hkind ▸ by cases k <;> simp_all [kind, Assigns]
      rw [system]
      split
      · rfl
      · exact state_assignAt_of_kind_ne hpath hitem hne _
  | emitText path value => exact state_emitAt ..
  | emitFlag path value => exact state_emitAt ..
  | emitChoice path value => exact state_emitAt ..
  | observe path observer => cases k <;> cases hchange
  | disconnect path handle => cases k <;> cases hchange
  | disconnectAll path => cases k <;> cases hchange
  | bind path action => exact state_withCommand_of_kind_ne hpath hitem hcommand _
  | unbind path => exact state_withCommand_of_kind_ne hpath hitem hcommand _
  | execute path =>
      rw [system, executeAt]
      split
      · rfl
      · split <;> rfl

/-- Any other operation leaves the value as it is. -/
theorem Stands.of_not_assigns [LawfulStorage S] (hs : k.Stands s position w)
    (ho : ¬ (s.locate? o.path = some position ∧ k.Assigns o)) :
    ∃ roster, k.Stands (system s o).state position ⟨w.value, roster⟩ := by
  by_cases hpath : s.locate? o.path = some position
  · have hassigns : ¬ k.Assigns o := fun hassigns => ho ⟨hpath, hassigns⟩
    cases hchange : k.change? o with
    | none => exact ⟨w.roster, (hs.state_eq hpath hassigns hchange).symm ▸ hs⟩
    | some c =>
        obtain ⟨⟨operation, reply, calls⟩, w', hstep, hmatches, hs'⟩ := hs.step hpath hchange
        obtain rfl := hmatches.operation
        cases hstep with
        | assign value => exact absurd (assigns_of_change? hchange) hassigns
        | _ => exact ⟨_, hs'⟩
  · exact ⟨w.roster, hs.of_system hpath⟩

/-! ## the value as a topic -/

/-- The value of the item of a kind at a position, in stores that are reached
from `s`.  It is assigned by operations at the paths that lead there. -/
def topic [LawfulStorage S] (k : ValueKind) (s : Items S ω) (position : Position) :
    Topic (looking (system (S := S))) k.Carrier where
  inv t := (∀ path, t.locate? path = s.locate? path) ∧ ∃ w, k.Stands t position w
  assigns
    | .operation o => k.Assigns o ∧ s.locate? o.path = some position
    | .look => False
  read t := k.valueAt? t position
  observers t := t.observersAt position
  tell := k.notice
  tell_inj := k.notice_inj
  inv_step t request := by
    rintro ⟨hpaths, w, hs⟩
    cases request with
    | look => exact ⟨hpaths, w, hs⟩
    | operation o =>
        refine ⟨fun path => (locate?_system t o path).trans (hpaths path), ?_⟩
        by_cases ho : t.locate? o.path = some position ∧ k.Assigns o
        · obtain ⟨value, hs', -⟩ := hs.of_assigns ho.2 ho.1
          exact ⟨_, hs'⟩
        · obtain ⟨roster, hs'⟩ := hs.of_not_assigns ho
          exact ⟨_, hs'⟩
  calls_of_assigns t request := by
    rintro ⟨hpaths, w, hs⟩ ho
    cases request with
    | look => exact ho.elim
    | operation o =>
        obtain ⟨value, hs', hcalls⟩ := hs.of_assigns ho.1 ((hpaths _).trans ho.2)
        refine ⟨value, hs'.valueAt?_eq, hcalls.trans ?_⟩
        rw [hs.valueAt?_eq]
        exact if_congr Option.some_inj.symm rfl rfl
  read_of_not_assigns t request := by
    rintro ⟨hpaths, w, hs⟩ ho
    cases request with
    | look => rfl
    | operation o =>
        obtain ⟨roster, hs'⟩ := hs.of_not_assigns fun h => ho ⟨h.2, (hpaths _).symm.trans h.1⟩
        exact hs'.valueAt?_eq.trans hs.valueAt?_eq.symm

end ValueKind

/-! ## runs -/

/-- **An observer is stale only if the value was replaced ahead of it**.  An
assignment changes the value of an item, and the observers that it calls may do
anything to the store, assign the same item again at any depth, and go on by
what they read.  If all that ends, an observer that was connected all the time
was told something last, and the value at the end is the one that the item had
when that call began.  So it is the value that the observer was told, if whoever
is called ahead of it leaves the value as it finds it. -/
theorem lastTold_of_run [Storage S ω] [LawfulStorage S] (k : ValueKind)
    {behavior : ω → Notice → Script (Request (Operation ω)) (Reply ⊕ Items S ω) M} {fuel : Nat}
    {s : Items S ω} {position : Position} {i : Item S ω} {value new : k.Carrier}
    (earlier : List (Signal.Operation ω k.Carrier)) {o : Operation ω} {m : M}
    {result : Items S ω × M} (hitem : s.root.at? position = some (.item i))
    (hstate : k.Holds i.content ⟨⟨value⟩, after Signal.system .empty earlier⟩)
    (hpath : s.locate? o.path = some position) (ho : k.change? o = some (.assign new))
    (hnew : value ≠ new)
    (hrun : run (looking system) behavior fuel (.perform (.operation o) fun _ => .done) (s, m) =
      some result) :
    ∃ d, record (looking system) behavior fuel (.perform (.operation o) fun _ => .done)
        ([], s, m) = some (d, result) ∧
      ∀ x, (∀ t, Visited (looking system) s d t → x ∈ t.observersAt position) →
        ∃ before told, (k.topic s position).LastTold s d x before told ∧
          k.valueAt? result.1 position =
            k.valueAt? (after (looking system) s (Diary.operations before)) position ∧
          ((∀ y, (k.topic s position).Ahead s d y x →
              (k.topic s position).Leaves behavior s d y) →
            k.valueAt? result.1 position = some told) := by
  obtain ⟨roster, -, hroster⟩ := (Signal.represents_empty (S := S)).runs earlier
  have hs : k.Stands s position ⟨value, roster⟩ := ⟨i, _, hitem, hstate, rfl, hroster⟩
  have hinv : (k.topic s position).inv s := ⟨fun _ => rfl, _, hs⟩
  obtain ⟨d, hrecord, -⟩ := faithful_of_run hrun
  obtain ⟨rest, hrest⟩ := prefix_of_record_perform hrecord
  have heq : d = [] ++ .performed (.operation o) :: rest := hrest.symm
  obtain ⟨-, -, -, hassigned⟩ := hs.assign hpath ho
  have hchange : k.valueAt? (system s o).state position ≠ k.valueAt? s position := by
    rw [hassigned.valueAt?_eq, hs.valueAt?_eq]
    exact fun heq => hnew (Option.some.inj heq).symm
  exact ⟨d, hrecord, fun x hstays => Topic.lastTold_of_record hinv hrecord hstays heq hchange⟩

/-- A store with a text that the given observers watch, in that order. -/
def nameStore (observers : List String) : Items (Arena String) String :=
  ⟨Group.ofEntries rootName [
    .item ⟨.ofName "Name", .text ⟨⟨""⟩,
      after (Signal.system (ν := String)) .empty (observers.map .connect)⟩⟩]⟩

/-- The observer `fix` assigns `b` when it is told `a`. -/
def fixing : String → Notice →
    Script (Request (Operation String)) (Reply ⊕ Items (Arena String) String) Unit
  | "fix", .text "a" => .perform (.operation (.setText "Name" "b")) fun _ => .done
  | _, _ => .done

/-- The text is assigned `a`. -/
def namingA : Script (Request (Operation String)) (Reply ⊕ Items (Arena String) String) Unit :=
  .perform (.operation (.setText "Name" "a")) fun _ => .done

/-- What is done when `fix` is behind `label`, and `watch` is ahead of it. -/
def watched : Diary (Request (Operation String)) String Notice :=
  [.performed (.operation (.setText "Name" "a")),
    .called 0 "watch" (.text "a"), .called 0 "label" (.text "a"),
    .called 0 "fix" (.text "a"), .performed (.operation (.setText "Name" "b")),
      .called 1 "watch" (.text "b"), .called 1 "label" (.text "b"), .called 1 "fix" (.text "b")]

theorem observersAt_of_visited_watched {t : Items (Arena String) String}
    (h : Visited (looking system) (nameStore ["watch", "label", "fix"]) watched t) :
    t.observersAt [0] = ["watch", "label", "fix"] := by
  obtain ⟨before, hbefore, rfl⟩ := h
  have hall : ∀ before ∈ watched.inits, (after (looking system)
      (nameStore ["watch", "label", "fix"]) (Diary.operations before)).observersAt [0] =
        ["watch", "label", "fix"] := by decide
  exact hall before ((List.mem_inits _ _).2 hbefore)

/-- Behind one that only watches and ahead of `fix`, the observer `label` is told
what the text is at the end. -/
theorem lastTold_of_run_fixing :
    ∃ s', record (looking system) fixing 9 namingA
        ([], nameStore ["watch", "label", "fix"], ()) = some (watched, s', ()) ∧
      ∃ before, (ValueKind.text.topic (nameStore ["watch", "label", "fix"]) [0]).LastTold
          (nameStore ["watch", "label", "fix"]) watched "label" before "b" ∧
        ValueKind.text.valueAt? s' [0] = some "b" := by
  obtain ⟨⟨s', _⟩, hrun, hvalue⟩ : ∃ result : Items (Arena String) String × Unit,
      run (looking system) fixing 9 namingA (nameStore ["watch", "label", "fix"], ()) =
        some result ∧ ValueKind.text.valueAt? result.1 [0] = some "b" := ⟨_, rfl, rfl⟩
  obtain ⟨d, hrecord, hlast⟩ := lastTold_of_run .text
    (["watch", "label", "fix"].map .connect) rfl (.text _) rfl rfl (by decide) hrun
  have hdiary : (record (looking system) fixing 9 namingA
      ([], nameStore ["watch", "label", "fix"], ())).map Prod.fst = some watched := rfl
  obtain rfl : d = watched := by
    rw [namingA, hrecord] at hdiary
    exact Option.some.inj hdiary
  obtain ⟨before, told, htold, -, hcurrent⟩ := hlast "label" fun t ht => by
    simp [observersAt_of_visited_watched ht]
  refine ⟨s', hrecord, before, ?_, hvalue⟩
  have htold' : ValueKind.text.valueAt? s' [0] = some told := by
    refine hcurrent ?_
    rintro y ⟨t, front, back, ht, hfront, hy⟩
    have hobservers : front ++ "label" :: back = ["watch", "label", "fix"] :=
      hfront.symm.trans (observersAt_of_visited_watched ht)
    obtain rfl : front = ["watch"] := by
      rcases front with _ | ⟨a, _ | ⟨b, _ | ⟨c, front⟩⟩⟩ <;> simp_all
    obtain rfl := List.mem_singleton.1 hy
    intro t u _ hread fuel m t' m' hdone
    -- the script of `watch` does nothing
    cases fuel with
    | zero => cases hdone
    | succ fuel =>
        cases hdone
        exact hread
  obtain rfl := Option.some.inj (hvalue.symm.trans htold')
  exact htold

/-- What is done when `fix` is ahead of `label`. -/
def fixed : Diary (Request (Operation String)) String Notice :=
  [.performed (.operation (.setText "Name" "a")),
    .called 0 "fix" (.text "a"), .performed (.operation (.setText "Name" "b")),
      .called 1 "fix" (.text "b"),
      .called 1 "label" (.text "b"),
    .called 0 "label" (.text "a")]

/-- An observer that is stale: behind `fix`, it is told last what the text was
assigned first. -/
theorem not_told_value_of_fixing :
    ∃ s', record (looking system) fixing 9 namingA ([], nameStore ["fix", "label"], ()) =
        some (fixed, s', ()) ∧
      (∀ t, Visited (looking system) (nameStore ["fix", "label"]) fixed t →
        "label" ∈ t.observersAt [0]) ∧
      (∃ before, (ValueKind.text.topic (nameStore ["fix", "label"]) [0]).LastTold
        (nameStore ["fix", "label"]) fixed "label" before "a") ∧
      ValueKind.text.valueAt? s' [0] = some "b" := by
  refine ⟨_, rfl, ?_, ?_, rfl⟩
  · rintro t ⟨before, hbefore, rfl⟩
    have hall : ∀ before ∈ fixed.inits, "label" ∈ (after (looking system)
        (nameStore ["fix", "label"]) (Diary.operations before)).observersAt [0] := by decide
    exact hall before ((List.mem_inits _ _).2 hbefore)
  · refine ⟨fixed.dropLast, [], .operation (.setText "Name" "a"), _, [], rfl, ⟨trivial, rfl⟩, rfl,
      rfl, ?_⟩
    simp

end UiMarkup.Items
