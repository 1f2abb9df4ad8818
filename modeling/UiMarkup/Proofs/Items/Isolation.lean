import UiMarkup.Proofs.Items.Effects
import UiMarkup.Proofs.Items.Reassignment
import UiMarkup.Proofs.Observer.Quiet

/-!
# UiMarkup.Proofs.Items.Isolation

An operation through a path, with observers that perform none of their own,
touches the item that the path leads to and nothing else: every other item stays
as it is, whatever stands there is not asked whom to call, and paths lead where
they led.  Paths that differ only in spelling are the same path.

* `SamePath`, `Operation.through`: other spellings of a path;
* `Confined`: what an operation leaves alone, and where its effect is seen;
* `confined_of_perform`: every operation is confined, and ends.
-/

namespace UiMarkup

open Items

variable {S ω M : Type}

/-! ## spellings -/

/-- Where names lead depends on their keys alone. -/
theorem Group.locate?_congr {g : Group S ω} {names names' : List String}
    (h : names.map key = names'.map key) : g.locate? names = g.locate? names' := by
  induction names generalizing g names' with
  | nil => rw [List.map_eq_nil_iff.1 h.symm]
  | cons n names ih =>
      obtain ⟨n', names', rfl, hn, hnames⟩ := List.map_eq_cons_iff.1 h.symm
      have hplace : g.place? n = g.place? n' := by rw [place?, place?, hn]
      by_cases hnil : names = []
      · subst hnil
        obtain rfl := List.map_eq_nil_iff.1 hnames
        rw [locate?, locate?, hplace]
      · have hnil' : names' ≠ [] := by
          rintro rfl
          exact hnil (List.map_eq_nil_iff.1 hnames.symm)
        rw [locate?_cons hnil, locate?_cons hnil', hplace]
        simp only [ih hnames.symm]

namespace Items

open Observer

/-- The paths differ only in spelling: their names have the same keys, one after
the other. -/
def SamePath (path path' : String) : Prop :=
  (namesOfPath path).map key = (namesOfPath path').map key

instance (path path' : String) : Decidable (SamePath path path') :=
  inferInstanceAs (Decidable (_ = _))

/-- The operation at another path. -/
def Operation.through (path : String) : Operation ω → Operation ω
  | .setText _ value => .setText path value
  | .setFlag _ value => .setFlag path value
  | .setChoice _ value => .setChoice path value
  | .toggle _ => .toggle path
  | .emitText _ value => .emitText path value
  | .emitFlag _ value => .emitFlag path value
  | .emitChoice _ value => .emitChoice path value
  | .observe _ observer => .observe path observer
  | .disconnect _ handle => .disconnect path handle
  | .disconnectAll _ => .disconnectAll path
  | .bind _ action => .bind path action
  | .unbind _ => .unbind path
  | .execute _ => .execute path

section

variable {s : Items S ω} {o : Operation ω} {path path' : String}

theorem SamePath.locate?_eq (h : SamePath path path') (s : Items S ω) :
    s.locate? path = s.locate? path' :=
  Group.locate?_congr h

theorem SamePath.find?_eq (h : SamePath path path') (s : Items S ω) :
    s.find? path = s.find? path' := by
  rw [find?, find?, h.locate?_eq]

theorem SamePath.itemAt?_eq (h : SamePath path path') (s : Items S ω) :
    s.itemAt? path = s.itemAt? path' := by
  rw [itemAt?, itemAt?, h.find?_eq]

theorem SamePath.modify_eq (h : SamePath path path') (s : Items S ω)
    (change : Content S ω → Content S ω) : s.modify path change = s.modify path' change := by
  rw [modify, modify, h.locate?_eq]

@[simp] theorem path_through (path : String) (o : Operation ω) : (o.through path).path = path := by
  cases o <;> rfl

variable [Storage S ω]

@[simp] theorem onContent_through (path : String) (o : Operation ω) :
    ((o.through path).onContent : Content S ω → Content S ω) = o.onContent := by
  cases o <;> rfl

@[simp] theorem callsOn_through (path : String) (o : Operation ω) :
    ((o.through path).callsOn : Content S ω → List (ω × Notice)) = o.callsOn := by
  cases o <;> rfl

/-- An operation does the same under another spelling of its path. -/
theorem system_through (h : SamePath path o.path) :
    (system s (o.through path)).state = (system s o).state ∧
      (system s (o.through path)).calls = (system s o).calls := by
  have hthrough := does_system s (o.through path)
  have hdone := does_system s o
  rw [path_through, onContent_through, callsOn_through] at hthrough
  constructor
  · rw [hthrough.state, hdone.state, h.modify_eq]
  · rw [hthrough.calls, hdone.calls, h.itemAt?_eq]

end

/-! ## what an operation makes of a content -/

section

variable {k : ValueKind} {s : Items S ω} {o : Operation ω} {c : Content S ω}

theorem Content.kind_mapChanged (change : Signal S → Signal S) (c : Content S ω) :
    (c.mapChanged change).kind = c.kind := by
  cases c <;> rfl

variable [Storage S ω]

/-- No operation changes the kind of an item. -/
theorem kind_onContent (o : Operation ω) (c : Content S ω) : (o.onContent c).kind = c.kind := by
  cases o with
  | observe | disconnect | disconnectAll => exact Content.kind_mapChanged ..
  | _ => cases c <;> rfl

/-- Whom operations on an item may call: the observers of its value, or its
action. -/
def Content.callees : Content S ω → List ω
  | .command action => action.toList
  | c => c.observers

theorem Content.mem_callees_of_mem_observers {x : ω} (h : x ∈ c.observers) : x ∈ c.callees := by
  cases c with
  | command action => cases h
  | _ => exact h

/-- An assignment calls observers of the value alone. -/
theorem ValueKind.mem_callees_of_mem_assign {value : k.Carrier} {call : ω × Notice}
    (h : call ∈ (k.assign value c).2.2) : call.1 ∈ c.callees := by
  by_cases hkind : c.kind = k.kind
  · obtain ⟨state, hstate⟩ := exists_holds hkind
    obtain ⟨-, -, hcalls⟩ := hstate.assign value
    rw [hcalls, Observed.calls_assign] at h
    obtain ⟨x, hx, rfl⟩ := List.mem_map.1 h
    refine Content.mem_callees_of_mem_observers ?_
    rw [Content.observers, hstate.changed?_eq]
    split at hx
    · cases hx
    · exact hx
  · rw [assign_of_kind_ne hkind] at h
    cases h

theorem Content.mem_callees_of_mem_emission {kind : Kind} {notice : Notice} {call : ω × Notice}
    (h : call ∈ c.emission kind notice) : call.1 ∈ c.callees := by
  rw [emission] at h
  split at h
  · obtain ⟨x, hx, rfl⟩ := List.mem_map.1 h
    exact mem_callees_of_mem_observers hx
  · cases h

/-- The calls that an operation makes for an item are of those that it holds. -/
theorem mem_callees_of_mem_callsOn {call : ω × Notice} (h : call ∈ o.callsOn c) :
    call.1 ∈ c.callees := by
  cases o with
  | setText path value => exact ValueKind.mem_callees_of_mem_assign (k := .text) h
  | setFlag path value => exact ValueKind.mem_callees_of_mem_assign (k := .flag) h
  | setChoice path value => exact ValueKind.mem_callees_of_mem_assign (k := .choice) h
  | toggle path =>
      cases c with
      | flag state => exact ValueKind.mem_callees_of_mem_assign (k := .flag) h
      | _ => cases h
  | emitText | emitFlag | emitChoice => exact Content.mem_callees_of_mem_emission h
  | execute path =>
      cases c with
      | command action =>
          obtain ⟨x, hx, rfl⟩ := List.mem_map.1 h
          exact hx
      | _ => cases h
  | _ => cases h

/-! ## what is read at a path -/

/-- The value of the item of the kind at a path. -/
def ValueKind.valueOf? (k : ValueKind) (s : Items S ω) (path : String) : Option k.Carrier :=
  (s.itemAt? path).bind fun i => k.value? i.content

/-- The observers of the item at a path. -/
def observersOf (s : Items S ω) (path : String) : List ω :=
  (s.itemAt? path).elim [] fun i => i.content.observers

/-- The value that an operation assigns to an item of the kind with this value. -/
def ValueKind.assigned? : (k : ValueKind) → Operation ω → k.Carrier → Option k.Carrier
  | .text, .setText _ value, _ => some value
  | .flag, .setFlag _ value, _ => some value
  | .flag, .toggle _, value => some !value
  | .choice, .setChoice _ value, _ => some value
  | _, _, _ => none

omit [Storage S ω] in
theorem ValueKind.exists_holds_of_value? {value : k.Carrier} (h : k.value? c = some value) :
    ∃ state, k.Holds c state ∧ state.value = value := by
  have hkind : c.kind = k.kind := by
    cases k <;> cases c <;> first | rfl | cases h
  obtain ⟨state, hstate⟩ := exists_holds hkind
  exact ⟨state, hstate, Option.some.inj (hstate.value?_eq.symm.trans h)⟩

/-- The value that is assigned is the value of the content. -/
theorem ValueKind.value?_onContent {former value : k.Carrier} (hformer : k.value? c = some former)
    (hvalue : k.assigned? o former = some value) : k.value? (o.onContent c) = some value := by
  obtain ⟨state, hstate, rfl⟩ := exists_holds_of_value? hformer
  have hcontent : o.onContent c = (k.assign value c).2.1 := by
    cases k <;> cases o <;> cases hvalue <;> first | rfl | (cases hstate; rfl)
  obtain ⟨hassigned, -, -⟩ := hstate.assign value
  rw [hcontent, hassigned.value?_eq, Observed.value_assign]

theorem Content.observers_mapChanged {signal : Signal S} (h : c.changed? = some signal)
    (change : Signal S → Signal S) :
    (c.mapChanged change).observers = (change signal).observers := by
  cases c <;> cases h <;> rfl

/-- An observer that is connected runs after all others. -/
theorem observers_connect [LawfulStorage S] {signal : Signal S} {roster : Roster ω}
    (hsignal : signal.Represents roster) (x : ω) :
    (signal.connect x).2.observers = signal.observers ++ [x] := by
  rw [(hsignal.connect x).observers_eq, hsignal.observers_eq, Roster.connect, List.map_append]
  rfl

end

/-! ## operations through a path -/

variable [Storage S ω]

/-- What an operation leaves alone, and where its effect is seen. -/
structure Confined (s : Items S ω) (o : Operation ω) (done : Outcome (Items S ω) ω Notice Reply) :
    Prop where
  /-- All paths lead where they led, to entries of the same names and kinds. -/
  paths : ∀ path, done.state.locate? path = s.locate? path ∧
    (done.state.find? path).map Entry.label = (s.find? path).map Entry.label
  /-- At paths that lead elsewhere are the same items, with all that they hold. -/
  others : ∀ path, s.locate? path ≠ s.locate? o.path →
    done.state.itemAt? path = s.itemAt? path
  /-- Whoever is called observes the item at the path, or is its action. -/
  called : ∀ call ∈ done.calls, ∃ i, s.itemAt? o.path = some i ∧ call.1 ∈ i.content.callees
  /-- The same are called whatever an item elsewhere holds. -/
  blind : ∀ path change, s.locate? path ≠ s.locate? o.path →
    (system (s.modify path change) o).calls = done.calls
  /-- Other spellings of a path lead to the same, before and afterwards. -/
  spelled : ∀ path path', SamePath path path' →
    s.locate? path = s.locate? path' ∧ s.find? path = s.find? path' ∧
      done.state.find? path = done.state.find? path'
  /-- The operation does the same through another spelling of its path. -/
  through : ∀ path, SamePath path o.path →
    (system s (o.through path)).state = done.state ∧
      (system s (o.through path)).calls = done.calls
  /-- A value that is assigned is read through every spelling. -/
  assigned : ∀ path (k : ValueKind) former value, SamePath path o.path →
    k.valueOf? s o.path = some former → k.assigned? o former = some value →
      k.valueOf? done.state path = some value
  /-- An observer that is connected is found through every spelling, behind all
  that were there. -/
  connected : ∀ path observer i signal, SamePath path o.path → o = .observe o.path observer →
    s.itemAt? o.path = some i → i.content.changed? = some signal →
      done.state.observersOf path = (signal.connect observer).2.observers ∧
        ∀ roster, signal.Represents roster →
          done.state.observersOf path = s.observersOf o.path ++ [observer]

theorem confined_system [LawfulStorage S] (s : Items S ω) (o : Operation ω) :
    Confined s o (system s o) where
  paths path := by
    refine ⟨locate?_system s o path, ?_⟩
    rw [(does_system s o).state]
    exact map_label_find?_modify (kind_onContent o) o.path path
  others path hne := by
    rw [(does_system s o).state]
    exact itemAt?_modify_of_ne (Ne.symm hne) _
  called call hcall := by
    rw [(does_system s o).calls] at hcall
    cases hi : s.itemAt? o.path with
    | none => simp [hi] at hcall
    | some i =>
        rw [hi] at hcall
        exact ⟨i, rfl, mem_callees_of_mem_callsOn hcall⟩
  blind path change hne := by
    rw [(does_system _ o).calls, (does_system s o).calls, itemAt?_modify_of_ne hne]
  spelled path path' h := ⟨h.locate?_eq s, h.find?_eq s, h.find?_eq _⟩
  through path h := system_through h
  assigned path k former value h hformer hvalue := by
    obtain ⟨i, hi, hformer⟩ := Option.bind_eq_some_iff.1 hformer
    rw [ValueKind.valueOf?, h.itemAt?_eq, (does_system s o).state, itemAt?_modify hi]
    exact ValueKind.value?_onContent hformer hvalue
  connected path observer i signal h ho hi hsignal := by
    have hafter : (system s o).state.observersOf path = (signal.connect observer).2.observers := by
      rw [observersOf, h.itemAt?_eq, (does_system s o).state, itemAt?_modify hi, ho]
      exact Content.observers_mapChanged hsignal _
    have hbefore : s.observersOf o.path = signal.observers := by
      rw [observersOf, hi, Option.elim_some, Content.observers, hsignal, Option.elim_some]
    refine ⟨hafter, fun roster hroster => ?_⟩
    rw [hafter, hbefore, observers_connect hroster]

/-- **An operation through a path touches the item at that path and nothing
else**, if no observer performs an operation of its own.  Then it ends with the
calls that it makes itself. -/
theorem confined_of_perform [LawfulStorage S] {behavior : ω → Notice → Script (Operation ω) Reply M}
    (hquiet : Quiet behavior) (s : Items S ω) (o : Operation ω) (m : M) :
    (∃ m' enough, ∀ fuel ≥ enough,
      record system behavior fuel (.perform o fun _ => .done) ([], s, m) =
        some (.performed o :: callsMade 0 (system s o).calls, (system s o).state, m')) ∧
      Confined s o (system s o) :=
  ⟨hquiet.exists_record_perform system o s m, confined_system s o⟩

/-- A text named `Name` with one observer. -/
def watchedName (observer : String) : Item (Arena String) String :=
  ⟨.ofName "Name", .text ⟨⟨"n"⟩, after (Signal.system (ν := String)) .empty [.connect observer]⟩⟩

/-- A store with two texts of the same name, one at the root and one in a
group. -/
def names : Items (Arena String) String :=
  ⟨.ofEntries rootName [.item (watchedName "root"),
    (Group.ofEntries "File" [.item (watchedName "file"), .item (.ofKind .command "Open")]).toEntry]⟩

/-- Observers that only remember that they were called. -/
def noting (observer : String) (_ : Notice) : Script (Operation String) Reply (List String) :=
  .remember (observer :: ·) fun _ => .done

/-- The text in the group is assigned under another spelling of its path, and so
is an observer connected. -/
theorem confined_of_perform_nested :
    (∃ s', (∃ called enough, ∀ fuel ≥ enough,
        record system noting fuel (.perform (.setText "FILE.NAME" "x") fun _ => .done)
            ([], names, []) =
          some ([.performed (.setText "FILE.NAME" "x"), .called 0 "file" (.text "x")],
            s', called)) ∧
      ValueKind.text.valueOf? s' "File.name" = some "x" ∧
      s'.itemAt? "Name" = some (watchedName "root") ∧
      (s'.find? "File.Open").map Entry.label = some ("Open", .item .command)) ∧
      (system names (.observe "FILE.NAME" "late")).state.observersOf "File.name" =
        ["file", "late"] := by
  have hquiet : Quiet noting := fun _ _ _ => trivial
  have hcalls : (system names (.setText "FILE.NAME" "x")).calls = [("file", .text "x")] := rfl
  obtain ⟨hends, hconfined⟩ := confined_of_perform hquiet names (.setText "FILE.NAME" "x") []
  rw [hcalls] at hends
  have hpath : SamePath "File.name" "FILE.NAME" := by decide
  have hread : ValueKind.text.valueOf? names "FILE.NAME" = some "n" := rfl
  have helsewhere : names.locate? "Name" ≠ names.locate? "FILE.NAME" := by decide
  refine ⟨⟨_, hends, hconfined.assigned _ .text "n" "x" hpath hread rfl, ?_, ?_⟩, ?_⟩
  · exact (hconfined.others "Name" helsewhere).trans rfl
  · exact (hconfined.paths "File.Open").2.trans rfl
  · obtain ⟨-, hobserved⟩ := confined_of_perform hquiet names (.observe "FILE.NAME" "late") []
    obtain ⟨roster, -, hroster⟩ :=
      (Signal.represents_empty (S := Arena String)).runs (ν := String) [.connect "file"]
    have hconnected := hobserved.connected "File.name" "late" (watchedName "file") _ hpath rfl
      rfl rfl
    exact (hconnected.2 roster hroster).trans rfl

end Items

end UiMarkup
