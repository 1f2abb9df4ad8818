import UiMarkup.Proofs.Observer.Chronicle

/-!
# UiMarkup.Proofs.Observer.Excerpt

What a diary says of some of the operations: a view tells which, and what to
read in them.  If no observer performs such an operation, each of them makes
its calls before the next one is performed, whatever else is done meanwhile.

* `Diary.excerpt`: the operations in view and the calls that they make, in the
  order of time;
* `outcomes`: the same operations with what they do, one after the other;
* `excerpt_of_record`: the excerpt has what the operations in view do.
-/

namespace UiMarkup.Observer

variable {S O W N R M C : Type}

/-! ## what is in view -/

/-- The operations in view, each with what it does in the state that all
operations before it lead to. -/
def outcomes (view : O → Option C) (system : System S O W N R) (s : S) :
    List O → List (C × Outcome S W N R)
  | [] => []
  | operation :: rest =>
    (view operation).toList.map (·, system s operation) ++
      outcomes view system (system s operation).state rest

/-- An operation in view, then the calls that it makes. -/
def told (seen : C × Outcome S W N R) : List (C ⊕ (W × N)) :=
  .inl seen.1 :: seen.2.calls.map .inr

/-- What a moment says of the operations in view: an operation, or a call that
one of them makes.  The causes of calls are places among `operations`. -/
def Moment.seen (view : O → Option C) (operations : List O) :
    Moment O W N → List (C ⊕ (W × N))
  | .performed o => (view o).toList.map .inl
  | .called cause w v => (operations[cause]?.bind view).toList.map fun _ => .inr (w, v)

namespace Diary

/-- What a stretch of a diary says of the operations in view. -/
def seen (view : O → Option C) (operations : List O) (d : Diary O W N) : List (C ⊕ (W × N)) :=
  d.flatMap (Moment.seen view operations)

/-- The operations in view and the calls that they make, in the order of time. -/
def excerpt (view : O → Option C) (d : Diary O W N) : List (C ⊕ (W × N)) :=
  seen view (operations d) d

@[simp] theorem seen_append {view : O → Option C} {operations : List O} (d e : Diary O W N) :
    seen view operations (d ++ e) = seen view operations d ++ seen view operations e :=
  List.flatMap_append

end Diary

open Diary

variable {system : System S O W N R} {behavior : W → N → Script O R M} {view : O → Option C}
  {p : O → Prop} {fuel n : Nat} {s s' s'' : S} {m m' : M} {d d' d'' e : Diary O W N}
  {script : Script O R M}

theorem outcomes_append (before rest : List O) :
    outcomes view system s (before ++ rest) =
      outcomes view system s before ++ outcomes view system (after system s before) rest := by
  induction before generalizing s with
  | nil => rfl
  | cons o before ih => simp [outcomes, ih, after]

theorem outcomes_eq_nil {operations : List O} (h : ∀ o ∈ operations, view o = none) :
    outcomes view system s operations = [] := by
  induction operations generalizing s with
  | nil => rfl
  | cons o operations ih =>
      rw [outcomes, h o List.mem_cons_self, ih fun o' ho' => h o' (List.mem_cons_of_mem o ho')]
      rfl

/-! ## operations of scripts that keep to some -/

/-- From a diary to a longer one by operations that satisfy `p`. -/
def Adds (p : O → Prop) (d d' : Diary O W N) : Prop :=
  ∃ e, d' = d ++ e ∧ ∀ o ∈ operations e, p o

theorem Adds.refl : Adds p d d :=
  ⟨[], by simp, by simp⟩

theorem Adds.trans (h : Adds p d d') (h' : Adds p d' d'') : Adds p d d'' := by
  obtain ⟨e, rfl, he⟩ := h
  obtain ⟨e', rfl, he'⟩ := h'
  refine ⟨e ++ e', by simp, ?_⟩
  rw [operations_append]
  exact List.forall_mem_append.2 ⟨he, he'⟩

theorem Adds.called (cause : Nat) (w : W) (v : N) : Adds p d (d ++ [.called cause w v]) :=
  ⟨_, rfl, by simp⟩

theorem Adds.performed {o : O} (h : p o) : Adds p d (d ++ [.performed o]) :=
  ⟨_, rfl, by simpa using h⟩

/-- Calls add what each of them adds. -/
theorem adds_of_calls (hcall : ∀ {w v d s m d' s' m'},
      record system behavior fuel (behavior w v) (d, s, m) = some (d', s', m') → Adds p d d')
    {cause : Nat} (calls : List (W × N))
    (h : makeCalls system behavior fuel cause calls (d, s, m) = some (d', s', m')) :
    Adds p d d' := by
  induction calls generalizing d s m with
  | nil =>
      obtain ⟨rfl, -⟩ := makeCalls_nil_eq_some.1 h
      exact .refl
  | cons call calls ih =>
      obtain ⟨d₁, s₁, m₁, hcalled, hrest⟩ := makeCalls_cons_eq_some.1 h
      exact ((Adds.called cause _ _).trans (hcall hcalled)).trans (ih hrest)

/-- If a script and all observers keep to some operations, the diary gains no
others. -/
theorem adds_of_record (hbehavior : ∀ w v, (behavior w v).Only p) (hscript : script.Only p)
    (h : record system behavior fuel script (d, s, m) = some (d', s', m')) : Adds p d d' :=
  record_induction (fun d _ d' _ => Adds p d d') (fun _ _ => .refl) .trans
    (fun hcall _ ho _ _ _ _ _ _ hcalls => (Adds.performed ho).trans (adds_of_calls hcall _ hcalls))
    hbehavior hscript h

/-! ## stretches out of view -/

/-- Calls that are made in a stretch and by no operation before it are made by
operations in it. -/
theorem exists_operation_of_called {all : List O} {cause : Nat} {w : W} {v : N}
    (he : Faithful system (operations d).length s e s')
    (hold : ∀ k < (operations d).length, callsOf k e = [])
    (hall : operations (d ++ e) <+: all) (hmem : .called cause w v ∈ e) :
    ∃ o ∈ operations e, all[cause]? = some o := by
  have hcall : (w, v) ∈ callsOf cause e := mem_callsOf.2 hmem
  have hle : (operations d).length ≤ cause := by
    refine Nat.le_of_not_lt fun hlt => ?_
    rw [hold cause hlt] at hcall
    cases hcall
  obtain ⟨k, rfl⟩ := Nat.exists_eq_add_of_le hle
  obtain ⟨before, o, rest, hsplit, rfl, -⟩ := he.exists_of_called hmem
  obtain ⟨more, rfl⟩ := hall
  refine ⟨o, by simp [hsplit], ?_⟩
  rw [operations_append, List.append_assoc, List.getElem?_append_right hle, hsplit]
  simp

/-- A stretch without operations in view, and without calls by operations
before it, says nothing. -/
theorem seen_eq_nil {all : List O} (he : Faithful system (operations d).length s e s')
    (hold : ∀ k < (operations d).length, callsOf k e = [])
    (hout : ∀ o ∈ operations e, view o = none) (hall : operations (d ++ e) <+: all) :
    seen view all e = [] := by
  refine List.flatMap_eq_nil_iff.2 fun moment hmem => ?_
  cases moment with
  | performed o =>
      have ho : o ∈ operations e := List.mem_filterMap.2 ⟨_, hmem, rfl⟩
      rw [Moment.seen, hout o ho]
      rfl
  | called cause w v =>
      obtain ⟨o, ho, hcause⟩ := exists_operation_of_called he hold hall hmem
      rw [Moment.seen, hcause, Option.bind_some, hout o ho]
      rfl

/-- The stretch that a script adds says nothing if neither the script nor any
observer performs operations in view. -/
theorem seen_of_record_eq_nil (hbehavior : ∀ w v, (behavior w v).Only fun o => view o = none)
    (hscript : script.Only fun o => view o = none)
    (h : record system behavior fuel script (d, s, m) = some (d', s', m')) :
    ∃ e, d' = d ++ e ∧ (∀ o ∈ operations e, view o = none) ∧
      ∀ all, operations d' <+: all → seen view all e = [] := by
  obtain ⟨e, rfl, hout⟩ := adds_of_record hbehavior hscript h
  obtain ⟨e', heq, he, hold⟩ := extends_of_record h
  obtain rfl := List.append_cancel_left heq
  exact ⟨e, rfl, hout, fun all hall => seen_eq_nil he hold hout hall⟩

/-! ## what the diary of a run says -/

/-- The calls of an operation are told one after the other, if it is in view;
of what the observers do, nothing is told. -/
theorem seen_of_calls (hbehavior : ∀ w v, (behavior w v).Only fun o => view o = none)
    {cause : Nat} (calls : List (W × N))
    (h : makeCalls system behavior fuel cause calls (d, s, m) = some (d', s', m')) :
    ∃ e, d' = d ++ e ∧ (∀ o ∈ operations e, view o = none) ∧
      ∀ all, operations d' <+: all →
        seen view all e = if (all[cause]?.bind view).isSome then calls.map .inr else [] := by
  induction calls generalizing d s m with
  | nil =>
      obtain ⟨rfl, -⟩ := makeCalls_nil_eq_some.1 h
      exact ⟨[], by simp, by simp, fun all _ => (ite_self []).symm⟩
  | cons call calls ih =>
      obtain ⟨d₁, s₁, m₁, hcalled, hrest⟩ := makeCalls_cons_eq_some.1 h
      obtain ⟨e, rfl, hout, hseen⟩ := seen_of_record_eq_nil hbehavior (hbehavior _ _) hcalled
      obtain ⟨e', rfl, hout', hseen'⟩ := ih hrest
      refine ⟨.called cause call.1 call.2 :: (e ++ e'), by simp, ?_, fun all hall => ?_⟩
      · rw [operations_called, operations_append]
        exact List.forall_mem_append.2 ⟨hout, hout'⟩
      · have hbefore : operations (d ++ [.called cause call.1 call.2] ++ e) <+: all := by
          rw [operations_append] at hall
          exact (List.prefix_append _ _).trans hall
        rw [← List.singleton_append, seen_append, seen_append, hseen all hbefore, hseen' all hall]
        cases h : all[cause]?.bind view <;> simp [seen, Moment.seen, h]

/-- From a diary and a state to a longer diary and a state by a stretch that
says what the operations in view do. -/
def Tells (view : O → Option C) (system : System S O W N R) (d : Diary O W N) (s : S)
    (d' : Diary O W N) (s' : S) : Prop :=
  ∃ e, d' = d ++ e ∧ after system s (operations e) = s' ∧
    ∀ all, operations d' <+: all →
      seen view all e = (outcomes view system s (operations e)).flatMap told

theorem Tells.refl : Tells view system d s d s :=
  ⟨[], by simp, rfl, fun _ _ => rfl⟩

theorem Tells.trans (h : Tells view system d s d' s') (h' : Tells view system d' s' d'' s'') :
    Tells view system d s d'' s'' := by
  obtain ⟨e, rfl, rfl, he⟩ := h
  obtain ⟨e', rfl, rfl, he'⟩ := h'
  refine ⟨e ++ e', by simp, by simp, fun all hall => ?_⟩
  have hbefore : operations (d ++ e) <+: all := by
    rw [operations_append] at hall
    exact (List.prefix_append _ _).trans hall
  rw [seen_append, he all hbefore, he' all hall, operations_append, outcomes_append,
    List.flatMap_append]

/-- An operation with its calls, if no observer performs operations in view. -/
theorem tells_of_operation (hbehavior : ∀ w v, (behavior w v).Only fun o => view o = none) {o : O}
    (h : makeCalls system behavior fuel (operations d).length (system s o).calls
      (d ++ [.performed o], (system s o).state, m) = some (d', s', m')) :
    Tells view system d s d' s' := by
  obtain ⟨e, rfl, hout, hseen⟩ := seen_of_calls hbehavior _ h
  obtain ⟨e', heq, he, -⟩ := extends_of_calls extends_of_record _ (by simp) h
  obtain rfl := List.append_cancel_left heq
  refine ⟨.performed o :: e, by simp, he.state, fun all hall => ?_⟩
  have hcause : all[(operations d).length]? = some o := by
    obtain ⟨more, rfl⟩ := hall
    simp
  rw [← List.singleton_append, seen_append, hseen all hall, hcause, List.singleton_append,
    operations_performed, outcomes, outcomes_eq_nil hout, List.append_nil]
  cases hview : view o <;> simp [seen, Moment.seen, hview, told]

/-- Whatever a script does, the stretch that it adds says what the operations
in view do, if no observer performs such operations. -/
theorem tells_of_record (hbehavior : ∀ w v, (behavior w v).Only fun o => view o = none)
    (h : record system behavior fuel script (d, s, m) = some (d', s', m')) :
    Tells view system d s d' s' :=
  record_induction (Tells view system) (fun _ _ => .refl) .trans
    (fun _ _ _ _ _ _ _ _ _ hcalls => tells_of_operation hbehavior hcalls)
    (fun w v => (behavior w v).only_true) script.only_true h

/-- **Each operation makes its calls before the next one**: if no observer
performs operations in view, the excerpt has those operations in the order of
time, each with the calls that it makes right behind it. -/
theorem excerpt_of_record (hbehavior : ∀ w v, (behavior w v).Only fun o => view o = none)
    (h : record system behavior fuel script ([], s, m) = some (d, s', m')) :
    excerpt view d = (outcomes view system s (operations d)).flatMap told := by
  obtain ⟨e, rfl, -, he⟩ := tells_of_record hbehavior h
  exact he _ (List.prefix_refl _)

end UiMarkup.Observer
