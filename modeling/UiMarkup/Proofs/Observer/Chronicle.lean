import UiMarkup.Observer.Script

/-!
# UiMarkup.Proofs.Observer.Chronicle

What happens in a run, in the order of time.  `record` carries a script out as
`run` does and keeps a diary: the operations as they are performed, at whatever
depth, and the calls as they are made, each with the operation it is made by.

* `map_snd_record`: the diary does not change what is carried out;
* `Script.Only`: which operations a script performs;
* `record_induction`: what holds of every run, operation by operation;
* `Faithful`: the diary of a stretch of a run agrees with performing its
  operations one after the other;
* `Extends`: what calls and scripts add to a diary, one after the other;
* `faithful_of_run`: every run that ends has a diary, and that is faithful.
-/

namespace UiMarkup.Observer

variable {S O W N R M : Type}

/-! ## operations one after the other -/

/-- An operation with what it was answered by. -/
structure Performed (O W N R : Type) where
  operation : O
  reply : R
  calls : List (W × N)

/-- The state that operations lead to, one after the other. -/
def after (system : System S O W N R) (s : S) (operations : List O) : S :=
  operations.foldl (fun s operation => (system s operation).state) s

/-- What operations are answered by, one after the other, if nothing is done
by those that they call. -/
def answers (system : System S O W N R) (s : S) : List O → List (Performed O W N R)
  | [] => []
  | operation :: rest =>
    let outcome := system s operation
    ⟨operation, outcome.reply outcome.state, outcome.calls⟩ :: answers system outcome.state rest

variable {system : System S O W N R} {s s' s'' : S}

@[simp] theorem after_append (p q : List O) :
    after system s (p ++ q) = after system (after system s p) q :=
  List.foldl_append

theorem answers_append (p q : List O) :
    answers system s (p ++ q) = answers system s p ++ answers system (after system s p) q := by
  induction p generalizing s with
  | nil => rfl
  | cons operation p ih => simp [answers, ih, after]

@[simp] theorem length_answers (p : List O) : (answers system s p).length = p.length := by
  induction p generalizing s with
  | nil => rfl
  | cons operation p ih => simp [answers, ih]

/-! ## the diary -/

/-- Something that happens in a run. -/
inductive Moment (O W N : Type) where
  /-- An operation is performed. -/
  | performed (operation : O)
  /-- An observer is called with a notice; `cause` is the place, among all
  operations performed, of the one that makes the call. -/
  | called (cause : Nat) (observer : W) (notice : N)

/-- What has happened, in the order of time. -/
abbrev Diary (O W N : Type) := List (Moment O W N)

namespace Diary

/-- The operations performed, at any depth, in the order of time. -/
def operations (d : Diary O W N) : List O :=
  d.filterMap fun
    | .performed operation => some operation
    | .called .. => none

/-- The calls made by the operation at the place `k`, in the order of time. -/
def callsOf (k : Nat) (d : Diary O W N) : List (W × N) :=
  d.filterMap fun
    | .performed _ => none
    | .called cause observer notice => if cause = k then some (observer, notice) else none

/-- No call is made before the operation that makes it is performed, if `n`
operations came before this diary. -/
def Caused (n : Nat) (d : Diary O W N) : Prop :=
  ∀ before cause observer notice rest,
    d = before ++ .called cause observer notice :: rest → cause < n + (operations before).length

@[simp] theorem operations_append (d e : Diary O W N) :
    operations (d ++ e) = operations d ++ operations e :=
  List.filterMap_append

@[simp] theorem operations_performed (o : O) (d : Diary O W N) :
    operations (.performed o :: d) = o :: operations d := rfl

@[simp] theorem operations_called (c : Nat) (w : W) (v : N) (d : Diary O W N) :
    operations (.called c w v :: d) = operations d := rfl

@[simp] theorem operations_nil : operations ([] : Diary O W N) = [] := rfl

@[simp] theorem callsOf_append (k : Nat) (d e : Diary O W N) :
    callsOf k (d ++ e) = callsOf k d ++ callsOf k e :=
  List.filterMap_append

@[simp] theorem callsOf_nil (k : Nat) : callsOf k ([] : Diary O W N) = [] := rfl

@[simp] theorem callsOf_performed (k : Nat) (o : O) (d : Diary O W N) :
    callsOf k (.performed o :: d) = callsOf k d := rfl

@[simp] theorem callsOf_called (k c : Nat) (w : W) (v : N) (d : Diary O W N) :
    callsOf k (.called c w v :: d) = (if c = k then [(w, v)] else []) ++ callsOf k d := by
  unfold callsOf
  rw [List.filterMap_cons]
  split <;> simp_all

theorem mem_callsOf {k : Nat} {w : W} {v : N} {d : Diary O W N} :
    (w, v) ∈ callsOf k d ↔ .called k w v ∈ d := by
  rw [callsOf, List.mem_filterMap]
  constructor
  · rintro ⟨_ | ⟨cause, observer, notice⟩, hmem, heq⟩
    · cases heq
    · obtain ⟨rfl, rfl, rfl⟩ : cause = k ∧ observer = w ∧ notice = v := by simpa using heq
      exact hmem
  · exact fun hmem => ⟨_, hmem, if_pos rfl⟩

theorem caused_nil (n : Nat) : Caused n ([] : Diary O W N) := by
  simp [Caused]

theorem caused_called {n c : Nat} (h : c < n) (w : W) (v : N) :
    Caused n ([.called c w v] : Diary O W N) := by
  intro before cause observer notice rest heq
  cases before with
  | nil => simp_all
  | cons => simp at heq

theorem Caused.append {n : Nat} {d e : Diary O W N} (hd : Caused n d)
    (he : Caused (n + (operations d).length) e) : Caused n (d ++ e) := by
  intro before cause observer notice rest heq
  rcases List.append_eq_append_iff.1 heq with ⟨more, rfl, hrest⟩ | ⟨more, hd', hrest⟩
  · have := he more cause observer notice rest hrest
    rw [operations_append, List.length_append]
    omega
  · cases more with
    | nil =>
        have := he [] cause observer notice rest hrest.symm
        simp_all
    | cons moment more =>
        obtain ⟨rfl, -⟩ := List.cons.inj hrest
        exact hd before cause observer notice more hd'

/-- The operation that makes a call comes before it. -/
theorem Caused.lt_of_mem {n cause : Nat} {w : W} {v : N} {d e : Diary O W N}
    (h : Caused n (d ++ e)) (hmem : .called cause w v ∈ d) : cause < n + (operations d).length := by
  obtain ⟨before, rest, rfl⟩ := List.append_of_mem hmem
  have hlt := h before cause w v (rest ++ e) (by simp)
  simp only [operations_append, List.length_append]
  omega

theorem Caused.performed {n : Nat} {e : Diary O W N} (he : Caused (n + 1) e) (o : O) :
    Caused n (.performed o :: e) := by
  intro before cause observer notice rest heq
  cases before with
  | nil => simp at heq
  | cons moment before =>
      obtain ⟨rfl, rfl⟩ := List.cons.inj heq
      have := he before cause observer notice rest rfl
      rw [operations_performed, List.length_cons]
      omega

end Diary

open Diary

/-- Carries a script out as `run` does, and keeps a diary of it. -/
def record (system : System S O W N R) (behavior : W → N → Script O R M) :
    Nat → Script O R M → Diary O W N × S × M → Option (Diary O W N × S × M)
  | 0, _, _ => none
  | _ + 1, .done, at_ => some at_
  | fuel + 1, .remember change next, (diary, state, memory) =>
    record system behavior fuel (next memory) (diary, state, change memory)
  | fuel + 1, .perform operation next, (diary, state, memory) =>
    let outcome := system state operation
    let cause := (operations diary).length
    let called := outcome.calls.foldlM
      (fun at_ call => record system behavior fuel (behavior call.1 call.2)
        (at_.1 ++ [.called cause call.1 call.2], at_.2))
      (diary ++ [.performed operation], outcome.state, memory)
    match called with
    | none => none
    | some (diary, state, memory) =>
      record system behavior fuel (next (outcome.reply state)) (diary, state, memory)

variable {behavior : W → N → Script O R M} {fuel n : Nat}

/-! ## what a script performs -/

/-- Whatever the script is answered by, the operations that it performs satisfy
`p`. -/
def Script.Only (p : O → Prop) : Script O R M → Prop
  | .done => True
  | .perform operation next => p operation ∧ ∀ reply, (next reply).Only p
  | .remember _ next => ∀ memory, (next memory).Only p

theorem Script.Only.mono {p q : O → Prop} (hpq : ∀ o, p o → q o) {script : Script O R M}
    (h : script.Only p) : script.Only q := by
  induction script with
  | done => trivial
  | perform operation next ih => exact ⟨hpq operation h.1, fun reply => ih reply (h.2 reply)⟩
  | remember change next ih => exact fun memory => ih memory (h memory)

theorem Script.only_true (script : Script O R M) : script.Only fun _ => True := by
  induction script with
  | done => trivial
  | perform operation next ih => exact ⟨trivial, ih⟩
  | remember change next ih => exact ih

/-! ## one operation after the other -/

/-- Makes calls by the operation at the place `cause`, one after the other, as
`record` does. -/
def makeCalls (system : System S O W N R) (behavior : W → N → Script O R M) (fuel cause : Nat)
    (calls : List (W × N)) (at_ : Diary O W N × S × M) : Option (Diary O W N × S × M) :=
  calls.foldlM (fun at_ call => record system behavior fuel (behavior call.1 call.2)
    (at_.1 ++ [.called cause call.1 call.2], at_.2)) at_

section

variable {d d' : Diary O W N} {m m' : M} {cause : Nat}

theorem makeCalls_nil_eq_some :
    makeCalls system behavior fuel cause [] (d, s, m) = some (d', s', m') ↔
      d = d' ∧ s = s' ∧ m = m' := by
  simp [makeCalls]

theorem makeCalls_cons_eq_some {call : W × N} {calls : List (W × N)} :
    makeCalls system behavior fuel cause (call :: calls) (d, s, m) = some (d', s', m') ↔
      ∃ d₁ s₁ m₁, record system behavior fuel (behavior call.1 call.2)
          (d ++ [.called cause call.1 call.2], s, m) = some (d₁, s₁, m₁) ∧
        makeCalls system behavior fuel cause calls (d₁, s₁, m₁) = some (d', s', m') := by
  rw [makeCalls, List.foldlM_cons, Option.bind_eq_bind, Option.bind_eq_some_iff]
  simp only [Prod.exists]
  rfl

theorem record_perform_eq_some {o : O} {next : R → Script O R M} :
    record system behavior (fuel + 1) (.perform o next) (d, s, m) = some (d', s', m') ↔
      ∃ d₁ s₁ m₁, makeCalls system behavior fuel (operations d).length (system s o).calls
          (d ++ [.performed o], (system s o).state, m) = some (d₁, s₁, m₁) ∧
        record system behavior fuel (next ((system s o).reply s₁)) (d₁, s₁, m₁) =
          some (d', s', m') := by
  simp only [record]
  rw [makeCalls]
  cases List.foldlM (m := Option) _ _ _ with
  | none => simp
  | some at_ =>
      obtain ⟨d₁, s₁, m₁⟩ := at_
      simp [and_assoc]

/-- What holds of doing nothing, of one thing after another, and of an
operation with its calls if it holds of what each observer does, holds of every
run of scripts that keep to such operations. -/
theorem record_induction {p : O → Prop} (P : Diary O W N → S → Diary O W N → S → Prop)
    (refl : ∀ d s, P d s d s)
    (trans : ∀ {d s d' s' d'' s''}, P d s d' s' → P d' s' d'' s'' → P d s d'' s'')
    (operation : ∀ {fuel},
      (∀ {w v d s m d' s' m'}, record system behavior fuel (behavior w v) (d, s, m) =
        some (d', s', m') → P d s d' s') →
      ∀ {o}, p o → ∀ {d s m d' s' m'},
        makeCalls system behavior fuel (operations d).length (system s o).calls
          (d ++ [.performed o], (system s o).state, m) = some (d', s', m') → P d s d' s')
    (hbehavior : ∀ w v, (behavior w v).Only p) {script : Script O R M} (hscript : script.Only p)
    (h : record system behavior fuel script (d, s, m) = some (d', s', m')) : P d s d' s' := by
  -- the scripts of the observers have less fuel, so the induction is on that
  induction fuel generalizing script d s m d' s' m' with
  | zero => cases h
  | succ fuel ih =>
      cases script with
      | done =>
          obtain ⟨rfl, rfl, rfl⟩ : d = d' ∧ s = s' ∧ m = m' := by simpa [record] using h
          exact refl d s
      | remember change next => exact ih (hscript m) h
      | perform o next =>
          obtain ⟨ho, hnext⟩ := hscript
          obtain ⟨d₁, s₁, m₁, hcalls, hrest⟩ := record_perform_eq_some.1 h
          exact trans (operation (ih (hbehavior _ _)) ho hcalls) (ih (hnext _) hrest)

end

/-! ## the diary does not change the run -/

/-- A step that only keeps more beside it gives a fold that does so too. -/
theorem map_snd_foldlM {α β γ : Type} {f : γ × α → β → Option (γ × α)} {g : α → β → Option α}
    (h : ∀ c a b, (f (c, a) b).map Prod.snd = g a b) (bs : List β) (c : γ) (a : α) :
    (bs.foldlM f (c, a)).map Prod.snd = bs.foldlM g a := by
  induction bs generalizing c a with
  | nil => rfl
  | cons b bs ih =>
      rw [List.foldlM_cons, List.foldlM_cons, ← h c a b]
      cases f (c, a) b with
      | none => rfl
      | some x => exact ih x.1 x.2

/-- A run with a diary is the run. -/
theorem map_snd_record (script : Script O R M) (d : Diary O W N) (s : S) (m : M) :
    (record system behavior fuel script (d, s, m)).map Prod.snd =
      run system behavior fuel script (s, m) := by
  induction fuel generalizing script d s m with
  | zero => rfl
  | succ fuel ih =>
      cases script with
      | done => rfl
      | remember change next => exact ih (next m) d s (change m)
      | perform operation next =>
          have hcalls := map_snd_foldlM
            (f := fun at_ call => record system behavior fuel (behavior call.1 call.2)
              (at_.1 ++ [.called (operations d).length call.1 call.2], at_.2))
            (g := fun at_ call => run system behavior fuel (behavior call.1 call.2) at_)
            (fun d at_ call => ih _ _ at_.1 at_.2) (system s operation).calls
            (d ++ [.performed operation]) ((system s operation).state, m)
          simp only [record, run]
          rw [← hcalls]
          cases List.foldlM (m := Option) _ _ _ with
          | none => rfl
          | some at_ => exact ih _ _ at_.2.1 at_.2.2

/-! ## the diary agrees with its operations -/

/-- The stretch `e` of a diary, before which `n` operations were performed,
leads from `s` to `s'` as its operations do one after the other, and each of
them makes the calls it makes in the state that those before it lead to. -/
structure Faithful (system : System S O W N R) (n : Nat) (s : S) (e : Diary O W N) (s' : S) :
    Prop where
  state : after system s (operations e) = s'
  calls : ∀ k, callsOf (n + k) e = ((answers system s (operations e))[k]?.map (·.calls)).getD []
  caused : Caused n e

theorem Faithful.nil : Faithful system n s [] s where
  state := rfl
  calls _ := rfl
  caused := caused_nil n

/-- A call by an operation that came before. -/
theorem Faithful.called {c : Nat} (h : c < n) (w : W) (v : N) :
    Faithful system n s [.called c w v] s where
  state := rfl
  calls k := by
    have hne : c ≠ n + k := by omega
    simp [hne, answers]
  caused := caused_called h w v

/-- One stretch after another that makes no calls for it. -/
theorem Faithful.append {d e : Diary O W N} (hd : Faithful system n s d s')
    (he : Faithful system (n + (operations d).length) s' e s'')
    (hcalls : ∀ k, n ≤ k → k < n + (operations d).length → callsOf k e = []) :
    Faithful system n s (d ++ e) s'' where
  state := by rw [operations_append, after_append, hd.state, he.state]
  calls k := by
    rw [callsOf_append, hd.calls, operations_append, answers_append, hd.state]
    by_cases hk : k < (operations d).length
    · rw [List.getElem?_append_left (by simpa using hk), hcalls (n + k) (by omega) (by omega),
        List.append_nil]
    · have hplace : n + k = n + (operations d).length + (k - (operations d).length) := by omega
      rw [List.getElem?_append_right (by simpa using hk), List.getElem?_eq_none (by simpa using hk),
        hplace, he.calls]
      simp
  caused := hd.caused.append he.caused

/-- An operation with the stretch in which its calls are made. -/
theorem Faithful.performed {o : O} {e : Diary O W N}
    (he : Faithful system (n + 1) (system s o).state e s')
    (hcalls : callsOf n e = (system s o).calls) :
    Faithful system n s (.performed o :: e) s' where
  state := he.state
  calls k := by
    cases k with
    | zero => simpa [answers] using hcalls
    | succ k => simpa [answers, Nat.add_assoc, Nat.add_comm 1] using he.calls k
  caused := he.caused.performed o

/-- An operation makes the calls that it makes in the state that the
operations before it lead to. -/
theorem Faithful.callsOf_eq {d : Diary O W N} (hd : Faithful system n s d s') {before rest : List O}
    {o : O} (h : operations d = before ++ o :: rest) :
    callsOf (n + before.length) d = (system (after system s before) o).calls := by
  rw [hd.calls, h, answers_append, List.getElem?_append_right (by simp)]
  simp [answers]

/-- Every call is made by one of the operations before it. -/
theorem Faithful.exists_of_called {d : Diary O W N} (hd : Faithful system n s d s') {k : Nat}
    {w : W} {v : N} (h : .called (n + k) w v ∈ d) :
    ∃ before o rest, operations d = before ++ o :: rest ∧ before.length = k ∧
      (w, v) ∈ (system (after system s before) o).calls := by
  have hlt : k < (operations d).length := by
    obtain ⟨before, rest, rfl⟩ := List.append_of_mem h
    have hcaused := hd.caused before (n + k) w v rest rfl
    rw [operations_append, List.length_append]
    omega
  have hsplit : operations d =
      (operations d).take k ++ (operations d)[k] :: (operations d).drop (k + 1) := by
    rw [← List.drop_eq_getElem_cons, List.take_append_drop]
  have hlength : ((operations d).take k).length = k := by
    rw [List.length_take]
    omega
  refine ⟨_, _, _, hsplit, hlength, ?_⟩
  have hmem : (w, v) ∈ callsOf (n + k) d := mem_callsOf.2 h
  rwa [← hd.callsOf_eq hsplit, hlength]

/-! ## how a run extends the diary -/

/-- No calls. -/
def noCalls : Nat → List (W × N) := fun _ => []

/-- The calls `calls`, by the operation `cause`. -/
def callsBy (cause : Nat) (calls : List (W × N)) : Nat → List (W × N) :=
  fun k => if k = cause then calls else []

theorem callsBy_nil (cause : Nat) : callsBy cause ([] : List (W × N)) = noCalls :=
  funext fun _ => ite_self []

theorem callsBy_append (cause : Nat) (p q : List (W × N)) :
    (fun k => callsBy cause p k ++ callsBy cause q k) = callsBy cause (p ++ q) := by
  funext k
  by_cases hk : k = cause <;> simp [callsBy, hk]

/-- From a diary and a state to a longer diary and a state by a faithful
stretch, in which the operations before it make the calls `old`. -/
def Extends (system : System S O W N R) (old : Nat → List (W × N))
    (d : Diary O W N) (s : S) (d' : Diary O W N) (s' : S) : Prop :=
  ∃ e, d' = d ++ e ∧ Faithful system (operations d).length s e s' ∧
    ∀ k < (operations d).length, callsOf k e = old k

variable {d d' d'' : Diary O W N}

theorem Extends.refl : Extends system noCalls d s d s :=
  ⟨[], by simp, .nil, fun _ _ => rfl⟩

theorem Extends.trans {old old' : Nat → List (W × N)} (h : Extends system old d s d' s')
    (h' : Extends system old' d' s' d'' s'')
    (hnone : ∀ k, (operations d).length ≤ k → k < (operations d').length → old' k = []) :
    Extends system (fun k => old k ++ old' k) d s d'' s'' := by
  obtain ⟨e, rfl, he, hold⟩ := h
  obtain ⟨e', rfl, he', hold'⟩ := h'
  rw [operations_append, List.length_append] at he' hold' hnone
  refine ⟨e ++ e', by simp, he.append he' fun k hle hlt => ?_, fun k hk => ?_⟩
  · rw [hold' k hlt, hnone k hle hlt]
  · rw [callsOf_append, hold k hk, hold' k (by omega)]

theorem Extends.called {cause : Nat} (h : cause < (operations d).length) (w : W) (v : N) :
    Extends system (callsBy cause [(w, v)]) d s (d ++ [.called cause w v]) s := by
  refine ⟨_, rfl, .called h w v, fun k _ => ?_⟩
  rw [callsOf_called, callsOf_nil, List.append_nil, callsBy]
  exact ite_congr (propext eq_comm) (fun _ => rfl) fun _ => rfl

/-- An operation, if it makes its own calls in the stretch that follows. -/
theorem Extends.performed {o : O}
    (h : Extends system (callsBy (operations d).length (system s o).calls)
      (d ++ [.performed o]) (system s o).state d' s') :
    Extends system noCalls d s d' s' := by
  obtain ⟨e, rfl, he, hold⟩ := h
  have hlength : (operations (d ++ [.performed o])).length = (operations d).length + 1 := by simp
  rw [hlength] at he hold
  refine ⟨.performed o :: e, by simp, he.performed ?_, fun k hk => ?_⟩
  · rw [hold _ (by omega), callsBy, if_pos rfl]
  · rw [callsOf_performed, hold k (by omega), callsBy, if_neg (by omega), noCalls]

/-- The calls of an operation are made one after the other, each with the
stretch of what is done by the observer that is called. -/
theorem extends_of_calls
    (hcall : ∀ {w v d s m d' s' m'}, record system behavior fuel (behavior w v) (d, s, m) =
      some (d', s', m') → Extends system noCalls d s d' s')
    {cause : Nat} (calls : List (W × N)) {m m' : M} (hcause : cause < (operations d).length)
    (h : makeCalls system behavior fuel cause calls (d, s, m) = some (d', s', m')) :
    Extends system (callsBy cause calls) d s d' s' := by
  induction calls generalizing d s m with
  | nil =>
      obtain ⟨rfl, rfl, -⟩ := makeCalls_nil_eq_some.1 h
      exact callsBy_nil cause ▸ .refl
  | cons call calls ih =>
      obtain ⟨d₁, s₁, m₁, hcalled, hrest⟩ := makeCalls_cons_eq_some.1 h
      have hfirst : Extends system (callsBy cause [call]) d s d₁ s₁ := by
        simpa [noCalls] using
          (Extends.called hcause call.1 call.2).trans (hcall hcalled) fun _ _ _ => rfl
      have hcause' : cause < (operations d₁).length := by
        obtain ⟨e, rfl, -⟩ := hfirst
        rw [operations_append, List.length_append]
        omega
      rw [← List.singleton_append, ← callsBy_append]
      exact hfirst.trans (ih hcause' hrest) fun k hle _ => if_neg (by omega)

/-- A script adds a faithful stretch to the diary, with no call by an
operation that came before. -/
theorem extends_of_record {script : Script O R M} {m m' : M}
    (h : record system behavior fuel script (d, s, m) = some (d', s', m')) :
    Extends system noCalls d s d' s' :=
  record_induction (Extends system noCalls) (fun _ _ => .refl)
    (fun h h' => h.trans h' fun _ _ _ => rfl)
    (fun hcall _ _ _ _ _ _ _ _ hcalls => (extends_of_calls hcall _ (by simp) hcalls).performed)
    (fun w v => (behavior w v).only_true) script.only_true h

/-- Every run that ends has a diary, and the diary is faithful. -/
theorem faithful_of_run {script : Script O R M} {m : M} {result : S × M}
    (h : run system behavior fuel script (s, m) = some result) :
    ∃ d, record system behavior fuel script ([], s, m) = some (d, result) ∧
      Faithful system 0 s d result.1 := by
  rw [← map_snd_record script [] s m, Option.map_eq_some_iff] at h
  obtain ⟨⟨d, s', m'⟩, hrecord, rfl⟩ := h
  obtain ⟨e, hd, he, -⟩ := extends_of_record hrecord
  rw [List.nil_append] at hd
  exact ⟨d, hrecord, hd ▸ he⟩

end UiMarkup.Observer
