import UiMarkup.Proofs.Observer.Excerpt

/-!
# UiMarkup.Proofs.Observer.Delivery

What an observer is told last.  A value is assigned by some operations of a
system and announced to the observers that are connected.  Observers may assign
it again while they are called, so an observer may be told a value that has been
replaced before its turn.

* `looking`: a system whose state can be read by those that use it;
* `Topic`: a value of a system that is announced when it is assigned;
* `Topic.LastTold`, `Topic.read_eq_of_not_told`: the last announcement to an
  observer, after which the value stays as it is;
* `Topic.toldCurrent_of_record`: observers are told the value as it is then, if
  those ahead of them leave it as they find it;
* `Topic.lastTold_of_record`: what that says of the value at the end of a run.
-/

namespace UiMarkup.Observer

open Diary

variable {S O W N R M V : Type} [DecidableEq V]

/-! ## systems that can be read -/

/-- What is asked of a system: an operation, or its state. -/
inductive Request (O : Type) where
  | operation (o : O)
  | look

/-- A system whose state can be read, which changes nothing and calls nobody. -/
def looking (system : System S O W N R) : System S (Request O) W N (R ⊕ S) := fun s request =>
  match request with
  | .operation o =>
    let outcome := system s o
    ⟨outcome.state, outcome.calls, fun s => .inl (outcome.reply s)⟩
  | .look => .quiet s (.inr s)

/-! ## values that are announced -/

/-- A value that can be read off the states of a system, as long as they satisfy
`inv`.  Some operations assign it and call the observers with what they assign,
if it differs from the value before; the others leave it as it is. -/
structure Topic (system : System S O W N R) (V : Type) [DecidableEq V] where
  inv : S → Prop
  assigns : O → Prop
  read : S → Option V
  observers : S → List W
  tell : V → N
  tell_inj : ∀ u v, tell u = tell v → u = v
  inv_step : ∀ s o, inv s → inv (system s o).state
  calls_of_assigns : ∀ s o, inv s → assigns o →
    ∃ u, read (system s o).state = some u ∧
      (system s o).calls = if read s = some u then [] else (observers s).map (·, tell u)
  read_of_not_assigns : ∀ s o, inv s → ¬ assigns o → read (system s o).state = read s

/-- A state at some moment of a run from `s` with the diary `d`. -/
def Visited (system : System S O W N R) (s : S) (d : Diary O W N) (t : S) : Prop :=
  ∃ before, before <+: d ∧ after system s (operations before) = t

section

variable {system : System S O W N R} {behavior : W → N → Script O R M} {fuel : Nat} {s s' : S}
  {m m' : M} {d d' : Diary O W N}

/-- A run only adds to a diary. -/
theorem prefix_of_record {script : Script O R M}
    (h : record system behavior fuel script (d, s, m) = some (d', s', m')) : d <+: d' := by
  obtain ⟨e, rfl, -⟩ := adds_of_record (fun w v => (behavior w v).only_true) script.only_true h
  exact List.prefix_append d e

theorem prefix_of_calls {cause : Nat} {calls : List (W × N)}
    (h : makeCalls system behavior fuel cause calls (d, s, m) = some (d', s', m')) : d <+: d' := by
  obtain ⟨e, rfl, -⟩ := adds_of_calls
    (adds_of_record (fun w v => (behavior w v).only_true) (Script.only_true _)) calls h
  exact List.prefix_append d e

/-- The first thing that a script does is the first thing that it adds. -/
theorem prefix_of_record_perform {o : O} {next : R → Script O R M}
    (h : record system behavior fuel (.perform o next) (d, s, m) = some (d', s', m')) :
    d ++ [.performed o] <+: d' := by
  cases fuel with
  | zero => cases h
  | succ fuel =>
      obtain ⟨d₁, s₁, m₁, hcalls, hrest⟩ := record_perform_eq_some.1 h
      exact (prefix_of_calls hcalls).trans (prefix_of_record hrest)

end

/-- What holds of some entry of a list holds of one of them last. -/
theorem exists_last {α : Type} {p : α → Prop} {l : List α} (h : ∃ a ∈ l, p a) :
    ∃ before a rest, l = before ++ a :: rest ∧ p a ∧ ∀ b ∈ rest, ¬ p b := by
  induction l with
  | nil => simp at h
  | cons a l ih =>
      by_cases hlater : ∃ b ∈ l, p b
      · obtain ⟨before, b, rest, rfl, hb, hrest⟩ := ih hlater
        exact ⟨a :: before, b, rest, rfl, hb, hrest⟩
      · have hrest : ∀ b ∈ l, ¬ p b := fun b hb hpb => hlater ⟨b, hb, hpb⟩
        obtain ⟨b, hb, hpb⟩ := h
        obtain rfl | hb := List.mem_cons.1 hb
        · exact ⟨[], b, l, rfl, hpb, hrest⟩
        · exact absurd hpb (hrest b hb)

namespace Topic

variable {system : System S O W N R} {behavior : W → N → Script O R M} {fuel : Nat}
  {s s' : S} {m m' : M} {d d' d'' all : Diary O W N} {x y : W} {u : V}

theorem inv_after (T : Topic system V) (hs : T.inv s) (p : List O) : T.inv (after system s p) := by
  induction p generalizing s with
  | nil => exact hs
  | cons o p ih => exact ih (T.inv_step s o hs)

variable (T : Topic system V)

/-- The observer is called by an operation that assigns the value.  The causes
of calls are places among `operations`. -/
def Tells (operations : List O) (x : W) : Moment O W N → Prop
  | .called cause w _ => w = x ∧ ∃ o, operations[cause]? = some o ∧ T.assigns o
  | .performed _ => False

/-- What the diary `d` of a run from `s` tells the observer `x` last: after
`before` it is called with the value `u`, by an operation that assigned `u`, and
it is not called by an assignment afterwards. -/
def LastTold (s : S) (d : Diary O W N) (x : W) (before : Diary O W N) (u : V) : Prop :=
  ∃ earlier o later rest, operations d = earlier ++ o :: later ∧ T.assigns o ∧
    T.read (after system s (earlier ++ [o])) = some u ∧
    d = before ++ .called earlier.length x (T.tell u) :: rest ∧
    ∀ moment ∈ rest, ¬ T.Tells (operations d) x moment

/-- The observer `y` stands ahead of `x` at some moment. -/
def Ahead (s : S) (d : Diary O W N) (y x : W) : Prop :=
  ∃ t front back, Visited system s d t ∧ T.observers t = front ++ x :: back ∧ y ∈ front

/-- The observer leaves the value as it finds it, at whatever moment of the run
it is told the value that is read then. -/
def Leaves (behavior : W → N → Script O R M) (s : S) (d : Diary O W N) (y : W) : Prop :=
  ∀ t u, Visited system s d t → T.read t = some u → ∀ fuel m t' m',
    run system behavior fuel (behavior y (T.tell u)) (t, m) = some (t', m') →
      T.read t' = some u

/-! ## no announcement, no change -/

variable {T}

/-- What an operation calls observers with, if it is one that assigns. -/
theorem calls_cases (hs : T.inv s) {o : O} (ho : T.assigns o) :
    ∃ u, T.read (system s o).state = some u ∧
      ((system s o).calls = [] ∧ T.read s = some u ∨
        (system s o).calls = (T.observers s).map (·, T.tell u)) := by
  obtain ⟨u, hread, hcalls⟩ := T.calls_of_assigns s o hs ho
  refine ⟨u, hread, ?_⟩
  split at hcalls
  · next hsame => exact .inl ⟨hcalls, hsame⟩
  · exact .inr hcalls

/-- An operation that changes the value assigns it, and calls everyone who
observes it, afterwards. -/
theorem exists_called_of_change (hs : T.inv s) (hd : Faithful system 0 s d s')
    {before rest : Diary O W N} {o : O} (heq : d = before ++ .performed o :: rest)
    (hx : x ∈ T.observers (after system s (operations before)))
    (hchange : T.read (after system s (operations before ++ [o])) ≠
      T.read (after system s (operations before))) :
    T.assigns o ∧ ∃ v, .called (operations before).length x v ∈ rest := by
  have hinv := T.inv_after hs (operations before)
  rw [after_append] at hchange
  have ho : T.assigns o := Classical.byContradiction fun ho =>
    hchange (T.read_of_not_assigns _ o hinv ho)
  obtain ⟨u, hread, ⟨-, hsame⟩ | hcalls⟩ := calls_cases hinv ho
  · exact absurd (hread.trans hsame.symm) hchange
  · have hoperations : operations d = operations before ++ o :: operations rest := by
      rw [heq, operations_append, operations_performed]
    have hmade := hd.callsOf_eq hoperations
    rw [hcalls, Nat.zero_add] at hmade
    have hcalled : .called (operations before).length x (T.tell u) ∈ d := by
      rw [← mem_callsOf, hmade]
      exact List.mem_map_of_mem hx
    refine ⟨ho, T.tell u, ?_⟩
    -- it is not called before: the operation has not been performed then
    rw [heq, List.mem_append, List.mem_cons] at hcalled
    obtain hbefore | hself | hrest := hcalled
    · have hcaused := hd.caused
      rw [heq] at hcaused
      exact absurd (hcaused.lt_of_mem hbefore) (by omega)
    · cases hself
    · exact hrest

/-- The value does not change while the observer is not told anything, if it is
there all the time. -/
theorem read_eq_of_not_told (hs : T.inv s) (hd : Faithful system 0 s d s')
    (hstays : ∀ t, Visited system s d t → x ∈ T.observers t) {before rest : Diary O W N}
    (heq : d = before ++ rest) (hrest : ∀ moment ∈ rest, ¬ T.Tells (operations d) x moment) :
    T.read s' = T.read (after system s (operations before)) := by
  -- an operation that changes the value calls the observer later, so not in `rest`
  induction rest generalizing before with
  | nil => rw [← hd.state, heq, List.append_nil]
  | cons moment rest ih =>
      have heq' : d = (before ++ [moment]) ++ rest := by simp [heq]
      rw [ih heq' fun later hlater => hrest later (List.mem_cons_of_mem moment hlater)]
      cases moment with
      | called cause w v => simp
      | performed o =>
          rw [operations_append, operations_performed, operations_nil]
          refine Classical.byContradiction fun hchange => ?_
          have hx := hstays _ ⟨before, ⟨_, heq.symm⟩, rfl⟩
          obtain ⟨ho, v, hcalled⟩ := exists_called_of_change hs hd heq hx hchange
          refine hrest _ (List.mem_cons_of_mem _ hcalled) ⟨rfl, o, ?_, ho⟩
          rw [heq]
          simp

/-- An observer that is told anything is told something last. -/
theorem exists_lastTold (hs : T.inv s) (hd : Faithful system 0 s d s')
    (htold : ∃ moment ∈ d, T.Tells (operations d) x moment) :
    ∃ before u, T.LastTold s d x before u := by
  obtain ⟨before, moment, rest, heq, hmoment, hrest⟩ := exists_last htold
  cases moment with
  | performed o => exact hmoment.elim
  | called cause w v =>
      obtain ⟨rfl, o, ho, hassigns⟩ := hmoment
      have hmem : .called (0 + cause) w v ∈ d := by simp [heq]
      obtain ⟨earlier, o', later, hsplit, rfl, hcall⟩ := hd.exists_of_called hmem
      obtain rfl : o' = o := by simpa [hsplit] using ho
      obtain ⟨u, hread, ⟨hnone, -⟩ | hcalls⟩ := calls_cases (T.inv_after hs earlier) hassigns
      · rw [hnone] at hcall
        cases hcall
      · rw [hcalls] at hcall
        obtain ⟨_, -, hpair⟩ := List.mem_map.1 hcall
        cases hpair
        refine ⟨before, u, earlier, o', later, rest, hsplit, hassigns, ?_, heq, hrest⟩
        rw [after_append]
        exact hread

/-! ## telling what is read -/

/-- In the stretch that follows `d` in the diary of a run from `s`, the observer
is told the value as it is read at that moment.  The causes of calls are places
among `all`. -/
def ToldCurrent (T : Topic system V) (s : S) (all : List O) (x : W) :
    Diary O W N → Diary O W N → Prop
  | _, [] => True
  | d, .performed o :: e => ToldCurrent T s all x (d ++ [.performed o]) e
  | d, .called cause w v :: e =>
    (T.Tells all x (.called cause w v) →
      ∃ u, T.read (after system s (operations d)) = some u ∧ v = T.tell u) ∧
    ToldCurrent T s all x (d ++ [.called cause w v]) e

variable {calling : List O} {e e' : Diary O W N} {t t' t'' : S} {o : O}

theorem toldCurrent_append : T.ToldCurrent s calling x d (e ++ e') ↔
    T.ToldCurrent s calling x d e ∧ T.ToldCurrent s calling x (d ++ e) e' := by
  induction e generalizing d with
  | nil => simp [ToldCurrent]
  | cons moment e ih =>
      cases moment with
      | performed o => simp [ToldCurrent, ih]
      | called cause w v => simp [ToldCurrent, ih, and_assoc]

/-- A stretch of a run from `s` with the diary `all`, from the state `t` to the
state `t'`, in which the observer is told the value as it is read. -/
def Stretch (T : Topic system V) (s : S) (all : Diary O W N) (x : W) (d : Diary O W N) (t : S)
    (d' : Diary O W N) (t' : S) : Prop :=
  after system s (operations d) = t →
    ∃ e, d' = d ++ e ∧ after system s (operations d') = t' ∧
      (d' <+: all → T.ToldCurrent s (operations all) x d e)

theorem Stretch.refl : T.Stretch s all x d t d t :=
  fun ht => ⟨[], by simp, ht, fun _ => trivial⟩

theorem Stretch.trans (h : T.Stretch s all x d t d' t') (h' : T.Stretch s all x d' t' d'' t'') :
    T.Stretch s all x d t d'' t'' := by
  intro ht
  obtain ⟨e, rfl, ht', htold⟩ := h ht
  obtain ⟨e', rfl, ht'', htold'⟩ := h' ht'
  refine ⟨e ++ e', by simp, ht'', fun hall => toldCurrent_append.2 ⟨htold ?_, htold' hall⟩⟩
  exact (List.prefix_append _ _).trans hall

theorem stretch_performed : T.Stretch s all x d t (d ++ [.performed o]) (system t o).state := by
  refine fun ht => ⟨_, rfl, ?_, fun _ => trivial⟩
  rw [operations_append, after_append, ht]
  rfl

/-- The calls that the operation `o` has yet to make in the state `t`: if it
assigns, they announce a value, which is the one that is read as long as `x` is
among those to be called.  Those that come before `x` stand ahead of it. -/
def Announces (T : Topic system V) (s : S) (all : Diary O W N) (x : W) (o : O) (t : S)
    (calls : List (W × N)) : Prop :=
  T.assigns o → ∃ u ws, calls = ws.map (·, T.tell u) ∧ (x ∈ ws → T.read t = some u) ∧
    ∀ front back, ws = front ++ x :: back → ∀ y ∈ front, T.Ahead s all y x

theorem announces_system (hs : T.inv s) (hd : d <+: all)
    (ht : after system s (operations d) = t) :
    T.Announces s all x o (system t o).state (system t o).calls := by
  intro ho
  obtain ⟨u, hread, ⟨hcalls, -⟩ | hcalls⟩ := calls_cases (ht ▸ T.inv_after hs (operations d)) ho
  · exact ⟨u, [], by simp [hcalls], by simp, by simp⟩
  · exact ⟨u, T.observers t, hcalls, fun _ => hread,
      fun front back hfront y hy => ⟨t, front, back, ⟨d, hd, ht⟩, hfront, hy⟩⟩

/-- A call leaves the value as it is, if another one to `x` is to come and
those ahead of `x` leave it. -/
theorem Announces.tail {w : W} {v : N} {calls : List (W × N)}
    (h : T.Announces s all x o t ((w, v) :: calls))
    (hleaves : ∀ y, T.Ahead s all y x → T.Leaves behavior s all y) (hd : d <+: all)
    (ht : after system s (operations d) = t)
    (hrun : run system behavior fuel (behavior w v) (t, m) = some (t', m')) :
    T.Announces s all x o t' calls := by
  intro ho
  obtain ⟨u, ws, hcalls, hread, hahead⟩ := h ho
  cases ws with
  | nil => cases hcalls
  | cons w' ws =>
      obtain ⟨hcall, rfl⟩ := List.cons.inj hcalls
      cases hcall
      refine ⟨u, ws, rfl, fun hx => ?_, fun front back hfront y hy => ?_⟩
      · obtain ⟨front, back, rfl⟩ := List.append_of_mem hx
        exact hleaves w (hahead (w :: front) back rfl w List.mem_cons_self) t u ⟨d, hd, ht⟩
          (hread (List.mem_cons_of_mem w hx)) fuel m t' m' hrun
      · exact hahead (w :: front) back (by rw [hfront, List.cons_append]) y
          (List.mem_cons_of_mem w hy)

/-- The calls of an operation, one after the other. -/
theorem stretch_of_calls (hleaves : ∀ y, T.Ahead s all y x → T.Leaves behavior s all y)
    (hcall : ∀ {w v d t m d' t' m'}, record system behavior fuel (behavior w v) (d, t, m) =
      some (d', t', m') → T.Stretch s all x d t d' t')
    {cause : Nat} (calls : List (W × N))
    (hcalls : d' <+: all → after system s (operations d) = t →
      (operations all)[cause]? = some o ∧ T.Announces s all x o t calls)
    (h : makeCalls system behavior fuel cause calls (d, t, m) = some (d', t', m')) :
    T.Stretch s all x d t d' t' := by
  -- the invariant is that the calls to come announce what is read, until `x` had its turn
  induction calls generalizing d t m with
  | nil =>
      obtain ⟨rfl, rfl, -⟩ := makeCalls_nil_eq_some.1 h
      exact .refl
  | cons call calls ih =>
      obtain ⟨w, v⟩ := call
      obtain ⟨d₁, t₁, m₁, hcalled, hrest⟩ := makeCalls_cons_eq_some.1 h
      intro ht
      have hrun : run system behavior fuel (behavior w v) (t, m) = some (t₁, m₁) := by
        rw [← map_snd_record _ (d ++ [.called cause w v]), hcalled]
        rfl
      have hd' := prefix_of_calls hrest
      obtain ⟨e₁, rfl, ht₁, htold₁⟩ := hcall hcalled (by simpa using ht)
      have hd : d <+: d' := ((List.prefix_append d _).trans (List.prefix_append _ e₁)).trans hd'
      have hlater : T.Stretch s all x _ t₁ d' t' := ih (fun hall _ => by
        obtain ⟨hcause, hannounces⟩ := hcalls hall ht
        exact ⟨hcause, hannounces.tail hleaves (hd.trans hall) ht hrun⟩) hrest
      obtain ⟨e₂, rfl, ht₂, htold₂⟩ := hlater ht₁
      refine ⟨.called cause w v :: (e₁ ++ e₂), by simp, ht₂, fun hall => ⟨?_, ?_⟩⟩
      · rintro ⟨rfl, o', ho', hassigns⟩
        obtain ⟨hcause, hannounces⟩ := hcalls hall ht
        obtain rfl := Option.some.inj (ho'.symm.trans hcause)
        obtain ⟨u, ws, heq, hread, -⟩ := hannounces hassigns
        cases ws with
        | nil => cases heq
        | cons w' ws =>
            cases (List.cons.inj heq).1
            exact ⟨u, ht ▸ hread List.mem_cons_self, rfl⟩
      · exact toldCurrent_append.2 ⟨htold₁ (hd'.trans hall), htold₂ hall⟩

/-- An operation with its calls. -/
theorem stretch_of_operation (hs : T.inv s)
    (hleaves : ∀ y, T.Ahead s all y x → T.Leaves behavior s all y)
    (hcall : ∀ {w v d t m d' t' m'}, record system behavior fuel (behavior w v) (d, t, m) =
      some (d', t', m') → T.Stretch s all x d t d' t')
    (h : makeCalls system behavior fuel (operations d).length (system t o).calls
      (d ++ [.performed o], (system t o).state, m) = some (d', t', m')) :
    T.Stretch s all x d t d' t' := by
  intro ht
  have hd' := prefix_of_calls h
  have hcause : d' <+: all → (operations all)[(operations d).length]? = some o := fun hall => by
    obtain ⟨e, rfl⟩ := hd'.trans hall
    simp
  have hannounces : d' <+: all → T.Announces s all x o (system t o).state (system t o).calls :=
    fun hall => announces_system hs (((List.prefix_append d _).trans hd').trans hall) ht
  exact stretch_performed.trans
    (stretch_of_calls hleaves hcall _ (fun hall _ => ⟨hcause hall, hannounces hall⟩) h) ht

/-- **Observers are told what is read**, in their turn, if those ahead of them
leave the value as they find it. -/
theorem toldCurrent_of_record (hs : T.inv s) {script : Script O R M}
    (hleaves : ∀ y, T.Ahead s d y x → T.Leaves behavior s d y)
    (h : record system behavior fuel script ([], s, m) = some (d, s', m')) :
    T.ToldCurrent s (operations d) x [] d := by
  have hstretch : T.Stretch s d x [] s d s' :=
    record_induction (T.Stretch s d x) (fun _ _ => .refl) .trans
      (fun hcall _ _ _ _ _ _ _ _ hcalls => stretch_of_operation hs hleaves hcall hcalls)
      (fun w v => (behavior w v).only_true) script.only_true h
  obtain ⟨e, rfl, -, htold⟩ := hstretch rfl
  exact htold (List.prefix_refl _)

/-! ## the last announcement -/

/-- What a run says of an observer that was there all the time, if the value was
changed in it: it was told something last, and at the end the value is the one
of that moment, when those ahead of it had been told.  So it is the value that
the observer was told, if those ahead of it left the value as they found it. -/
theorem lastTold_of_record (hs : T.inv s) {script : Script O R M}
    (h : record system behavior fuel script ([], s, m) = some (d, s', m'))
    (hstays : ∀ t, Visited system s d t → x ∈ T.observers t)
    {before rest : Diary O W N} {o : O} (heq : d = before ++ .performed o :: rest)
    (hchange : T.read (after system s (operations before ++ [o])) ≠
      T.read (after system s (operations before))) :
    ∃ before u, T.LastTold s d x before u ∧
      T.read s' = T.read (after system s (operations before)) ∧
      ((∀ y, T.Ahead s d y x → T.Leaves behavior s d y) → T.read s' = some u) := by
  obtain ⟨_, rfl, hd, -⟩ := extends_of_record h
  have hx := hstays _ ⟨before, ⟨_, heq.symm⟩, rfl⟩
  obtain ⟨ho, v, hcalled⟩ := exists_called_of_change hs hd heq hx hchange
  have htells : T.Tells (operations d) x (.called (operations before).length x v) :=
    ⟨rfl, o, by simp [heq], ho⟩
  obtain ⟨before, u, hlast⟩ := exists_lastTold hs hd ⟨_, by simp [heq, hcalled], htells⟩
  refine ⟨before, u, hlast, ?_⟩
  obtain ⟨earlier, o, later, rest, hoperations, ho, -, heq, hrest⟩ := hlast
  have heq' : d = (before ++ [.called earlier.length x (T.tell u)]) ++ rest := by simp [heq]
  have hread : T.read s' = T.read (after system s (operations before)) := by
    rw [read_eq_of_not_told hs hd hstays heq' hrest]
    simp
  refine ⟨hread, fun hleaves => ?_⟩
  have htold := toldCurrent_of_record hs hleaves h
  rw [heq, toldCurrent_append] at htold
  obtain ⟨u', hu', htell⟩ := htold.2.1 ⟨rfl, o, by rw [← heq, hoperations]; simp, ho⟩
  rw [hread, T.tell_inj u u' htell]
  exact hu'

end Topic

end UiMarkup.Observer
