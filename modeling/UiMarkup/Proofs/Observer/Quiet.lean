import UiMarkup.Proofs.Observer.Chronicle

/-!
# UiMarkup.Proofs.Observer.Quiet

Observers that perform no operation.  They may still remember things, but
whoever calls them finds the state as it was, and every run of theirs ends: so
an operation with its calls does what it does on its own.

* `Quiet`: no observer performs an operation;
* `Quiet.exists_run`: every run ends;
* `Quiet.exists_record_perform`: an operation with its calls.
-/

namespace UiMarkup.Observer

open Diary

variable {S O W N R M : Type}

/-- No observer performs an operation, whatever it is called with. -/
def Quiet (behavior : W → N → Script O R M) : Prop :=
  ∀ w v, (behavior w v).Only fun _ => False

/-- The calls as the diary has them. -/
def callsMade (cause : Nat) (calls : List (W × N)) : Diary O W N :=
  calls.map fun call => .called cause call.1 call.2

variable (system : System S O W N R) {behavior : W → N → Script O R M}

theorem record_done (behavior : W → N → Script O R M) {fuel : Nat} (hfuel : 1 ≤ fuel)
    (d : Diary O W N) (s : S) (m : M) :
    record system behavior fuel .done (d, s, m) = some (d, s, m) := by
  cases fuel with
  | zero => cases hfuel
  | succ fuel => rfl

/-- To remember something takes one unit of fuel. -/
theorem record_remember {change : M → M} {next : M → Script O R M} {d : Diary O W N} {s : S}
    {m : M} {result : Diary O W N × S × M} {enough fuel : Nat}
    (hend : ∀ fuel ≥ enough,
      record system behavior fuel (next m) (d, s, change m) = some result)
    (hfuel : enough + 1 ≤ fuel) :
    record system behavior fuel (.remember change next) (d, s, m) = some result := by
  cases fuel with
  | zero => cases hfuel
  | succ fuel => exact hend fuel (Nat.le_of_succ_le_succ hfuel)

/-- A script without operations ends, if it is given enough fuel, and leaves the
state and the diary as they were. -/
theorem exists_record_of_only_false (behavior : W → N → Script O R M) {script : Script O R M}
    (hscript : script.Only fun _ => False) (d : Diary O W N) (s : S) (m : M) :
    ∃ m' enough, ∀ fuel ≥ enough,
      record system behavior fuel script (d, s, m) = some (d, s, m') := by
  induction script generalizing m with
  | done => exact ⟨m, 1, fun fuel hfuel => record_done system behavior hfuel d s m⟩
  | perform o next => exact hscript.1.elim
  | remember change next ih =>
      obtain ⟨m', enough, hend⟩ := ih m (hscript m) (change m)
      exact ⟨m', enough + 1, fun fuel hfuel => record_remember system hend hfuel⟩

/-- Quiet observers are called one after the other, and leave the state. -/
theorem Quiet.exists_makeCalls (hquiet : Quiet behavior) (cause : Nat) (calls : List (W × N))
    (d : Diary O W N) (s : S) (m : M) :
    ∃ m' enough, ∀ fuel ≥ enough, makeCalls system behavior fuel cause calls (d, s, m) =
      some (d ++ callsMade cause calls, s, m') := by
  induction calls generalizing d m with
  | nil => exact ⟨m, 0, fun _ _ => makeCalls_nil_eq_some.2 ⟨(List.append_nil d).symm, rfl, rfl⟩⟩
  | cons call calls ih =>
      obtain ⟨m₁, enough, hcalled⟩ := exists_record_of_only_false system behavior
        (hquiet call.1 call.2) (d ++ [.called cause call.1 call.2]) s m
      obtain ⟨m', enough', hrest⟩ := ih (d ++ [.called cause call.1 call.2]) m₁
      refine ⟨m', max enough enough', fun fuel hfuel => ?_⟩
      have hfirst := hcalled fuel (Nat.le_trans (Nat.le_max_left ..) hfuel)
      have hothers := hrest fuel (Nat.le_trans (Nat.le_max_right ..) hfuel)
      rw [List.append_assoc] at hothers
      exact makeCalls_cons_eq_some.2 ⟨_, _, _, hfirst, hothers⟩

/-- Every script ends if it is given enough fuel, when all observers are
quiet. -/
theorem Quiet.exists_record (hquiet : Quiet behavior) (script : Script O R M) (d : Diary O W N)
    (s : S) (m : M) :
    ∃ result enough, ∀ fuel ≥ enough,
      record system behavior fuel script (d, s, m) = some result := by
  induction script generalizing d s m with
  | done => exact ⟨(d, s, m), 1, fun fuel hfuel => record_done system behavior hfuel d s m⟩
  | remember change next ih =>
      obtain ⟨result, enough, hend⟩ := ih m d s (change m)
      exact ⟨result, enough + 1, fun fuel hfuel => record_remember system hend hfuel⟩
  | perform o next ih =>
      obtain ⟨m₁, enough, hcalls⟩ := hquiet.exists_makeCalls system (operations d).length
        (system s o).calls (d ++ [.performed o]) (system s o).state m
      obtain ⟨⟨d', s', m'⟩, enough', hrest⟩ := ih ((system s o).reply (system s o).state)
        (d ++ [.performed o] ++ callsMade (operations d).length (system s o).calls)
        (system s o).state m₁
      refine ⟨(d', s', m'), max enough enough' + 1, fun fuel hfuel => ?_⟩
      obtain ⟨fuel, rfl⟩ := Nat.exists_eq_succ_of_ne_zero (Nat.ne_zero_of_lt hfuel)
      have hcalled := hcalls fuel (by omega)
      exact record_perform_eq_some.2 ⟨_, _, _, hcalled, hrest fuel (by omega)⟩

theorem Quiet.exists_run (hquiet : Quiet behavior) (script : Script O R M) (s : S) (m : M) :
    ∃ result enough, ∀ fuel ≥ enough, run system behavior fuel script (s, m) = some result := by
  obtain ⟨result, enough, hrecord⟩ := hquiet.exists_record system script [] s m
  refine ⟨result.2, enough, fun fuel hfuel => ?_⟩
  rw [← map_snd_record, hrecord fuel hfuel, Option.map_some]

/-- An operation that calls quiet observers ends with the state that it leaves
itself, and nothing is done but its calls. -/
theorem Quiet.exists_record_perform (hquiet : Quiet behavior) (o : O) (s : S) (m : M) :
    ∃ m' enough, ∀ fuel ≥ enough,
      record system behavior fuel (.perform o fun _ => .done) ([], s, m) =
        some (.performed o :: callsMade 0 (system s o).calls, (system s o).state, m') := by
  obtain ⟨m', enough, hcalls⟩ := hquiet.exists_makeCalls system 0 (system s o).calls
    [.performed o] (system s o).state m
  refine ⟨m', enough + 2, fun fuel hfuel => ?_⟩
  obtain ⟨fuel, rfl⟩ : ∃ less, fuel = less + 2 := ⟨fuel - 2, by omega⟩
  exact record_perform_eq_some.2 ⟨_, _, _, hcalls (fuel + 1) (by omega), rfl⟩

end UiMarkup.Observer
