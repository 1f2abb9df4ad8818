import UiMarkup.Proofs.Observer.Roster

/-!
# UiMarkup.Proofs.Observer.Snapshot

Emissions work on snapshots.  Observers may do anything to the signal while
they are called, at any depth: an emission still calls the observers that were
connected when it started, and what they do is in effect from then on.

* `OnSnapshots`: what the diary of a run says of its emissions;
* `onSnapshots_of_run`: it says so for every run that ends.
-/

namespace UiMarkup.Observer.Signal

open Roster Diary

variable {S ω ν M : Type} [Storage S ω]

/-- The diary `d` of what was done from the signal `s`, which stands for the
list `r`, to the signal `s'`. -/
structure OnSnapshots (r : Roster ω) (s : Signal S) (d : Diary (Operation ω ν) ω ν)
    (s' : Signal S) : Prop where
  /-- Nothing that was done is lost: what is left is the list after all
  operations, those of the observers among them, in the order of time. -/
  inEffect : ∃ r', Runs r (answers system s (operations d)) r' ∧ s'.Represents r'
  /-- Calls are made after the operation that makes them has started. -/
  caused : Caused 0 d
  /-- Calls are made by emissions, with the value of the emission. -/
  emitted : ∀ k observer v, .called k observer v ∈ d →
    ∃ before rest, operations d = before ++ .emit v :: rest ∧ before.length = k
  /-- An emission, at whatever depth, calls the observers of the list after the
  operations that started before it, each once, in list order. -/
  snapshot : ∀ before v rest, operations d = before ++ .emit v :: rest →
    ∃ now, Runs r (answers system s before) now ∧ now.handles.Nodup ∧
      callsOf before.length d = now.entries.map fun entry => (entry.2, v)

theorem exists_of_mem_calls {s : Signal S} {op : Operation ω ν} {observer : ω} {v : ν}
    (h : (observer, v) ∈ (system s op).calls) : op = .emit v := by
  cases op with
  | emit value =>
      obtain ⟨_, _, heq⟩ := List.mem_map.1 h
      rw [(Prod.mk.inj heq).2]
  | _ => exact absurd h List.not_mem_nil

variable [LawfulStorage S]

/-- Whatever the observers do, and from whatever signal the run starts: if it
ends, its emissions worked on snapshots. -/
theorem onSnapshots_of_run {behavior : ω → ν → Script (Operation ω ν) Reply M} {fuel : Nat}
    {script : Script (Operation ω ν) Reply M} (earlier : List (Operation ω ν)) {m : M}
    {result : Signal S × M}
    (hrun : run system behavior fuel script (after system empty earlier, m) = some result) :
    ∃ r d, (after system (empty : Signal S) earlier).Represents r ∧
      record system behavior fuel script ([], after system empty earlier, m) = some (d, result) ∧
      OnSnapshots r (after system empty earlier) d result.1 := by
  obtain ⟨r, -, hs⟩ := (represents_empty (S := S)).runs earlier
  obtain ⟨d, hrecord, hd⟩ := faithful_of_run hrun
  refine ⟨r, d, hs, hrecord, ?_, hd.caused, fun k observer v hcalled => ?_,
    fun before v rest hop => ?_⟩
  · obtain ⟨r', hruns, hs'⟩ := hs.runs (operations d)
    exact ⟨r', hruns, hd.state ▸ hs'⟩
  · rw [← Nat.zero_add k] at hcalled
    obtain ⟨before, op, rest, hsplit, hlength, hmem⟩ := hd.exists_of_called hcalled
    rw [exists_of_mem_calls hmem] at hsplit
    exact ⟨before, rest, hsplit, hlength⟩
  · obtain ⟨now, hruns, hnow⟩ := hs.runs before
    have hcalls := hd.callsOf_eq hop
    rw [Nat.zero_add] at hcalls
    refine ⟨now, hruns, hnow.sound.nodup_handles, ?_⟩
    simp [hcalls, system, hnow.observers_eq]

/-- Observers that meddle with the emission that calls them: the first removes
the third and emits again, the second removes itself and connects a fourth. -/
def meddling : String → Nat → Script (Operation String Nat) Reply Unit
  | "a", 1 => .perform (.disconnect ⟨2, 1⟩) fun _ => .perform (.emit 2) fun _ => .done
  | "b", _ => .perform (.disconnect ⟨1, 1⟩) fun _ => .perform (.connect "d") fun _ => .done
  | _, _ => .done

/-- The signal with three of them. -/
def meddlers : Signal (Arena String) :=
  after (system (ν := Nat)) empty [.connect "a", .connect "b", .connect "c"]

/-- What is done when `1` is emitted to them: the second and the third are still
called with it, and not the third with the `2` that is emitted meanwhile. -/
def meddled : Diary (Operation String Nat) String Nat :=
  [.performed (.emit 1),
    .called 0 "a" 1, .performed (.disconnect ⟨2, 1⟩), .performed (.emit 2),
      .called 2 "a" 2,
      .called 2 "b" 2, .performed (.disconnect ⟨1, 1⟩), .performed (.connect "d"),
    .called 0 "b" 1, .performed (.disconnect ⟨1, 1⟩), .performed (.connect "d"),
    .called 0 "c" 1]

/-- The emission to them is on snapshots, and what they did is in effect: the
first is left, with the two that were connected. -/
theorem onSnapshots_of_run_meddling :
    ∃ s, run system meddling 9 (.perform (.emit 1) fun _ => .done) (meddlers, ()) = some (s, ()) ∧
      s.order = [⟨0, 1⟩, ⟨1, 2⟩, ⟨2, 2⟩] ∧
      ∃ r, meddlers.Represents r ∧ OnSnapshots r meddlers meddled s := by
  obtain ⟨s, hrun, horder⟩ :
      ∃ s, run system meddling 9 (.perform (.emit 1) fun _ => .done) (meddlers, ()) = some (s, ()) ∧
        s.order = [⟨0, 1⟩, ⟨1, 2⟩, ⟨2, 2⟩] := ⟨_, rfl, rfl⟩
  obtain ⟨r, d, hr, hrecord, hd⟩ :=
    onSnapshots_of_run [.connect "a", .connect "b", .connect "c"] hrun
  have hdiary : (record system meddling 9 (.perform (.emit 1) fun _ => .done)
      ([], meddlers, ())).map Prod.fst = some meddled := rfl
  obtain rfl : d = meddled := by
    rw [meddlers, hrecord] at hdiary
    exact Option.some.inj hdiary
  exact ⟨s, hrun, horder, r, hr, hd⟩

end UiMarkup.Observer.Signal
