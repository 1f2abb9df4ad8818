import UiMarkup.Control.Lifecycle
import UiMarkup.Proofs.Control.Recording
import UiMarkup.Proofs.Control.Slots

/-!
# UiMarkup.Proofs.Control.Lifecycle

The life of one instance with one renderer that works for it alone and may fail
whenever it likes.  What is live is the node of the instance, created for the
control as it is, until a control is asked for that is still shown: then the
instance is used up, and its node stays live for good.

* `Lifecycle.steps`: the operations of a run, one after the other;
* `Tended`: the instance and its record between two operations, and
  `Tended.step`, that every operation but the last keeps it so;
* `regular_of_steps`: what holds while the instance is not asked for its
  control;
* `accounted_of_steps`: which nodes are live, whatever is done.
-/

namespace UiMarkup

open Control

variable {σ ν : Type}

namespace Instance

/-! ## recording changes nothing -/

theorem append_forget (i : Instance (Recorded ν)) (s : Slot) :
    i.forget.append s = ((i.append s).1, (i.append s).2.forget) := by
  rw [append, append, isAttached_forget]
  split
  · rfl
  · simp only [forget]
    cases i.control.append? s <;> rfl

theorem release_forget (i : Instance (Recorded ν)) : i.forget.release = i.release := by
  rw [release, release, isAttached_forget]
  rfl

/-! ## refusals -/

/-- What is appended is accepted while the control is not shown, if it is made
to hold it. -/
theorem append_eq_ok_iff (i : Instance ν) (s : Slot) :
    (i.append s).1 = .ok () ↔ i.isAttached = false ∧ i.control.Holds s := by
  rw [append, ← isSome_append?]
  cases i.isAttached with
  | true => simp
  | false => cases i.control.append? s <;> simp

/-- A refusal to append is a refused change, and nothing changes. -/
theorem eq_of_append_error {i i' : Instance ν} {s : Slot} {e : Control.Error}
    (h : i.append s = (.error e, i')) :
    (∃ refusal, e = .unsupportedMutation i.control.kind refusal) ∧ i' = i := by
  rw [append] at h
  split at h
  · cases h
    exact ⟨⟨_, rfl⟩, rfl⟩
  · split at h
    · cases h
    · cases h
      exact ⟨⟨_, rfl⟩, rfl⟩

/-- A failure to show the control changes nothing. -/
theorem eq_of_attach_error {r : Renderer σ ν} {i i' : Instance ν} {s t : σ} {e : Control.Error}
    (h : i.attach r s = (.error e, i', t)) : i' = i := by
  obtain ⟨-, -, hi, -⟩ | ⟨_, -, -, -, hi⟩ | ⟨_, -, -, hreply, -⟩ := attach_cases h
  · exact hi
  · exact hi
  · cases hreply

end Instance

namespace Control

/-! ## runs -/

/-- Carries out operations one after the other; the replies, and what is left. -/
def Lifecycle.steps (renderer : Renderer σ ν) (l : Lifecycle σ ν) :
    List Operation → List (Option Reply) × Lifecycle σ ν
  | [] => ([], l)
  | operation :: more =>
    let (reply, next) := l.step renderer operation
    let (replies, last) := steps renderer next more
    (reply :: replies, last)

/-- The life of a control before it is shown. -/
def Lifecycle.ofControl (c : Control) (s : σ) : Lifecycle σ ν :=
  ⟨some (.ofControl c), s⟩

/-- The life of an instance without what the record says of its nodes. -/
def Lifecycle.forget (l : Lifecycle (Recording σ ν) (Recorded ν)) : Lifecycle σ ν :=
  ⟨l.current.map Instance.forget, l.platform.platform⟩

namespace Lifecycle

variable {r : Renderer σ ν}

theorem steps_cons (l : Lifecycle σ ν) (o : Operation) (more : List Operation) :
    l.steps r (o :: more) =
      ((l.step r o).1 :: ((l.step r o).2.steps r more).1, ((l.step r o).2.steps r more).2) := rfl

/-- Nothing happens once the instance is used up. -/
theorem steps_of_gone (s : σ) (operations : List Operation) :
    (⟨none, s⟩ : Lifecycle σ ν).steps r operations =
      (operations.map fun _ => none, ⟨none, s⟩) := by
  induction operations with
  | nil => rfl
  | cons o more ih => rw [steps_cons, step, ih, List.map_cons]

/-- An operation on record is the operation. -/
theorem step_forget (l : Lifecycle (Recording σ ν) (Recorded ν)) (o : Operation) :
    l.forget.step r o = ((l.step r.recording o).1, (l.step r.recording o).2.forget) := by
  obtain ⟨_ | i, s⟩ := l
  · rfl
  · simp only [forget, step, Option.map_some]
    cases o with
    | attach => simp only [Instance.attach_forget, Option.map_some]
    | detach => simp only [Instance.detach_forget, Option.map_some]
    | append slot => simp only [Instance.append_forget, Option.map_some]
    | release =>
        simp only [Instance.release_forget]
        cases i.release <;> rfl

/-- A run on record is the run. -/
theorem steps_forget (l : Lifecycle (Recording σ ν) (Recorded ν)) (operations : List Operation) :
    l.forget.steps r operations =
      ((l.steps r.recording operations).1, (l.steps r.recording operations).2.forget) := by
  induction operations generalizing l with
  | nil => rfl
  | cons o more ih => rw [steps_cons, steps_cons, step_forget, ih]

theorem steps_ofControl {c : Control} {s : σ} {operations : List Operation}
    {replies : List (Option Reply)} {l : Lifecycle (Recording σ ν) (Recorded ν)}
    (h : (ofControl c ⟨s, []⟩).steps r.recording operations = (replies, l)) :
    (ofControl c s).steps r operations = (replies, l.forget) := by
  rw [← show (ofControl c ⟨s, []⟩).forget = ofControl c s from rfl, steps_forget, h]

end Lifecycle

/-! ## between two operations -/

/-- The nodes that were created, in order, each with the control that it was
created for. -/
def creations (deeds : List (Deed ν)) : List (Control × Recorded ν) :=
  deeds.filterMap fun
    | .created control n => some (control, n)
    | _ => none

theorem mem_of_getLast?_creations {deeds : List (Deed ν)} {c : Control} {n : Recorded ν}
    (h : (creations deeds).getLast? = some (c, n)) : .created c n ∈ deeds := by
  obtain ⟨deed, hdeed, hcreated⟩ := List.mem_filterMap.1 (List.mem_of_getLast? h)
  cases deed with
  | created control m =>
      cases hcreated
      exact hdeed
  | _ => cases hcreated

/-- An instance whose renderer did one thing at a time for it: the node that it
has is the one created last, for its control as it is. -/
structure Tended (i : Instance (Recorded ν)) (deeds : List (Deed ν)) : Prop where
  keeps : Keeps deeds i.node
  last : ∀ n, i.node = some n → (creations deeds).getLast? = some (i.control, n)

variable {r : Renderer σ ν} {i i' : Instance (Recorded ν)} {s t : Recording σ ν}

theorem tended_ofControl (c : Control) : Tended (.ofControl c : Instance (Recorded ν)) [] where
  keeps := keeps_nil
  last _ h := nomatch h

theorem tended_of_node_eq_none {deeds : List (Deed ν)} (h : Keeps deeds none)
    (hnode : i.node = none) : Tended i deeds where
  keeps := hnode ▸ h
  last _ hn := nomatch hnode.symm.trans hn

theorem Tended.attach {reply : Except Error Unit} (h : Tended i s.deeds)
    (hattach : i.attach r.recording s = (reply, i', t)) : Tended i' t.deeds := by
  obtain ⟨-, -, rfl, rfl⟩ | ⟨e, hnode, hcreate, -, rfl⟩ | ⟨n, hnode, hcreate, -, rfl⟩ :=
    Instance.attach_cases hattach
  · exact h
  · have hkeeps := h.keeps
    rw [hnode] at hkeeps
    exact tended_of_node_eq_none (hkeeps.create hcreate) hnode
  · have hkeeps := h.keeps
    rw [hnode] at hkeeps
    refine ⟨hkeeps.create hcreate, fun m hm => ?_⟩
    cases hm
    obtain ⟨_, hreply, -⟩ | ⟨made, hreply, hdeeds⟩ := create_cases hcreate
    · cases hreply
    · cases hreply
      rw [hdeeds, creations, List.filterMap_append]
      exact List.getLast?_concat

theorem Tended.detach (h : Tended i s.deeds) :
    Tended (i.detach r.recording s).2.1 (i.detach r.recording s).2.2.deeds := by
  have hkeeps := h.keeps.detach (r := r)
  rw [Instance.node_detach] at hkeeps
  exact tended_of_node_eq_none hkeeps (Instance.node_detach ..)

/-- A control changes only while it has no node. -/
theorem Tended.append (h : Tended i s.deeds) (slot : Slot) :
    Tended (i.append slot).2 s.deeds := by
  rw [Instance.append]
  split
  · exact h
  · next hattached =>
    rw [Instance.isAttached, Option.not_isSome_iff_eq_none] at hattached
    split
    · exact tended_of_node_eq_none (hattached ▸ h.keeps) hattached
    · exact h

/-- Every operation leaves the instance tended, unless its control is asked
for. -/
theorem Tended.step (h : Tended i s.deeds) {o : Operation} (ho : o ≠ .release) :
    ∃ reply i' t, (⟨some i, s⟩ : Lifecycle _ _).step r.recording o = (some reply, ⟨some i', t⟩) ∧
      Tended i' t.deeds := by
  cases o with
  | attach => exact ⟨_, _, _, rfl, h.attach rfl⟩
  | detach => exact ⟨_, _, _, rfl, h.detach⟩
  | append slot => exact ⟨_, _, _, rfl, h.append slot⟩
  | release => exact absurd rfl ho

/-- So does every run of such operations. -/
theorem Tended.steps (h : Tended i s.deeds) {operations : List Operation}
    (hkept : .release ∉ operations) :
    ∃ replies i' t,
      (⟨some i, s⟩ : Lifecycle _ _).steps r.recording operations = (replies, ⟨some i', t⟩) ∧
        Tended i' t.deeds := by
  induction operations generalizing i s with
  | nil => exact ⟨[], i, s, rfl, h⟩
  | cons o more ih =>
      obtain ⟨ho, hmore⟩ := List.ne_and_not_mem_of_not_mem_cons hkept
      obtain ⟨reply, i₁, s₁, hstep, h₁⟩ := h.step (r := r) (Ne.symm ho)
      obtain ⟨replies, i₂, s₂, hsteps, h₂⟩ := ih h₁ hmore
      exact ⟨_, i₂, s₂, by rw [Lifecycle.steps_cons, hstep, hsteps], h₂⟩

/-! ## while the instance is there -/

/-- While a control is shown, only detaching changes anything. -/
theorem step_of_attached (hi : i.isAttached = true) {o : Operation} (hdetach : o ≠ .detach)
    (hrelease : o ≠ .release) :
    ∃ reply, (⟨some i, s⟩ : Lifecycle _ _).step r.recording o = (reply, ⟨some i, s⟩) := by
  cases o with
  | attach =>
      refine ⟨some (.failed (.unsupportedMutation i.control.kind .alreadyAttached)), ?_⟩
      simp only [Lifecycle.step, Instance.attach, if_pos hi, Reply.ofExcept]
  | detach => exact absurd rfl hdetach
  | append slot =>
      refine ⟨some (.failed (.unsupportedMutation i.control.kind
        (.appendWhileAttached slot.kind))), ?_⟩
      simp only [Lifecycle.step, Instance.append, if_pos hi, Reply.ofExcept]
  | release => exact absurd rfl hrelease

theorem steps_of_attached (hi : i.isAttached = true) {operations : List Operation}
    (hdetach : .detach ∉ operations) (hrelease : .release ∉ operations) :
    ∃ replies,
      (⟨some i, s⟩ : Lifecycle _ _).steps r.recording operations = (replies, ⟨some i, s⟩) := by
  induction operations with
  | nil => exact ⟨[], rfl⟩
  | cons o more ih =>
      obtain ⟨hdetach₁, hdetach₂⟩ := List.ne_and_not_mem_of_not_mem_cons hdetach
      obtain ⟨hrelease₁, hrelease₂⟩ := List.ne_and_not_mem_of_not_mem_cons hrelease
      obtain ⟨reply, hstep⟩ :=
        step_of_attached (r := r) (s := s) hi (Ne.symm hdetach₁) (Ne.symm hrelease₁)
      obtain ⟨replies, hsteps⟩ := ih hdetach₂ hrelease₂
      exact ⟨reply :: replies, by rw [Lifecycle.steps_cons, hstep, hsteps]⟩

/-- What is on the record of an instance after some operations, and what can be
done next. -/
structure Regular (r : Renderer σ ν) (i : Instance (Recorded ν)) (s : Recording σ ν) : Prop where
  /-- The control is shown exactly when the node created last has not been
  destroyed. -/
  attached_iff : i.isAttached = true ↔
    ∃ c n, (creations s.deeds).getLast? = some (c, n) ∧ .destroyed n ∉ s.deeds
  /-- The node of the instance is the live one, and was created for the control
  as it is. -/
  live : ∀ n, Live s.deeds n ↔ i.node = some n
  shown : ∀ n, i.node = some n → .created i.control n ∈ s.deeds
  /-- Every node was destroyed at most once, when it was live. -/
  destroyed : ∀ before n rest, s.deeds = before ++ .destroyed n :: rest →
    Live before n ∧ .destroyed n ∉ rest
  /-- A control that is shown is not shown again, and the renderer is not
  asked. -/
  attach_again : i.isAttached = true → i.attach r.recording s =
    (.error (.unsupportedMutation i.control.kind .alreadyAttached), i, s)
  /-- A failure to show it leaves the control and the node as they were. -/
  attach_failed : ∀ e i' t, i.attach r.recording s = (.error e, i', t) → i' = i
  /-- A slot is accepted exactly while the control is not shown, if it is made
  to hold it. -/
  append_succeeded : ∀ slot, (i.append slot).1 = .ok () ↔
    i.isAttached = false ∧ i.control.Holds slot
  /-- Otherwise the change is refused, and leaves all as it was. -/
  append_failed : ∀ slot e i', i.append slot = (.error e, i') →
    (∃ refusal, e = .unsupportedMutation i.control.kind refusal) ∧ i' = i
  /-- From when it is shown until it is detached, the control stays the same,
  and so does its node. -/
  steady : ∀ more, .detach ∉ more → .release ∉ more → i.isAttached = true →
    ∃ replies, (⟨some i, s⟩ : Lifecycle _ _).steps r.recording more = (replies, ⟨some i, s⟩)

theorem OneAtATime.live_and_not_mem {deeds : List (Deed ν)} (h : OneAtATime deeds)
    {before rest : List (Deed ν)} {n : Recorded ν} (heq : deeds = before ++ .destroyed n :: rest) :
    Live before n ∧ .destroyed n ∉ rest := by
  refine ⟨h.live before n ⟨rest, by simp [heq]⟩, fun hmem => ?_⟩
  obtain ⟨more, last, rfl⟩ := List.append_of_mem hmem
  have hlive := h.live (before ++ .destroyed n :: more) n ⟨last, by simp [heq]⟩
  exact hlive.2 (by simp)

theorem Tended.attached_iff {deeds : List (Deed ν)} (h : Tended i deeds) : i.isAttached = true ↔
    ∃ c n, (creations deeds).getLast? = some (c, n) ∧ .destroyed n ∉ deeds := by
  constructor
  · intro hi
    obtain ⟨n, hn⟩ := Option.isSome_iff_exists.1 hi
    exact ⟨i.control, n, h.last n hn, ((h.keeps.live n).2 hn).2⟩
  · rintro ⟨c, n, hlast, hn⟩
    have hnode := (h.keeps.live n).1 ⟨⟨c, mem_of_getLast?_creations hlast⟩, hn⟩
    exact Option.isSome_iff_exists.2 ⟨n, hnode⟩

theorem Tended.regular (h : Tended i s.deeds) : Regular r i s where
  attached_iff := h.attached_iff
  live := h.keeps.live
  shown n hn := mem_of_getLast?_creations (h.last n hn)
  destroyed _ _ _ heq := h.keeps.oneAtATime.live_and_not_mem heq
  attach_again hi := by rw [Instance.attach, if_pos hi]
  attach_failed _ _ _ hattach := Instance.eq_of_attach_error hattach
  append_succeeded := i.append_eq_ok_iff
  append_failed _ _ _ happend := Instance.eq_of_append_error happend
  steady _ hdetach hrelease hi := steps_of_attached hi hdetach hrelease

/-- **What is live is what the instance shows**: in every run of an instance
with any renderer, which may fail whenever it is asked, the live node is the one
that the instance has, created for its control as it is; what is refused changes
nothing.  The replies and the instance are those without the record. -/
theorem regular_of_steps (r : Renderer σ ν) (s : σ) (c : Control) (operations : List Operation)
    (hkept : .release ∉ operations) :
    ∃ replies i t,
      (Lifecycle.ofControl c ⟨s, []⟩).steps r.recording operations = (replies, ⟨some i, t⟩) ∧
        (Lifecycle.ofControl c s).steps r operations = (replies, ⟨some i.forget, t.platform⟩) ∧
        Regular r i t := by
  obtain ⟨replies, i, t, hsteps, h⟩ := (tended_ofControl c).steps (r := r) (s := ⟨s, []⟩) hkept
  exact ⟨replies, i, t, hsteps, Lifecycle.steps_ofControl hsteps, h.regular⟩

/-- A renderer that fails whenever it is asked for the first time and then for
every other time. -/
def failingByTurns : Renderer Bool Unit where
  create _ ready := if ready then (.ok (), false) else (.error (.rendering "not now"), true)
  destroy _ ready := ready

/-- A layout that is shown at the second attempt, and asked to grow before and
afterwards. -/
def attempts : List Operation :=
  [.attach, .append (.linearChild ⟨.nothing, none⟩), .attach, .attach,
    .append (.linearChild ⟨.nothing, none⟩), .append (.tab ⟨none, none⟩), .detach, .detach]

/-- It takes the child before it is shown and refuses everything while it is;
its node is created and destroyed once. -/
theorem regular_of_steps_failing :
    .release ∉ attempts ∧ ∃ replies i t,
      (Lifecycle.ofControl (.linearLayout .vertical [] none) ⟨false, []⟩).steps
        failingByTurns.recording attempts = (replies, ⟨some i, t⟩) ∧
      Regular failingByTurns i t ∧
      replies = [some (.failed (.rendering "not now")), some .done, some .done,
        some (.failed (.unsupportedMutation .linearLayout .alreadyAttached)),
        some (.failed (.unsupportedMutation .linearLayout (.appendWhileAttached .linearChild))),
        some (.failed (.unsupportedMutation .linearLayout (.appendWhileAttached .tab))),
        some (.detached true), some (.detached false)] ∧
      t.deeds = [.refused (.linearLayout .vertical [] none) (.rendering "not now"),
        .created (.linearLayout .vertical [⟨.nothing, none⟩] none) ⟨1, ()⟩,
        .destroyed ⟨1, ()⟩] := by
  have hkept : .release ∉ attempts := by simp [attempts]
  obtain ⟨replies, i, t, hsteps, -, h⟩ :=
    regular_of_steps failingByTurns false (.linearLayout .vertical [] none) attempts hkept
  refine ⟨hkept, replies, i, t, hsteps, h, ?_, ?_⟩
  · exact (congrArg Prod.fst hsteps).symm
  · exact (congrArg (·.2.platform.deeds) hsteps).symm

/-! ## whatever is done -/

/-- Among operations with their replies, one that asked for the control and was
refused. -/
def Refused (done : List (Operation × Option Reply)) : Prop :=
  ∃ e, (.release, some (.failed e)) ∈ done

theorem not_refused_nil : ¬ Refused [] := by
  rintro ⟨e, hmem⟩
  exact absurd hmem List.not_mem_nil

theorem refused_cons {o : Operation} {reply : Option Reply}
    {done : List (Operation × Option Reply)} (ho : o ≠ .release) :
    Refused ((o, reply) :: done) ↔ Refused done := by
  simp [Refused, Ne.symm ho]

/-- Nothing is refused when there is nothing left to answer. -/
theorem not_refused_zip_none (operations : List Operation) :
    ¬ Refused (operations.zip (operations.map fun _ => none)) := by
  induction operations with
  | nil => exact not_refused_nil
  | cons o more ih =>
      rintro ⟨e, hmem⟩
      obtain heq | hmem := List.mem_cons.1 hmem
      · cases heq
      · exact ih ⟨e, hmem⟩

/-- A control that is asked for while it is shown is refused, and there is no
instance any more. -/
theorem step_release_of_attached (hi : i.isAttached = true) :
    (⟨some i, s⟩ : Lifecycle _ _).step r.recording .release =
      (some (.failed (.unsupportedMutation i.control.kind .stillAttached)), ⟨none, s⟩) := by
  simp only [Lifecycle.step, Instance.release, if_pos hi]

theorem step_release_of_not_attached (hi : i.isAttached = false) :
    (⟨some i, s⟩ : Lifecycle _ _).step r.recording .release =
      (some (.control i.control), ⟨none, s⟩) := by
  simp only [Lifecycle.step, Instance.release, hi, Bool.false_eq_true, if_false]

/-- Any other failure leaves the instance as it was. -/
theorem Lifecycle.current_of_step_failed {r : Renderer σ ν} {l l' : Lifecycle σ ν} {o : Operation}
    {e : Error} (h : l.step r o = (some (.failed e), l')) (ho : o ≠ .release) :
    l'.current = l.current := by
  obtain ⟨_ | i, s⟩ := l
  · cases h
  · cases o with
    | attach =>
        rcases hattach : i.attach r s with ⟨_ | e', i', t⟩
        · simp only [Lifecycle.step, hattach, Prod.mk.injEq] at h
          rw [← h.2, Instance.eq_of_attach_error hattach]
        · simp [Lifecycle.step, hattach, Reply.ofExcept] at h
    | detach => simp [Lifecycle.step] at h
    | append slot =>
        rcases happend : i.append slot with ⟨_ | e', i'⟩
        · simp only [Lifecycle.step, happend, Prod.mk.injEq] at h
          rw [← h.2, (Instance.eq_of_append_error happend).2]
        · simp [Lifecycle.step, happend, Reply.ofExcept] at h
    | release => exact absurd rfl ho

/-- Where a run leads to: the instance is still there and has kept the renderer
in order, or its control was handed out, or its control was asked for while it
was shown, and its node is left. -/
inductive Outcome (done : List (Operation × Option Reply)) :
    Lifecycle (Recording σ ν) (Recorded ν) → Prop
  | there {i : Instance (Recorded ν)} {s : Recording σ ν} (tended : Tended i s.deeds)
      (accepted : ¬ Refused done) : Outcome done ⟨some i, s⟩
  | handedOut {s : Recording σ ν} (keeps : Keeps s.deeds none) (accepted : ¬ Refused done) :
      Outcome done ⟨none, s⟩
  | lost {s : Recording σ ν} (n : Recorded ν) (keeps : Keeps s.deeds (some n))
      (refused : Refused done) : Outcome done ⟨none, s⟩

theorem Outcome.cons {o : Operation} {reply : Option Reply}
    {done : List (Operation × Option Reply)} {l : Lifecycle (Recording σ ν) (Recorded ν)}
    (h : Outcome done l) (ho : o ≠ .release) : Outcome ((o, reply) :: done) l := by
  cases h with
  | there tended accepted => exact .there tended (mt (refused_cons ho).1 accepted)
  | handedOut keeps accepted => exact .handedOut keeps (mt (refused_cons ho).1 accepted)
  | lost n keeps refused => exact .lost n keeps ((refused_cons ho).2 refused)

/-- Asking for the control ends the run, whatever follows. -/
theorem Tended.outcome_of_release (h : Tended i s.deeds) (more : List Operation) :
    ∃ replies l, (⟨some i, s⟩ : Lifecycle _ _).steps r.recording (.release :: more) = (replies, l) ∧
      Outcome ((Operation.release :: more).zip replies) l := by
  have hmore := not_refused_zip_none more
  cases hi : i.isAttached with
  | true =>
      refine ⟨_, _, by rw [Lifecycle.steps_cons, step_release_of_attached hi,
        Lifecycle.steps_of_gone], ?_⟩
      obtain ⟨n, hn⟩ := Option.isSome_iff_exists.1 hi
      exact .lost n (hn ▸ h.keeps) ⟨_, List.mem_cons_self⟩
  | false =>
      refine ⟨_, _, by rw [Lifecycle.steps_cons, step_release_of_not_attached hi,
        Lifecycle.steps_of_gone], ?_⟩
      refine .handedOut (Option.not_isSome_iff_eq_none.1 (Bool.eq_false_iff.1 hi) ▸ h.keeps) ?_
      rintro ⟨e, hmem⟩
      obtain heq | hmem := List.mem_cons.1 hmem
      · cases heq
      · exact hmore ⟨e, hmem⟩

/-- Every run leads to one of the three. -/
theorem Tended.outcome (h : Tended i s.deeds) (operations : List Operation) :
    ∃ replies l, (⟨some i, s⟩ : Lifecycle _ _).steps r.recording operations = (replies, l) ∧
      Outcome (operations.zip replies) l := by
  induction operations generalizing i s with
  | nil => exact ⟨[], _, rfl, .there h not_refused_nil⟩
  | cons o more ih =>
      by_cases ho : o = .release
      · rw [ho]
        exact h.outcome_of_release more
      · obtain ⟨reply, i₁, s₁, hstep, h₁⟩ := h.step (r := r) ho
        obtain ⟨replies, l, hsteps, hl⟩ := ih h₁
        exact ⟨some reply :: replies, l, by rw [Lifecycle.steps_cons, hstep, hsteps], hl.cons ho⟩

/-- Which nodes are live after some operations, and what is left when the next
one fails. -/
structure Accounted (r : Renderer σ ν) (done : List (Operation × Option Reply))
    (l : Lifecycle (Recording σ ν) (Recorded ν)) : Prop where
  /-- At no moment up to now two nodes were live, and every node was destroyed
  at most once, when it was live. -/
  oneAtATime : OneAtATime l.platform.deeds
  /-- While there is an instance, its node is the live one. -/
  live : ∀ i, l.current = some i → ∀ n, Live l.platform.deeds n ↔ i.node = some n
  /-- A node is live exactly if an instance is there that has it, or if a
  control was asked for while it was shown. -/
  exists_live_iff : (∃ n, Live l.platform.deeds n) ↔
    (∃ i, l.current = some i ∧ i.isAttached = true) ∨ Refused done
  /-- In the second case there is no instance any more. -/
  current_of_refused : Refused done → l.current = none
  /-- An operation that fails leaves the instance, with its control and its
  node, unless it asks for the control. -/
  failed : ∀ o e l', l.step r.recording o = (some (.failed e), l') → o ≠ .release →
    l'.current = l.current
  /-- To ask for a control that is shown fails, the instance is used up, and the
  node that it had is live. -/
  lost : ∀ i n, l.current = some i → i.node = some n →
    ∃ e, l.step r.recording .release = (some (.failed e), ⟨none, l.platform⟩) ∧
      Live l.platform.deeds n

theorem Outcome.accounted {done : List (Operation × Option Reply)}
    {l : Lifecycle (Recording σ ν) (Recorded ν)} (h : Outcome done l) : Accounted r done l := by
  have hfailed : ∀ o e l', l.step r.recording o = (some (.failed e), l') → o ≠ .release →
      l'.current = l.current := fun _ _ _ => Lifecycle.current_of_step_failed
  have hgone : ∀ i : Instance (Recorded ν), none ≠ some i := fun i => (Option.some_ne_none i).symm
  cases h with
  | @there i s tended accepted =>
      refine ⟨tended.keeps.oneAtATime, ?_, ?_, fun h => absurd h accepted, hfailed, ?_⟩
      · rintro _ ⟨⟩
        exact tended.keeps.live
      · simp [tended.keeps.live, accepted, Instance.isAttached, Option.isSome_iff_exists]
      · rintro _ n ⟨⟩ hn
        exact ⟨_, step_release_of_attached (Option.isSome_iff_exists.2 ⟨n, hn⟩),
          (tended.keeps.live n).2 hn⟩
  | handedOut keeps accepted =>
      refine ⟨keeps.oneAtATime, fun i hi => absurd hi (hgone i), ?_, fun h => absurd h accepted,
        hfailed, fun i _ hi => absurd hi (hgone i)⟩
      simp [keeps.live, accepted]
  | lost n keeps refused =>
      refine ⟨keeps.oneAtATime, fun i hi => absurd hi (hgone i), ?_, fun _ => rfl, hfailed,
        fun i _ hi => absurd hi (hgone i)⟩
      simp [keeps.live, refused]

/-- **Only a control that is asked for while it is shown leaves a node behind**:
after every run of an instance with any renderer, a node is live exactly if an
instance is there that has it, or if the control was refused because it was
still shown.  Every other failure leaves the instance as it was. -/
theorem accounted_of_steps (r : Renderer σ ν) (s : σ) (c : Control) (operations : List Operation) :
    ∃ replies l,
      (Lifecycle.ofControl c ⟨s, []⟩).steps r.recording operations = (replies, l) ∧
        (Lifecycle.ofControl c s).steps r operations = (replies, l.forget) ∧
        Accounted r (operations.zip replies) l := by
  obtain ⟨replies, l, hsteps, h⟩ :=
    (tended_ofControl c).outcome (r := r) (s := ⟨s, []⟩) operations
  exact ⟨replies, l, hsteps, Lifecycle.steps_ofControl hsteps, h.accounted⟩

/-- A renderer that never fails. -/
def obliging : Renderer Unit Unit where
  create _ s := (.ok (), s)
  destroy _ s := s

/-- A node without an owner: the control is refused, the instance is used up,
and the node of it was not destroyed. -/
theorem live_of_release_refused :
    ∃ (l : Lifecycle (Recording Unit Unit) (Recorded Unit)) (n : Recorded Unit),
      (Lifecycle.ofControl .nothing ⟨(), []⟩).steps obliging.recording [.attach, .release] =
        ([some .done, some (.failed (.unsupportedMutation .nothing .stillAttached))], l) ∧
      l.current = none ∧ Live l.platform.deeds n := by
  refine ⟨⟨none, ⟨(), [.created .nothing ⟨0, ()⟩]⟩⟩, ⟨0, ()⟩, rfl, rfl, ?_⟩
  exact ⟨⟨.nothing, List.mem_cons_self⟩, by simp⟩

end Control

end UiMarkup
