import UiMarkup.Control.Instance

/-!
# UiMarkup.Proofs.Control.Recording

What a renderer does, on record.  `Renderer.recording` does what a renderer
does and writes down every node that it creates, every control that it refuses
and every node that it destroys; nodes are told apart by their place in the
record, even if the renderer hands out equal ones.

* `attach_forget`, `detach_forget`: recording changes nothing for an instance;
* `OneAtATime`: at no moment of a record two nodes are live, and nodes are
  destroyed once, after they were created;
* `Keeps`: the node of an owner that keeps a renderer so, and `Keeps.create`,
  `Keeps.detach`, that what an instance asks for does.
-/

namespace UiMarkup

namespace Control

variable {σ ν : Type}

/-! ## records -/

/-- A node, and its place in the record. -/
structure Recorded (ν : Type) where
  place : Nat
  node : ν

/-- Something that a renderer did. -/
inductive Deed (ν : Type) where
  | created (control : Control) (n : Recorded ν)
  | refused (control : Control) (e : Error)
  | destroyed (n : Recorded ν)

/-- The node that something was done with. -/
def Deed.node? : Deed ν → Option (Recorded ν)
  | .created _ n | .destroyed n => some n
  | .refused .. => none

/-- The state of a renderer, and what it did so far. -/
structure Recording (σ ν : Type) where
  platform : σ
  deeds : List (Deed ν)

/-- A renderer that keeps a record of what it does. -/
def Renderer.recording (r : Renderer σ ν) : Renderer (Recording σ ν) (Recorded ν) where
  create control s :=
    match r.create control s.platform with
    | (.ok node, platform) =>
      let n : Recorded ν := ⟨s.deeds.length, node⟩
      (.ok n, ⟨platform, s.deeds ++ [.created control n]⟩)
    | (.error e, platform) => (.error e, ⟨platform, s.deeds ++ [.refused control e]⟩)
  destroy n s := ⟨r.destroy n.node s.platform, s.deeds ++ [.destroyed n]⟩

/-- A node is live: it was created and has not been destroyed. -/
def Live (deeds : List (Deed ν)) (n : Recorded ν) : Prop :=
  (∃ control, .created control n ∈ deeds) ∧ .destroyed n ∉ deeds

/-- What was done with nodes, one node at a time: after whatever was done first,
at most one node is live; what is created has not been created before, and what
is destroyed is live. -/
structure OneAtATime (deeds : List (Deed ν)) : Prop where
  atMostOne : ∀ before, before <+: deeds → ∀ m n, Live before m → Live before n → m = n
  new : ∀ before control n, before ++ [.created control n] <+: deeds →
    ∀ other, .created other n ∉ before
  live : ∀ before n, before ++ [.destroyed n] <+: deeds → Live before n

end Control

open Control

variable {σ ν : Type}

namespace Instance

/-- What attaching does: an instance that is attached is left as it is and the
renderer is not asked; another one is left as it is if the renderer fails, and
has the node that was created for its control if it does not. -/
theorem attach_cases {r : Renderer σ ν} {i i' : Instance ν} {s s' : σ}
    {reply : Except Control.Error Unit} (h : i.attach r s = (reply, i', s')) :
    (i.isAttached = true ∧
        reply = .error (.unsupportedMutation i.control.kind .alreadyAttached) ∧
        i' = i ∧ s' = s) ∨
      (∃ e, i.node = none ∧ r.create i.control s = (.error e, s') ∧ reply = .error e ∧ i' = i) ∨
      ∃ n, i.node = none ∧ r.create i.control s = (.ok n, s') ∧ reply = .ok () ∧
        i' = ⟨i.control, some n⟩ := by
  rw [attach] at h
  split at h
  · next hattached =>
    cases h
    exact .inl ⟨hattached, rfl, rfl, rfl⟩
  · next hattached =>
    rw [isAttached, Option.not_isSome_iff_eq_none] at hattached
    rcases hcreate : r.create i.control s with ⟨e | n, t⟩
    · rw [hcreate] at h
      cases h
      exact .inr (.inl ⟨e, hattached, rfl, rfl, rfl⟩)
    · rw [hcreate] at h
      cases h
      exact .inr (.inr ⟨n, hattached, rfl, rfl, rfl⟩)

/-! ## recording changes nothing -/

/-- An instance without what the record says of its node. -/
def forget (i : Instance (Recorded ν)) : Instance ν :=
  ⟨i.control, i.node.map (·.node)⟩

@[simp] theorem isAttached_forget (i : Instance (Recorded ν)) :
    i.forget.isAttached = i.isAttached := by
  simp [forget, isAttached]

/-- Attaching with a renderer on record is attaching with the renderer. -/
theorem attach_forget (r : Renderer σ ν) (i : Instance (Recorded ν)) (s : Recording σ ν) :
    i.forget.attach r s.platform =
      ((i.attach r.recording s).1, (i.attach r.recording s).2.1.forget,
        (i.attach r.recording s).2.2.platform) := by
  rw [attach, attach, isAttached_forget]
  split
  · rfl
  · simp only [Renderer.recording, forget]
    rcases r.create i.control s.platform with ⟨_ | _, _⟩ <;> rfl

/-- Detaching with a renderer on record is detaching with the renderer. -/
theorem detach_forget (r : Renderer σ ν) (i : Instance (Recorded ν)) (s : Recording σ ν) :
    i.forget.detach r s.platform =
      ((i.detach r.recording s).1, (i.detach r.recording s).2.1.forget,
        (i.detach r.recording s).2.2.platform) := by
  obtain ⟨control, _ | n⟩ := i <;> rfl

end Instance

/-! ## one more deed -/

namespace Control

variable {deeds : List (Deed ν)} {n : Recorded ν}

theorem not_live_nil : ¬ Live [] n := by
  rintro ⟨⟨_, hmem⟩, -⟩
  exact absurd hmem List.not_mem_nil

theorem live_concat_refused {control : Control} {e : Error} :
    Live (deeds ++ [.refused control e]) n ↔ Live deeds n := by
  simp [Live]

theorem live_concat_created {control : Control} {m : Recorded ν}
    (hm : .destroyed m ∉ deeds) :
    Live (deeds ++ [.created control m]) n ↔ Live deeds n ∨ n = m := by
  simp only [Live, List.mem_append, List.mem_singleton, Deed.created.injEq, reduceCtorEq, or_false]
  constructor
  · rintro ⟨⟨c, hc | ⟨-, rfl⟩⟩, hn⟩
    · exact .inl ⟨⟨c, hc⟩, hn⟩
    · exact .inr rfl
  · rintro (⟨⟨c, hc⟩, hn⟩ | rfl)
    · exact ⟨⟨c, .inl hc⟩, hn⟩
    · exact ⟨⟨control, .inr ⟨rfl, rfl⟩⟩, hm⟩

theorem live_concat_destroyed {m : Recorded ν} :
    Live (deeds ++ [.destroyed m]) n ↔ Live deeds n ∧ n ≠ m := by
  simp only [Live, List.mem_append, List.mem_singleton, Deed.destroyed.injEq, reduceCtorEq,
    or_false, not_or, and_assoc, ne_eq]

theorem oneAtATime_nil : OneAtATime ([] : List (Deed ν)) where
  atMostOne before hbefore m n hm := by
    rw [List.prefix_nil.1 hbefore] at hm
    exact absurd hm not_live_nil
  new before control n h := by simp at h
  live before n h := by simp at h

/-- One more deed of a renderer that did one thing at a time. -/
theorem OneAtATime.concat (h : OneAtATime deeds) {deed : Deed ν}
    (hone : ∀ m n, Live (deeds ++ [deed]) m → Live (deeds ++ [deed]) n → m = n)
    (hnew : ∀ control n, deed = .created control n → ∀ other, .created other n ∉ deeds)
    (hlive : ∀ n, deed = .destroyed n → Live deeds n) : OneAtATime (deeds ++ [deed]) where
  atMostOne before hbefore := by
    rcases List.prefix_concat_iff.1 hbefore with rfl | hbefore
    · exact hone
    · exact h.atMostOne before hbefore
  new before control n hbefore := by
    rcases List.prefix_concat_iff.1 hbefore with heq | hbefore
    · obtain ⟨rfl, hdeed⟩ := List.append_inj' heq rfl
      exact hnew control n (List.singleton_inj.1 hdeed).symm
    · exact h.new before control n hbefore
  live before n hbefore := by
    rcases List.prefix_concat_iff.1 hbefore with heq | hbefore
    · obtain ⟨rfl, hdeed⟩ := List.append_inj' heq rfl
      exact hlive n (List.singleton_inj.1 hdeed).symm
    · exact h.live before n hbefore

/-! ## the node of an owner -/

/-- What was done, one node at a time, for an owner that now has this node or
none: that node is the live one, and the next place is free. -/
structure Keeps (deeds : List (Deed ν)) (node : Option (Recorded ν)) : Prop where
  oneAtATime : OneAtATime deeds
  live : ∀ n, Live deeds n ↔ node = some n
  place : ∀ deed ∈ deeds, ∀ n, deed.node? = some n → n.place < deeds.length

variable {node node' : Option (Recorded ν)}

theorem keeps_nil : Keeps ([] : List (Deed ν)) none where
  oneAtATime := oneAtATime_nil
  live _ := iff_of_false not_live_nil nofun
  place _ h := absurd h List.not_mem_nil

/-- No node is live for an owner without one. -/
theorem Keeps.not_live (h : Keeps deeds none) (n : Recorded ν) : ¬ Live deeds n := by
  rw [h.live]
  exact (Option.some_ne_none n).symm

/-- One more deed, after which the owner has the live node. -/
theorem Keeps.concat (h : Keeps deeds node) {deed : Deed ν}
    (hlive : ∀ n, Live (deeds ++ [deed]) n ↔ node' = some n)
    (hnew : ∀ control n, deed = .created control n → ∀ other, .created other n ∉ deeds)
    (hdestroyed : ∀ n, deed = .destroyed n → node = some n)
    (hplace : ∀ n, deed.node? = some n → n.place ≤ deeds.length) :
    Keeps (deeds ++ [deed]) node' where
  oneAtATime := by
    refine h.oneAtATime.concat (fun m n hm hn => ?_) hnew fun n hn =>
      (h.live n).2 (hdestroyed n hn)
    exact Option.some.inj (((hlive m).1 hm).symm.trans ((hlive n).1 hn))
  live := hlive
  place other hother n hn := by
    rw [List.length_append, List.length_singleton, Nat.lt_succ_iff]
    rcases List.mem_append.1 hother with hother | hother
    · exact Nat.le_of_lt (h.place other hother n hn)
    · rw [List.mem_singleton.1 hother] at hn
      exact hplace n hn

/-- A refusal changes nothing for the owner. -/
theorem Keeps.refused (h : Keeps deeds node) (control : Control) (e : Error) :
    Keeps (deeds ++ [.refused control e]) node :=
  h.concat (fun n => live_concat_refused.trans (h.live n)) nofun nofun nofun

/-- An owner without a node gets one that was created at the next place. -/
theorem Keeps.created (h : Keeps deeds none) (control : Control) (made : ν) :
    Keeps (deeds ++ [.created control ⟨deeds.length, made⟩]) (some ⟨deeds.length, made⟩) := by
  have hfree : ∀ deed ∈ deeds, deed.node? ≠ some ⟨deeds.length, made⟩ := fun deed hdeed hn =>
    Nat.lt_irrefl _ (h.place deed hdeed _ hn)
  refine h.concat (fun n => ?_) (fun c n hn other hmem => ?_) nofun fun n hn => ?_
  · rw [live_concat_created fun hmem => hfree _ hmem rfl, h.live, Option.some.injEq]
    simp [eq_comm]
  · cases hn
    exact hfree _ hmem rfl
  · cases hn
    exact Nat.le_refl _

/-- The node of an owner is destroyed, and it has none then. -/
theorem Keeps.destroyed (h : Keeps deeds (some n)) : Keeps (deeds ++ [.destroyed n]) none := by
  refine h.concat (fun m => ?_) nofun (fun m hm => ?_) fun m hm => ?_
  · rw [live_concat_destroyed, h.live, Option.some.injEq]
    exact iff_of_false (fun hm => hm.2 hm.1.symm) nofun
  · cases hm
    rfl
  · cases hm
    obtain ⟨⟨control, hmem⟩, -⟩ := (h.live n).2 rfl
    exact Nat.le_of_lt (h.place _ hmem n rfl)

/-! ## what a renderer is asked for -/

variable {r : Renderer σ ν} {i : Instance (Recorded ν)} {s : Recording σ ν}

/-- What is on record of a control that a renderer was asked for. -/
theorem create_cases {control : Control} {reply : Except Error (Recorded ν)}
    {t : Recording σ ν} (h : r.recording.create control s = (reply, t)) :
    (∃ e, reply = .error e ∧ t.deeds = s.deeds ++ [.refused control e]) ∨
      ∃ made, reply = .ok ⟨s.deeds.length, made⟩ ∧
        t.deeds = s.deeds ++ [.created control ⟨s.deeds.length, made⟩] := by
  simp only [Renderer.recording] at h
  rcases hcreate : r.create control s.platform with ⟨e | made, platform⟩
  · rw [hcreate] at h
    cases h
    exact .inl ⟨e, rfl, rfl⟩
  · rw [hcreate] at h
    cases h
    exact .inr ⟨made, rfl, rfl⟩

/-- What was created is on record. -/
theorem created_mem_of_create {control : Control} {n : Recorded ν} {t : Recording σ ν}
    (h : r.recording.create control s = (.ok n, t)) : .created control n ∈ t.deeds := by
  obtain ⟨_, hreply, -⟩ | ⟨made, hreply, hdeeds⟩ := create_cases h
  · cases hreply
  · cases hreply
    rw [hdeeds]
    exact List.mem_append_right _ List.mem_cons_self

/-- An owner without a node has the one that was created for it, if it was. -/
theorem Keeps.create {control : Control} {reply : Except Error (Recorded ν)}
    {t : Recording σ ν} (h : Keeps s.deeds none)
    (hcreate : r.recording.create control s = (reply, t)) : Keeps t.deeds reply.toOption := by
  obtain ⟨e, rfl, hdeeds⟩ | ⟨made, rfl, hdeeds⟩ := create_cases hcreate
  · rw [hdeeds]
    exact h.refused control e
  · rw [hdeeds]
    exact h.created control made

/-- An instance that is the only owner is so after it was detached. -/
theorem Keeps.detach (h : Keeps s.deeds i.node) :
    Keeps (i.detach r.recording s).2.2.deeds (i.detach r.recording s).2.1.node := by
  rw [Instance.detach]
  split
  · exact h
  · next n hn =>
    rw [hn] at h
    exact h.destroyed

end Control

end UiMarkup
