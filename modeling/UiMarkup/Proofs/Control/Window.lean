import UiMarkup.Control.Window
import UiMarkup.Proofs.Control.Recording

/-!
# UiMarkup.Proofs.Control.Window

The nodes of a window, over its whole life.  A window shows one content after
the other, and its renderer may fail whenever it likes; still the live nodes are
those of what is shown, one or none, and none is left when the window is closed.

* `displays`: the calls of a run, one after the other;
* `Tidy`: what holds of a window between two calls, and `Tidy.display`, that
  every call keeps it so;
* `orderly_displays`: what is on the record of any run.
-/

namespace UiMarkup.Window

open Control

variable {σ ν : Type}

/-! ## runs -/

/-- Shows one content after the other; the replies, and the window then. -/
def displays (renderer : Renderer σ ν) (w : Window σ ν) :
    List (Option Control) → List (Except Control.Error Unit) × Window σ ν
  | [] => ([], w)
  | content :: more =>
    let (reply, next) := w.display renderer content
    let (replies, last) := displays renderer next more
    (reply :: replies, last)

/-- A window without what the record says of its nodes. -/
def forget (w : Window (Recording σ ν) (Recorded ν)) : Window σ ν :=
  ⟨w.platform.platform, w.content.map Instance.forget⟩

/-- The node of what a window shows. -/
def node? (w : Window σ ν) : Option ν :=
  w.content.bind (·.node)

/-! ## one call -/

/-- To show nothing always succeeds. -/
theorem display_none (r : Renderer σ ν) (w : Window σ ν) :
    w.display r none = (.ok (), w.clear r) := rfl

/-- A control is shown by attaching a new instance of it, when nothing is shown
any more. -/
theorem display_some (r : Renderer σ ν) (w : Window σ ν) (control : Control) :
    w.display r (some control) =
      match (Instance.ofControl control).attach r (w.clear r).platform with
      | (.ok (), i, s) => (.ok (), ⟨s, some i⟩)
      | (.error e, _, s) => (.error e, ⟨s, none⟩) := rfl

/-- What showing a control does: the renderer is asked for a node of it when
nothing is shown any more; if it fails the window stays empty, and otherwise it
shows the control by that node. -/
theorem display_cases {r : Renderer σ ν} {w w' : Window σ ν} {control : Control}
    {reply : Except Control.Error Unit} (h : w.display r (some control) = (reply, w')) :
    (∃ e, r.create control (w.clear r).platform = (.error e, w'.platform) ∧ reply = .error e ∧
        w'.content = none) ∨
      ∃ n, r.create control (w.clear r).platform = (.ok n, w'.platform) ∧ reply = .ok () ∧
        w'.content = some ⟨control, some n⟩ := by
  rw [display_some] at h
  rcases hattach : (Instance.ofControl control).attach r (w.clear r).platform with ⟨shown, i, s⟩
  rw [hattach] at h
  obtain ⟨hattached, -⟩ | ⟨e, -, hcreate, rfl, -⟩ | ⟨n, -, hcreate, rfl, rfl⟩ :=
    Instance.attach_cases hattach
  · cases hattached
  · cases h
    exact .inl ⟨e, hcreate, rfl, rfl⟩
  · cases h
    exact .inr ⟨n, hcreate, rfl, rfl⟩

variable {r : Renderer σ ν} {w : Window (Recording σ ν) (Recorded ν)}

/-! ## recording changes nothing -/

theorem clear_forget (w : Window (Recording σ ν) (Recorded ν)) :
    w.forget.clear r = (w.clear r.recording).forget := by
  obtain ⟨s, _ | i⟩ := w
  · rfl
  · simp only [forget, clear, Option.map_some, Option.map_none, Instance.detach_forget]

/-- A call on record is the call. -/
theorem display_forget (w : Window (Recording σ ν) (Recorded ν)) (content : Option Control) :
    w.forget.display r content =
      ((w.display r.recording content).1, (w.display r.recording content).2.forget) := by
  cases content with
  | none => rw [display_none, display_none, clear_forget]
  | some control =>
      have hattach := Instance.attach_forget r (.ofControl control) (w.clear r.recording).platform
      change (Instance.ofControl control).attach r (w.clear r.recording).forget.platform = _
        at hattach
      rw [display_some, display_some, clear_forget, hattach]
      rcases (Instance.ofControl control).attach r.recording (w.clear r.recording).platform with
        ⟨_ | _, i, s⟩ <;> rfl

/-- A run on record is the run. -/
theorem displays_forget (w : Window (Recording σ ν) (Recorded ν))
    (contents : List (Option Control)) :
    w.forget.displays r contents =
      ((w.displays r.recording contents).1, (w.displays r.recording contents).2.forget) := by
  induction contents generalizing w with
  | nil => rfl
  | cons content more ih => simp only [displays, display_forget, ih]

/-! ## between two calls -/

/-- A window whose renderer did one thing at a time for it: what it shows is
attached, by a node that was created for it. -/
structure Tidy (w : Window (Recording σ ν) (Recorded ν)) : Prop where
  keeps : Keeps w.platform.deeds w.node?
  attached : ∀ i, w.content = some i →
    ∃ n, i.node = some n ∧ .created i.control n ∈ w.platform.deeds

/-- A window that shows nothing is tidy if no node is live. -/
theorem tidy_of_keeps {s : Recording σ ν} (h : Keeps s.deeds none) :
    Tidy (⟨s, none⟩ : Window (Recording σ ν) (Recorded ν)) :=
  ⟨h, nofun⟩

/-- A window that stopped showing is tidy. -/
theorem Tidy.clear (h : Tidy w) : Tidy (w.clear r.recording) := by
  obtain ⟨s, _ | i⟩ := w
  · exact h
  · have hi : Keeps s.deeds i.node := h.keeps
    have hdetached := hi.detach (r := r)
    rw [Instance.node_detach] at hdetached
    exact tidy_of_keeps hdetached

/-- Then its renderer keeps no node. -/
theorem Tidy.keeps_clear (h : Tidy w) : Keeps (w.clear r.recording).platform.deeds none := by
  have hkeeps := (h.clear (r := r)).keeps
  rwa [node?, content_clear, Option.bind_none] at hkeeps

/-- Every call leaves a window tidy. -/
theorem Tidy.display (h : Tidy w) (content : Option Control) :
    Tidy (w.display r.recording content).2 := by
  cases content with
  | none => exact h.clear
  | some control =>
      rcases hdisplay : w.display r.recording (some control) with ⟨reply, w'⟩
      obtain ⟨e, hcreate, -, hcontent⟩ | ⟨n, hcreate, -, hcontent⟩ := display_cases hdisplay
      · refine ⟨?_, fun i hi => ?_⟩
        · rw [node?, hcontent]
          exact h.keeps_clear.create hcreate
        · rw [hcontent] at hi
          cases hi
      · refine ⟨?_, fun i hi => ?_⟩
        · rw [node?, hcontent]
          exact h.keeps_clear.create hcreate
        · rw [hcontent] at hi
          cases hi
          exact ⟨n, rfl, created_mem_of_create hcreate⟩

/-- Every run leaves a window tidy. -/
theorem Tidy.displays (h : Tidy w) (contents : List (Option Control)) :
    Tidy (w.displays r.recording contents).2 := by
  induction contents generalizing w with
  | nil => exact h
  | cons content more ih => exact ih (h.display content)

/-! ## whole runs -/

/-- What is on the record of a window after some calls, of the next call, and
of the window's end. -/
structure Orderly (r : Renderer σ ν) (w : Window (Recording σ ν) (Recorded ν)) : Prop where
  /-- At no moment up to now, inside calls too, two nodes were live, and every
  node was destroyed at most once, when it was live. -/
  oneAtATime : OneAtATime w.platform.deeds
  /-- The live nodes are the node of what is shown. -/
  live : ∀ n, Live w.platform.deeds n ↔ w.node? = some n
  /-- What is shown is attached, by a node that was created for it. -/
  attached : ∀ i, w.content = some i →
    ∃ n, i.node = some n ∧ .created i.control n ∈ w.platform.deeds
  /-- A call for a control asks the renderer for a node of it once, when nothing
  is shown any more, and replies what the renderer answers. -/
  asked : ∀ control answer s,
    r.recording.create control (w.clear r.recording).platform = (answer, s) →
      ∃ w', w.display r.recording (some control) = (answer.map fun _ => (), w') ∧ w'.platform = s
  /-- A call for nothing succeeds; it leaves the window empty, and no node is
  live. -/
  nothing : ∃ w', w.display r.recording none = (.ok (), w') ∧ w'.content = none ∧
    ∀ n, ¬ Live w'.platform.deeds n
  /-- A call that fails leaves the window empty, and no node is live. -/
  failed : ∀ control e w', w.display r.recording (some control) = (.error e, w') →
    w'.content = none ∧ ∀ n, ¬ Live w'.platform.deeds n
  /-- A call that succeeds leaves the window with the control that was given,
  attached by the live node. -/
  succeeded : ∀ control w', w.display r.recording (some control) = (.ok (), w') →
    ∃ n, w'.content = some ⟨control, some n⟩ ∧ Live w'.platform.deeds n
  /-- When the window is closed, no node is left. -/
  closed : OneAtATime (w.close r.recording).deeds ∧ ∀ n, ¬ Live (w.close r.recording).deeds n

/-- A tidy window has an orderly record. -/
theorem Tidy.orderly (h : Tidy w) : Orderly r w where
  oneAtATime := h.keeps.oneAtATime
  live := h.keeps.live
  attached := h.attached
  asked control answer s hcreate := by
    rcases hdisplay : w.display r.recording (some control) with ⟨reply, w'⟩
    obtain ⟨e, hrefused, rfl, -⟩ | ⟨n, hcreated, rfl, -⟩ := display_cases hdisplay
    · cases hcreate.symm.trans hrefused
      exact ⟨w', rfl, rfl⟩
    · cases hcreate.symm.trans hcreated
      exact ⟨w', rfl, rfl⟩
  nothing := ⟨w.clear r.recording, display_none r.recording w, content_clear r.recording w,
    h.keeps_clear.not_live⟩
  failed control e w' hdisplay := by
    have hkeeps := (h.display (r := r) (some control)).keeps
    obtain ⟨_, -, -, hcontent⟩ | ⟨_, -, hreply, -⟩ := display_cases hdisplay
    · rw [hdisplay, node?, hcontent] at hkeeps
      exact ⟨hcontent, hkeeps.not_live⟩
    · cases hreply
  succeeded control w' hdisplay := by
    have hkeeps := (h.display (r := r) (some control)).keeps
    obtain ⟨_, -, hreply, -⟩ | ⟨n, -, -, hcontent⟩ := display_cases hdisplay
    · cases hreply
    · rw [hdisplay, node?, hcontent] at hkeeps
      exact ⟨n, hcontent, (hkeeps.live n).2 rfl⟩
  closed := ⟨h.keeps_clear.oneAtATime, h.keeps_clear.not_live⟩

/-- **The nodes of a window**: in every run of a window with any renderer,
which may fail at any call, the live nodes are those of what is shown, never
more than one, and none is left in the end; the replies and the window are those
without the record. -/
theorem orderly_displays (r : Renderer σ ν) (s : σ) (contents : List (Option Control)) :
    ∃ replies w, (ofPlatform ⟨s, []⟩).displays r.recording contents = (replies, w) ∧
      (ofPlatform s).displays r contents = (replies, w.forget) ∧ Orderly r w := by
  refine ⟨_, _, rfl, displays_forget (ofPlatform ⟨s, []⟩) contents, ?_⟩
  have hempty : Tidy (ofPlatform ⟨s, []⟩ : Window (Recording σ ν) (Recorded ν)) :=
    tidy_of_keeps keeps_nil
  exact (hempty.displays contents).orderly

/-- A renderer that has no place for check boxes; all its nodes are equal. -/
def withoutCheckBoxes : Renderer Unit Unit where
  create
    | .checkBox _, s => (.error (.rendering "no check box"), s)
    | _, s => (.ok (), s)
  destroy _ s := s

/-- A label gives way to a check box that is refused, and the placeholder that
follows is destroyed when the window is closed. -/
theorem orderly_displays_refused :
    ∃ w, (ofPlatform ⟨(), []⟩).displays withoutCheckBoxes.recording
        [some (.label none), some (.checkBox none), none, some .nothing] =
          ([.ok (), .error (.rendering "no check box"), .ok (), .ok ()], w) ∧
      Orderly withoutCheckBoxes w ∧
      (w.close withoutCheckBoxes.recording).deeds =
        [.created (.label none) ⟨0, ()⟩, .destroyed ⟨0, ()⟩,
          .refused (.checkBox none) (.rendering "no check box"),
          .created .nothing ⟨3, ()⟩, .destroyed ⟨3, ()⟩] := by
  obtain ⟨replies, w, hrun, -, horderly⟩ := orderly_displays withoutCheckBoxes ()
    [some (.label none), some (.checkBox none), none, some .nothing]
  cases hrun
  exact ⟨_, rfl, horderly, rfl⟩

end UiMarkup.Window
