import Mathlib.Data.List.Forall2

/-!
# UiMarkup.Proofs.Outcome

Readings that may fail, taken apart.  Every reader of this library is a
sequence of steps that may each end in an error, so a reading succeeds exactly
if each of its steps does.
-/

namespace UiMarkup

variable {ε δ α β : Type}

/-! ## sequences of steps -/

/-- A step that succeeded hands its result on. -/
@[simp] theorem ok_bind (a : α) (f : α → Except ε β) : (Except.ok a >>= f) = f a := rfl

/-- A step that failed ends the reading. -/
@[simp] theorem error_bind (e : ε) (f : α → Except ε β) :
    (Except.error e >>= f) = Except.error e := rfl

/-- A sequence of two steps succeeds exactly if both do. -/
theorem bind_eq_ok {x : Except ε α} {f : α → Except ε β} {b : β} :
    (x >>= f) = .ok b ↔ ∃ a, x = .ok a ∧ f a = .ok b := by
  cases x with
  | error e => simp
  | ok a => simp

/-- A sequence of two steps fails exactly if one of them does. -/
theorem bind_eq_error {x : Except ε α} {f : α → Except ε β} {e : ε} :
    (x >>= f) = .error e ↔ x = .error e ∨ ∃ a, x = .ok a ∧ f a = .error e := by
  cases x with
  | error e => simp
  | ok a => simp

/-- What holds of some result of a demand holds of the only one. -/
theorem exists_unit {p : Unit → Prop} : (∃ u, p u) ↔ p () :=
  ⟨fun ⟨_, h⟩ => h, fun h => ⟨(), h⟩⟩

/-- A reading behind a demand succeeds exactly if the demand is met and the
reading succeeds. -/
theorem demand_bind_eq_ok {x : Except ε Unit} {f : Unit → Except ε β} {b : β} :
    (x >>= f) = .ok b ↔ x = .ok () ∧ f () = .ok b := by
  rw [bind_eq_ok, exists_unit]

/-- A result is changed exactly if there is one. -/
theorem map_eq_ok {f : α → β} {x : Except ε α} {b : β} :
    x.map f = .ok b ↔ ∃ a, x = .ok a ∧ f a = b := by
  cases x with
  | error e => simp [Except.map]
  | ok a => simp [Except.map]

/-- Errors of another kind leave a success alone. -/
@[simp] theorem mapError_eq_ok {f : ε → δ} {x : Except ε α} {a : α} :
    Except.mapError f x = .ok a ↔ x = .ok a := by
  cases x with
  | error e => simp [Except.mapError]
  | ok b => simp [Except.mapError]

/-! ## the same step for every entry of a list -/

/-- A list is read exactly if each of its entries is, where `means` is what is
read of an entry. -/
theorem mapM_eq_ok_iff {f : α → Except ε β} {means : α → β → Prop} {xs : List α} {ys : List β}
    (h : ∀ x ∈ xs, ∀ y, f x = .ok y ↔ means x y) :
    xs.mapM f = .ok ys ↔ List.Forall₂ means xs ys := by
  induction xs generalizing ys with
  | nil =>
      rw [List.mapM_nil, List.forall₂_nil_left_iff]
      exact ⟨fun h => (Except.ok.inj h).symm, fun h => h ▸ rfl⟩
  | cons x xs ih =>
      have hx := h x List.mem_cons_self
      have hxs := fun ys => @ih ys fun x' hx' => h x' (List.mem_cons_of_mem x hx')
      rw [List.mapM_cons, bind_eq_ok, List.forall₂_cons_left_iff]
      simp only [bind_eq_ok, hx, hxs]
      constructor
      · intro h
        obtain ⟨y, hy, rest, hrest, hys⟩ := h
        exact ⟨y, rest, hy, hrest, (Except.ok.inj hys).symm⟩
      · intro h
        obtain ⟨y, rest, hy, hrest, rfl⟩ := h
        exact ⟨y, hy, rest, hrest, rfl⟩

/-- If taking in a list fails, it fails at one of its entries. -/
theorem foldlM_eq_error {f : β → α → Except ε β} {start : β} {xs : List α} {e : ε}
    (h : xs.foldlM f start = .error e) : ∃ x ∈ xs, ∃ state, f state x = .error e := by
  induction xs generalizing start with
  | nil => cases h
  | cons x xs ih =>
      rw [List.foldlM_cons, bind_eq_error] at h
      obtain hx | ⟨state, -, hxs⟩ := h
      · exact ⟨x, List.mem_cons_self, start, hx⟩
      · obtain ⟨x', hx', hfail⟩ := ih hxs
        exact ⟨x', List.mem_cons_of_mem x hx', hfail⟩

/-! ## the errors of a reading -/

/-- If the reading fails, its error is one of these. -/
def FailsOnlyBy (p : ε → Prop) (x : Except ε α) : Prop :=
  ∀ e, x = .error e → p e

variable {p : ε → Prop} {x : Except ε α}

theorem failsOnlyBy_ok (a : α) : FailsOnlyBy p (.ok a : Except ε α) :=
  fun _ h => nomatch h

theorem failsOnlyBy_error {e : ε} (h : p e) : FailsOnlyBy p (.error e : Except ε α) :=
  fun _ he => Except.error.inj he ▸ h

theorem FailsOnlyBy.mono {q : ε → Prop} (hx : FailsOnlyBy p x) (h : ∀ e, p e → q e) :
    FailsOnlyBy q x :=
  fun e he => h e (hx e he)

/-- The errors of a sequence of two steps are those of the steps, the second
of which may know that the first one succeeded. -/
theorem FailsOnlyBy.bind {f : α → Except ε β} (hx : FailsOnlyBy p x)
    (hf : ∀ a, x = .ok a → FailsOnlyBy p (f a)) : FailsOnlyBy p (x >>= f) := by
  intro e h
  rcases bind_eq_error.1 h with herror | ⟨a, ha, herror⟩
  · exact hx e herror
  · exact hf a ha e herror

/-- A result that is changed comes with the same errors. -/
theorem FailsOnlyBy.map (hx : FailsOnlyBy p x) (f : α → β) : FailsOnlyBy p (x.map f) := by
  cases x with
  | error e => exact failsOnlyBy_error (hx e rfl)
  | ok a => exact failsOnlyBy_ok (f a)

/-- Errors of another kind come from those of this kind. -/
theorem FailsOnlyBy.mapError {q : δ → Prop} {f : ε → δ} (hx : FailsOnlyBy p x)
    (h : ∀ e, p e → q (f e)) : FailsOnlyBy q (x.mapError f) := by
  cases x with
  | error e => exact failsOnlyBy_error (h e (hx e rfl))
  | ok a => exact failsOnlyBy_ok a

/-- The errors of the same step for every entry of a list are those of the
entries. -/
theorem FailsOnlyBy.mapM {f : α → Except ε β} {xs : List α}
    (h : ∀ x ∈ xs, FailsOnlyBy p (f x)) : FailsOnlyBy p (xs.mapM f) := by
  induction xs with
  | nil => exact failsOnlyBy_ok []
  | cons x xs ih =>
      have hxs := ih fun x' hx' => h x' (List.mem_cons_of_mem x hx')
      rw [List.mapM_cons]
      exact (h x List.mem_cons_self).bind fun _ _ => hxs.bind fun _ _ => failsOnlyBy_ok _

/-! ## two readings -/

/-- Two readings that fail by the same error, or succeed with results that are
related. -/
inductive AgreeBy (rel : α → β → Prop) : Except ε α → Except ε β → Prop
  | error (e : ε) : AgreeBy rel (.error e) (.error e)
  | ok {a : α} {b : β} (h : rel a b) : AgreeBy rel (.ok a) (.ok b)

/-- Sequences agree if their first steps do, and their second steps behind
results that are related. -/
theorem AgreeBy.bind {γ γ' : Type} {rel : α → β → Prop} {rel' : γ → γ' → Prop}
    {x : Except ε α} {y : Except ε β} {f : α → Except ε γ} {g : β → Except ε γ'}
    (h : AgreeBy rel x y) (hfg : ∀ a b, rel a b → AgreeBy rel' (f a) (g b)) :
    AgreeBy rel' (x >>= f) (y >>= g) := by
  cases h with
  | error e => exact .error e
  | ok h => exact hfg _ _ h

/-- Results that are related may be changed, if that relates them again. -/
theorem AgreeBy.map {γ γ' : Type} {rel : α → β → Prop} {rel' : γ → γ' → Prop}
    {x : Except ε α} {y : Except ε β} {f : α → γ} {g : β → γ'} (h : AgreeBy rel x y)
    (hfg : ∀ a b, rel a b → rel' (f a) (g b)) : AgreeBy rel' (x.map f) (y.map g) := by
  cases h with
  | error e => exact .error e
  | ok h => exact .ok (hfg _ _ h)

/-- Behind the same first step, sequences agree if their second steps do. -/
theorem AgreeBy.bind_left {γ : Type} {rel : β → γ → Prop} (x : Except ε α)
    {f : α → Except ε β} {g : α → Except ε γ} (hfg : ∀ a, AgreeBy rel (f a) (g a)) :
    AgreeBy rel (x >>= f) (x >>= g) := by
  cases x with
  | error e => exact .error e
  | ok a => exact hfg a

/-! ## what is meant -/

/-- Of what is listed with what it means, all that is meant is listed. -/
theorem exists_of_forall₂ {means : α → β → Prop} {xs : List α} {ys : List β}
    (h : List.Forall₂ means xs ys) {y : β} (hy : y ∈ ys) : ∃ x ∈ xs, means x y := by
  induction h with
  | nil => cases hy
  | @cons x _ xs _ hxy _ ih =>
      rcases List.mem_cons.1 hy with rfl | hy
      · exact ⟨x, List.mem_cons_self, hxy⟩
      · obtain ⟨x', hx', h⟩ := ih hy
        exact ⟨x', List.mem_cons_of_mem x hx', h⟩

/-- What is listed with what it means contributes the same, entry by entry. -/
theorem flatMap_eq_of_forall₂ {γ : Type} {means : α → β → Prop} {f : α → List γ} {g : β → List γ}
    {xs : List α} {ys : List β} (h : List.Forall₂ means xs ys)
    (hfg : ∀ x ∈ xs, ∀ y, means x y → f x = g y) : xs.flatMap f = ys.flatMap g := by
  induction h with
  | nil => rfl
  | @cons x y xs ys hxy _ ih =>
      rw [List.flatMap_cons, List.flatMap_cons, hfg x List.mem_cons_self y hxy,
        ih fun x' hx' => hfg x' (List.mem_cons_of_mem x hx')]

end UiMarkup
