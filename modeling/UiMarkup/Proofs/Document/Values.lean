import UiMarkup.Document.Value
import UiMarkup.Proofs.Outcome

/-!
# UiMarkup.Proofs.Document.Values

What it means that an attribute has a value of some kind, said of its values
alone, and that the readers of attributes find exactly that:

* `readAt_eq_ok_iff`: the value at an index;
* `onlyText_eq_ok_iff`, `onlyFloat_eq_ok_iff`, `onlyFlag_eq_ok_iff`: the only
  value.
-/

namespace UiMarkup.Attribute

open Document (Expected)
open Number (Binary64)

/-! ## the kinds of values -/

/-- The attribute has one value, and it is this text. -/
def HasText (a : Attribute) (s : String) : Prop :=
  a.values = [some s]

/-- The attribute has one value, the spelling of a decimal number that rounds
to this finite number. -/
def HasFloat (a : Attribute) (x : Binary64) : Prop :=
  ∃ s d, a.HasText s ∧ Number.Decimal.read? s = some d ∧ d.toBinary64 = x ∧ x.isFinite = true

/-- The attribute has one value, the word for this boolean in any case of the
letters `A` to `Z`. -/
def HasFlag (a : Attribute) (b : Bool) : Prop :=
  ∃ s, a.HasText s ∧ s.toList.map Char.toLower = (if b then "true" else "false").toList

/-! ## the value at an index -/

/-- A text is read where one stands. -/
theorem textAt_eq_ok_iff {a : Attribute} {index : UInt64} {s : String} :
    a.textAt index = .ok s ↔ a.values[index.toNat]? = some (some s) := by
  rw [textAt, bind_eq_ok]
  constructor
  · rintro ⟨v, hv, h⟩
    cases v with
    | none => cases h
    | some t =>
        rw [← Except.ok.inj h]
        rw [valueAt] at hv
        split at hv
        · next value hvalue =>
          rw [hvalue, Except.ok.inj hv]
        · cases hv
  · intro h
    exact ⟨some s, by rw [valueAt, h], rfl⟩

/-- A value is read where a text stands that its reader takes. -/
theorem readAt_eq_ok_iff {α : Type} {a : Attribute} {index : UInt64} {expected : Expected}
    {read? : String → Option α} {x : α} :
    a.readAt index expected read? = .ok x ↔
      ∃ s, a.values[index.toNat]? = some (some s) ∧ read? s = some x := by
  rw [readAt, bind_eq_ok]
  constructor
  · rintro ⟨s, hs, h⟩
    refine ⟨s, textAt_eq_ok_iff.1 hs, ?_⟩
    split at h
    · next y hy =>
      rw [hy, Except.ok.inj h]
    · cases h
  · rintro ⟨s, hs, hx⟩
    exact ⟨s, textAt_eq_ok_iff.2 hs, by rw [hx]⟩

/-- A whole number is read where a text stands that spells it. -/
theorem integerAt_eq_ok_iff {a : Attribute} {index : UInt64} {n : Int} :
    a.integerAt index = .ok n ↔
      ∃ s, a.values[index.toNat]? = some (some s) ∧ Number.readInteger? s = some n :=
  readAt_eq_ok_iff

/-! ## the only value -/

/-- The first value is the only one. -/
theorem length_eq_one_and_getElem?_iff {a : Attribute} {s : String} :
    a.values.length = 1 ∧ a.values[0]? = some (some s) ↔ a.HasText s := by
  rw [HasText]
  constructor
  · rintro ⟨hlength, hfirst⟩
    obtain ⟨v, hv⟩ := List.length_eq_one_iff.1 hlength
    rw [hv, List.getElem?_cons_zero, Option.some.injEq] at hfirst
    rw [hv, hfirst]
  · intro h
    rw [h]
    exact ⟨rfl, rfl⟩

/-- The only value is read as a text exactly if the attribute has that text. -/
theorem onlyText_eq_ok_iff {a : Attribute} {s : String} :
    a.onlyText = .ok s ↔ a.HasText s := by
  rw [onlyText, demand_bind_eq_ok, requireCount_eq_ok, textAt_eq_ok_iff]
  exact length_eq_one_and_getElem?_iff

/-- The only value is read by a reader exactly if the attribute has a text that
the reader takes. -/
theorem only_readAt_eq_ok_iff {α : Type} {a : Attribute} {expected : Expected}
    {read? : String → Option α} {x : α} :
    (do a.requireCount 1; a.readAt 0 expected read?) = .ok x ↔
      ∃ s, a.HasText s ∧ read? s = some x := by
  rw [demand_bind_eq_ok, requireCount_eq_ok, readAt_eq_ok_iff]
  constructor
  · rintro ⟨hlength, s, hs, hx⟩
    exact ⟨s, length_eq_one_and_getElem?_iff.1 ⟨hlength, hs⟩, hx⟩
  · rintro ⟨s, hs, hx⟩
    obtain ⟨hlength, hfirst⟩ := length_eq_one_and_getElem?_iff.2 hs
    exact ⟨hlength, s, hfirst, hx⟩

/-- The only value is read as a number exactly if the attribute has that
number. -/
theorem onlyFloat_eq_ok_iff {a : Attribute} {x : Binary64} :
    a.onlyFloat = .ok x ↔ a.HasFloat x := by
  rw [onlyFloat, floatAt, only_readAt_eq_ok_iff, HasFloat]
  simp only [Number.readFloat?, Option.bind_eq_bind, Option.bind_eq_some_iff]
  constructor
  · rintro ⟨s, hs, d, hd, hx⟩
    split at hx
    · next hfinite =>
      rw [← Option.some.inj hx]
      exact ⟨s, d, hs, hd, rfl, hfinite⟩
    · cases hx
  · rintro ⟨s, d, hs, hd, rfl, hfinite⟩
    exact ⟨s, hs, d, hd, if_pos hfinite⟩

/-- The only value is read as a boolean exactly if the attribute has that
boolean. -/
theorem onlyFlag_eq_ok_iff {a : Attribute} {b : Bool} :
    a.onlyFlag = .ok b ↔ a.HasFlag b := by
  rw [onlyFlag, flagAt, only_readAt_eq_ok_iff, HasFlag]
  have hread : ∀ s, readFlag? s = some b ↔
      s.toList.map Char.toLower = (if b then "true" else "false").toList := by
    intro s
    have htrue : Text.sameKeyword s "true" = true ↔ s.toList.map Char.toLower = "true".toList :=
      Text.sameKeyword_iff
    have hfalse :
        Text.sameKeyword s "false" = true ↔ s.toList.map Char.toLower = "false".toList :=
      Text.sameKeyword_iff
    rw [readFlag?]
    split
    · next h =>
      rw [htrue.1 h]
      cases b <;> simp
    · next h =>
      split
      · next h' =>
        rw [hfalse.1 h']
        cases b <;> simp
      · next h' =>
        cases b with
        | true => exact iff_of_false nofun (mt htrue.2 h)
        | false => exact iff_of_false nofun (mt hfalse.2 h')
  simp only [hread]

end UiMarkup.Attribute
