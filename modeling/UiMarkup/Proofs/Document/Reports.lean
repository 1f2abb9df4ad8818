import UiMarkup.Proofs.Document.Refusals

/-!
# UiMarkup.Proofs.Document.Reports

Whether the errors of an attribute report what is there.  An error that counts
values gives their number and a range that it lies outside of; an error that
shows a value gives the place where it stands.  All demands and readers of
values keep to that but for one index: the largest word has no successor, so
where a value is missing there the program stops.

* `Truthful`: what an error says of an attribute is so;
* `readsTruly_iff`: at every index but the last one, whatever is read;
* `stopsAt_iff`: where the program stops;
* `truthful_of_reads`: all demands and readers.
-/

namespace UiMarkup.Attribute

open Document (Error Expected)

variable {α : Type} {a : Attribute} {index : UInt64}

/-! ## what an error says -/

/-- What the error says of the attribute is so. -/
inductive Truthful (a : Attribute) : Error → Prop
  /-- The number that was found is that of the values.  It lies outside the
  range, and both ends of the range are words. -/
  | valueCount {least most : Nat} (hleast : least ≤ maxCount) (hmost : most ≤ maxCount)
      (hrange : ¬ (least ≤ a.values.length ∧ a.values.length ≤ most)) :
      Truthful a (.valueCount a.name least most a.values.length)
  /-- The value that is shown stands at the index. -/
  | invalidValue {index : Nat} {expected : Expected} {value : Value}
      (hvalue : a.values[index]? = some value) :
      Truthful a (.invalidValue a.name index expected value)

theorem toNat_le_maxCount (n : UInt64) : n.toNat ≤ maxCount :=
  Nat.le_pred_of_lt n.toNat_lt_size

theorem truthful_requireCountBetween (a : Attribute) (least most : UInt64) :
    FailsOnlyBy a.Truthful (a.requireCountBetween least.toNat most.toNat) :=
  failsOnlyBy_requireCountBetween fun hrange =>
    .valueCount (toNat_le_maxCount least) (toNat_le_maxCount most) hrange

theorem truthful_requireCount (a : Attribute) (count : UInt64) :
    FailsOnlyBy a.Truthful (a.requireCount count.toNat) :=
  truthful_requireCountBetween a count count

/-! ## behind the last value -/

theorem not_truthful_stopped : ¬ a.Truthful .stopped :=
  nofun

theorem valueAt_of_length_le (h : a.values.length ≤ index.toNat) :
    a.valueAt index = .error (a.pastEnd index) := by
  rw [valueAt, List.getElem?_eq_none h]

theorem textAt_of_length_le (h : a.values.length ≤ index.toNat) :
    a.textAt index = .error (a.pastEnd index) := by
  rw [textAt, valueAt_of_length_le h]
  rfl

theorem readAt_of_length_le {expected : Expected} {read? : String → Option α}
    (h : a.values.length ≤ index.toNat) :
    a.readAt index expected read? = .error (a.pastEnd index) := by
  rw [readAt, textAt_of_length_le h]
  rfl

/-- The error behind the last value is true, unless the program stops. -/
theorem truthful_pastEnd (h : a.values.length ≤ index.toNat) (hlast : index.toNat ≠ maxCount) :
    a.Truthful (a.pastEnd index) := by
  have hle := toNat_le_maxCount index
  rw [pastEnd, if_neg hlast]
  exact .valueCount (by omega) (Nat.le_refl _) (by omega)

/-! ## readers -/

/-- What is read at an index is refused by true errors alone. -/
structure ReadsTruly (a : Attribute) (index : UInt64) : Prop where
  value : FailsOnlyBy a.Truthful (a.valueAt index)
  text : FailsOnlyBy a.Truthful (a.textAt index)
  integer : FailsOnlyBy a.Truthful (a.integerAt index)
  float : FailsOnlyBy a.Truthful (a.floatAt index)
  flag : FailsOnlyBy a.Truthful (a.flagAt index)
  choice : ∀ choices, FailsOnlyBy a.Truthful (a.choiceAt choices index)

/-- Whatever is read at an index, the program stops. -/
structure StopsAt (a : Attribute) (index : UInt64) : Prop where
  value : a.valueAt index = .error .stopped
  text : a.textAt index = .error .stopped
  integer : a.integerAt index = .error .stopped
  float : a.floatAt index = .error .stopped
  flag : a.flagAt index = .error .stopped
  choice : ∀ choices, a.choiceAt choices index = .error .stopped

/-- Where a value stands, every error shows that value. -/
theorem truthful_readAt_of_lt {expected : Expected} {read? : String → Option α}
    (h : index.toNat < a.values.length) :
    FailsOnlyBy a.Truthful (a.readAt index expected read?) :=
  failsOnlyBy_readAt h .invalidValue fun _ hvalue _ => .invalidValue hvalue

theorem readsTruly_of_lt (h : index.toNat < a.values.length) : a.ReadsTruly index where
  value := by
    rw [valueAt, List.getElem?_eq_getElem h]
    exact failsOnlyBy_ok _
  text := failsOnlyBy_textAt h .invalidValue
  integer := truthful_readAt_of_lt h
  float := truthful_readAt_of_lt h
  flag := truthful_readAt_of_lt h
  choice _ := truthful_readAt_of_lt h

/-- Behind the last value all readers fail by the same error. -/
theorem readsTruly_of_length_le (h : a.values.length ≤ index.toNat)
    (hlast : index.toNat ≠ maxCount) : a.ReadsTruly index := by
  have htrue := truthful_pastEnd h hlast
  have hread : ∀ {α : Type} {expected : Expected} {read? : String → Option α},
      FailsOnlyBy a.Truthful (a.readAt index expected read?) :=
    readAt_of_length_le h ▸ failsOnlyBy_error htrue
  refine ⟨?_, ?_, hread, hread, hread, fun _ => hread⟩
  · exact valueAt_of_length_le h ▸ failsOnlyBy_error htrue
  · exact textAt_of_length_le h ▸ failsOnlyBy_error htrue

/-- What is read at an index is refused by true errors, unless the index is the
last one and no value stands there. -/
theorem readsTruly_iff :
    a.ReadsTruly index ↔ (a.values.length ≤ index.toNat → index.toNat ≠ maxCount) := by
  constructor
  · intro htruly h hlast
    have hstop : a.pastEnd index = .stopped := if_pos hlast
    exact not_truthful_stopped (hstop ▸ htruly.value _ (valueAt_of_length_le h))
  · intro hlast
    by_cases h : a.values.length ≤ index.toNat
    · exact readsTruly_of_length_le h (hlast h)
    · exact readsTruly_of_lt (Nat.lt_of_not_le h)

/-- The program stops at the last index alone, and only if no value stands
there. -/
theorem stopsAt_iff :
    a.StopsAt index ↔ a.values.length ≤ index.toNat ∧ index.toNat = maxCount := by
  constructor
  · intro hstops
    by_contra h
    have htruly : a.ReadsTruly index := readsTruly_iff.2 fun hlength hlast => h ⟨hlength, hlast⟩
    exact not_truthful_stopped (htruly.value _ hstops.value)
  · rintro ⟨hlength, hlast⟩
    have hstop : a.pastEnd index = .stopped := if_pos hlast
    have hread : ∀ {α : Type} {expected : Expected} {read? : String → Option α},
        a.readAt index expected read? = .error .stopped :=
      hstop ▸ readAt_of_length_le hlength
    exact ⟨hstop ▸ valueAt_of_length_le hlength, hstop ▸ textAt_of_length_le hlength,
      hread, hread, hread, fun _ => hread⟩

/-- What is read as the only value is refused by true errors alone. -/
structure ReadsOnlyTruly (a : Attribute) : Prop where
  text : FailsOnlyBy a.Truthful a.onlyText
  integer : FailsOnlyBy a.Truthful a.onlyInteger
  float : FailsOnlyBy a.Truthful a.onlyFloat
  flag : FailsOnlyBy a.Truthful a.onlyFlag
  choice : ∀ choices, FailsOnlyBy a.Truthful (a.onlyChoice choices)

theorem readsOnlyTruly (a : Attribute) : a.ReadsOnlyTruly := by
  have hcount : FailsOnlyBy a.Truthful (a.requireCount 1) := truthful_requireCount a 1
  have hfirst : a.ReadsTruly 0 := readsTruly_iff.2 fun _ => by decide
  exact ⟨hcount.bind fun _ _ => hfirst.text, hcount.bind fun _ _ => hfirst.integer,
    hcount.bind fun _ _ => hfirst.float, hcount.bind fun _ _ => hfirst.flag,
    fun choices => hcount.bind fun _ _ => hfirst.choice choices⟩

/-- **Errors report what is there, but for the last index**: an error on the
number of values gives that number and a range of words that it lies outside
of, and an error on a value gives an index and the value that stands there.
Only where a value is missing at the largest index no error is returned: the
range would have to begin at a number that is no word, and the program stops. -/
theorem truthful_of_reads (a : Attribute) :
    (∀ least most : UInt64,
        FailsOnlyBy a.Truthful (a.requireCountBetween least.toNat most.toNat)) ∧
      (∀ count : UInt64, FailsOnlyBy a.Truthful (a.requireCount count.toNat)) ∧
      a.ReadsOnlyTruly ∧
      ∀ index,
        (a.ReadsTruly index ↔ (a.values.length ≤ index.toNat → index.toNat ≠ maxCount)) ∧
          (a.StopsAt index ↔ a.values.length ≤ index.toNat ∧ index.toNat = maxCount) :=
  ⟨truthful_requireCountBetween a, truthful_requireCount a, readsOnlyTruly a,
    fun _ => ⟨readsTruly_iff, stopsAt_iff⟩⟩

/-- Asked for the value at the last index of an attribute with one value, the
program computes the range of the error and stops. -/
theorem stopped_textAt_last :
    (⟨"Name", [some "a"]⟩ : Attribute).textAt 18446744073709551615 = .error .stopped ∧
      ¬ (⟨"Name", [some "a"]⟩ : Attribute).Truthful .stopped :=
  ⟨by decide, not_truthful_stopped⟩

end UiMarkup.Attribute
