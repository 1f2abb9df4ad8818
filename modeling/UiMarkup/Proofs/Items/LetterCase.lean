import UiMarkup.Proofs.Items.Building
import UiMarkup.Proofs.Text.Lowercase

/-!
# UiMarkup.Proofs.Items.LetterCase

Names that differ only in case, in the groups that exist.  They are the same
name exactly if capital sigmas end a word in the same places of both.

* `Group.Arises`: the groups of stores, and of groups that are built apart;
* `Group.get?_and_add_of_sameLetters`: what such names find, and which of them
  are refused.
-/

namespace UiMarkup.Group

open Items
open Observer (Arena Storage)
open Text (SameLetters finalSigmas)

variable {S ω : Type} {g : Group S ω} {n m : String} {e : Entry S ω}

/-! ## names and keys -/

theorem key_eq_iff_of_sameLetters (h : SameLetters n m) :
    key n = key m ↔ finalSigmas [] n.toList = finalSigmas [] m.toList :=
  h.lowercase_eq_iff

theorem get?_of_key_eq (h : key n = key m) : g.get? n = g.get? m := by
  rw [get?, get?, place?, place?, h]

/-- Every entry of a group in order is found under its name. -/
theorem InOrder.get?_name (hg : g.InOrder) (he : e ∈ g.entries) : g.get? e.name = some e := by
  obtain ⟨place, hplace⟩ := List.mem_iff_getElem?.1 he
  rw [get?, hg.place?_eq_some_iff.2 ⟨e, hplace, rfl⟩, Option.bind_some, hplace]

/-- What is found under a name has its key. -/
theorem InOrder.key_of_get? (hg : g.InOrder) (h : g.get? n = some e) : e.key = key n := by
  obtain ⟨place, hplace, hentry⟩ := Option.bind_eq_some_iff.1 h
  obtain ⟨found, hfound, hkey⟩ := hg.place?_eq_some_iff.1 hplace
  obtain rfl := Option.some.inj (hentry.symm.trans hfound)
  exact hkey

/-- Nothing is found under a name exactly if no entry has its key. -/
theorem InOrder.get?_eq_none_iff (hg : g.InOrder) :
    g.get? n = none ↔ key n ∉ g.entries.map Entry.key := by
  constructor
  · intro h hmem
    obtain ⟨e, he, hkey⟩ := List.mem_map.1 hmem
    rw [get?_of_key_eq hkey.symm, hg.get?_name he] at h
    cases h
  · intro h
    rw [Option.eq_none_iff_forall_ne_some]
    intro e hfound
    obtain ⟨place, -, hentry⟩ := Option.bind_eq_some_iff.1 hfound
    exact h (hg.key_of_get? hfound ▸ List.mem_map_of_mem (List.mem_of_getElem? hentry))

/-! ## adding -/

/-- An entry whose key an entry has is refused, and the group is as it was. -/
theorem InOrder.add_of_key_mem (hg : g.InOrder) (hname : isName e.name = true)
    (hkey : e.key ∈ g.entries.map Entry.key) :
    add e g = .error (.duplicateName g.name e.name) g := by
  have hrefused := insert_eq_error.2 (.inr ⟨hname, hg.isSome_lookup_iff.2 hkey, rfl⟩)
  rw [add_eq, hrefused]

/-- An entry whose name finds nothing is taken. -/
theorem InOrder.add_of_get?_eq_none (hg : g.InOrder) (hname : isName e.name = true)
    (hnone : g.get? e.name = none) : ∃ h, add e g = .ok () h ∧ g.Extends e h := by
  have hnew : g.index.lookup (key e.name) = none := by
    rw [Option.eq_none_iff_forall_ne_some]
    intro place hplace
    exact hg.get?_eq_none_iff.1 hnone (hg.isSome_lookup_iff.1 (Option.isSome_of_eq_some hplace))
  have hins := insert_eq_ok.2 ⟨hname, hnew, rfl⟩
  refine ⟨_, ?_, hg.extends_of_insert hins⟩
  rw [add_eq, hins]

/-! ## groups that exist -/

variable [Storage S ω]

/-- The groups at any depth of what is declared or built. -/
inductive Arises : Group S ω → Prop
  | ofStore {s : Items S ω} {g : Group S ω} (hs : s.Built) (h : s.root.Holds g) : Arises g
  | ofGroup {outer g : Group S ω} (hg : outer.Built) (h : outer.Holds g) : Arises g

theorem Arises.inOrder (h : g.Arises) : g.InOrder := by
  cases h with
  | ofStore hs h => exact hs.sound g h
  | ofGroup hg h => exact hg.sound g h

/-- **Names that differ only in case are the same name exactly if capital sigmas
end a word in the same places of both**.  Then they find the same in every
group, and an entry with one of them is refused where an entry with the other
one is.  Else they are different names: an entry with one of them is not found
under the other, and as long as nothing is found under that, an entry with it
is taken. -/
theorem get?_and_add_of_sameLetters (hg : g.Arises) (hname : isName m = true)
    (h : SameLetters n m) :
    (finalSigmas [] n.toList = finalSigmas [] m.toList →
      g.get? n = g.get? m ∧
        ∀ e ∈ g.entries, e.name = n → ∀ e' : Entry S ω, e'.name = m →
          add e' g = .error (.duplicateName g.name m) g) ∧
    (finalSigmas [] n.toList ≠ finalSigmas [] m.toList →
      ∀ e ∈ g.entries, e.name = n →
        g.get? n = some e ∧ g.get? m ≠ some e ∧
          (g.get? m = none → ∀ e' : Entry S ω, e'.name = m →
            ∃ g', add e' g = .ok () g' ∧ g.Extends e' g')) := by
  have horder := hg.inOrder
  rw [← key_eq_iff_of_sameLetters h]
  constructor
  · intro hkey
    refine ⟨get?_of_key_eq hkey, ?_⟩
    rintro e he rfl e' rfl
    have hmem : e'.key ∈ g.entries.map Entry.key := by
      rw [Entry.key, ← hkey]
      exact List.mem_map_of_mem he
    exact horder.add_of_key_mem hname hmem
  · rintro hdiffer e he rfl
    rw [ne_eq, ← key_eq_iff_of_sameLetters h] at hdiffer
    refine ⟨horder.get?_name he, fun hfound => hdiffer (horder.key_of_get? hfound), ?_⟩
    rintro hnone e' rfl
    exact horder.add_of_get?_eq_none hname hnone

/-- A group with one boolean of this name. -/
def single (name : String) : Group (Arena Unit) Unit :=
  .ofEntries "File" [.item (.ofKind .flag name)]

theorem arises_single {name : String} (hname : isName name = true) : (single name).Arises := by
  have hins : (empty "File").insert (.item (.ofKind .flag name)) = .ok (single name) :=
    insert_eq_ok.2 ⟨hname, rfl, rfl⟩
  have hadd : addAt 0 (.item (.ofKind .flag name)) (.empty "File") = .ok () (single name) := by
    rw [addAt_eq, innermost, hins]
    rfl
  have hitem : ∀ inner : Group (Arena Unit) Unit,
      .item (.ofKind .flag name) = inner.toEntry → inner.Built :=
    fun inner heq => absurd heq.symm (toEntry_ne_item inner _)
  exact .ofGroup (.added (.empty "File") hitem hadd) .here

/-- The only name of the group begins and ends with a capital sigma.  A small
sigma at the start makes no difference, and at the end it does. -/
theorem get?_and_add_of_sameLetters_sigma :
    SameLetters "ΣΑΣ" "σαΣ" ∧ SameLetters "ΣΑΣ" "σασ" ∧
      (single "ΣΑΣ").get? "σαΣ" = (single "ΣΑΣ").get? "ΣΑΣ" ∧
      add (.item (.ofKind .text "σαΣ")) (single "ΣΑΣ") =
        .error (.duplicateName "File" "σαΣ") (single "ΣΑΣ") ∧
      (single "ΣΑΣ").get? "σασ" = none ∧
      ∃ g, add (.item (.ofKind .text "σασ")) (single "ΣΑΣ") = .ok () g ∧
        (single "ΣΑΣ").Extends (.item (.ofKind .text "σασ")) g := by
  have hg : (single "ΣΑΣ").Arises := arises_single (by decide)
  have hmem : .item (.ofKind .flag "ΣΑΣ") ∈ (single "ΣΑΣ").entries := List.mem_cons_self
  have hstart : SameLetters "ΣΑΣ" "σαΣ" := by decide
  have hend : SameLetters "ΣΑΣ" "σασ" := by decide
  have hnone : (single "ΣΑΣ").get? "σασ" = none := rfl
  obtain ⟨hsame, hrefused⟩ :=
    (get?_and_add_of_sameLetters hg (by decide) hstart).1 (by decide)
  obtain ⟨-, -, htaken⟩ :=
    (get?_and_add_of_sameLetters hg (by decide) hend).2 (by decide) _ hmem rfl
  exact ⟨hstart, hend, hsame.symm, hrefused _ hmem rfl _ rfl, hnone, htaken hnone _ rfl⟩

/-- Two names that differ only in case and are not the same: one ends with a
capital sigma, and the other one with a small sigma. -/
theorem get?_ne_of_capital_sigma :
    isName "ΑΣ" = true ∧ isName "ασ" = true ∧ SameLetters "ΑΣ" "ασ" ∧
      (single "ΑΣ").Arises ∧
      (single "ΑΣ").get? "ΑΣ" = some (.item (.ofKind .flag "ΑΣ")) ∧
      (single "ΑΣ").get? "ασ" = none ∧
      ∃ g, add (.item (.ofKind .text "ασ")) (single "ΑΣ") = .ok () g :=
  ⟨by decide, by decide, by decide, arises_single (by decide), rfl, rfl, _, rfl⟩

end UiMarkup.Group
