import Mathlib.Data.List.Forall2
import UiMarkup.Text.Lowercase

/-!
# UiMarkup.Proofs.Text.Lowercase

When texts that differ only in case have the same lowercase.  Every character
is mapped on its own but for a capital sigma that ends a word, so they have the
same lowercase exactly if they have such sigmas in the same places.

* `SameLetters`: the texts differ only in case;
* `finalSigmas`: where a capital sigma ends a word;
* `SameLetters.lowercase_eq_iff`: when the texts have the same lowercase.
-/

namespace UiMarkup.Text

/-! ## letters and final sigmas -/

/-- The texts have as many characters, and those in the same place have the same
lowercase when they stand alone. -/
def SameLetters (s t : String) : Prop :=
  List.Forall₂ (fun c d => lowerChar c = lowerChar d) s.toList t.toList

instance (s t : String) : Decidable (SameLetters s t) :=
  inferInstanceAs (Decidable (List.Forall₂ _ _ _))

/-- Whether a capital sigma that ends a word stands there, for every character
that follows `before`. -/
def finalSigmas (before : List Char) : List Char → List Bool
  | [] => []
  | c :: after =>
    (decide (c = 'Σ') && isFinalSigma before after) :: finalSigmas (c :: before) after

/-- The lowercase of a character within a text, where it is a capital sigma that
ends a word or not. -/
def lowerWithin (final : Bool) (c : Char) : List Char :=
  if final then ['ς'] else lowerChar c

theorem lowerChar_sigma : lowerChar 'Σ' = ['σ'] := by
  decide

theorem lowerChars_cons (before : List Char) (c : Char) (after : List Char) :
    lowerChars before (c :: after) =
      lowerWithin (decide (c = 'Σ') && isFinalSigma before after) c ++
        lowerChars (c :: before) after := by
  rw [lowerChars]
  by_cases hc : c = 'Σ'
  · subst hc
    cases hfinal : isFinalSigma before after with
    | true => simp [lowerWithin]
    | false => simp [lowerWithin, lowerChar_sigma]
  · simp [lowerWithin, hc]

/-! ## the same lowercase -/

section

variable {c d : Char} {final final' : Bool}

theorem length_lowerWithin (hc : final = true → c = 'Σ') :
    (lowerWithin final c).length = (lowerChar c).length := by
  cases final with
  | false => rfl
  | true => rw [hc rfl, lowerChar_sigma]; rfl

/-- The same letter is written in the same way exactly if it is a final sigma in
both places or in none. -/
theorem lowerWithin_eq_iff (hc : final = true → c = 'Σ') (hd : final' = true → d = 'Σ')
    (h : lowerChar c = lowerChar d) :
    lowerWithin final c = lowerWithin final' d ↔ final = final' := by
  cases final with
  | false =>
      cases final' with
      | false => simp [lowerWithin, h]
      | true => simp [lowerWithin, h, hd rfl, lowerChar_sigma]
  | true =>
      cases final' with
      | false => simp [lowerWithin, ← h, hc rfl, lowerChar_sigma]
      | true => simp [lowerWithin]

end

/-- The same letters have the same lowercase exactly if the same ones are final
sigmas. -/
theorem lowerChars_eq_iff {before before' cs ds : List Char}
    (h : List.Forall₂ (fun c d => lowerChar c = lowerChar d) cs ds) :
    lowerChars before cs = lowerChars before' ds ↔
      finalSigmas before cs = finalSigmas before' ds := by
  induction h generalizing before before' with
  | nil => simp [lowerChars, finalSigmas]
  | @cons c d cs ds hletter _ ih =>
      have hc : (decide (c = 'Σ') && isFinalSigma before cs) = true → c = 'Σ' := by simp +contextual
      have hd : (decide (d = 'Σ') && isFinalSigma before' ds) = true → d = 'Σ' := by
        simp +contextual
      have hlength := (length_lowerWithin hc).trans
        ((congrArg List.length hletter).trans (length_lowerWithin hd).symm)
      rw [lowerChars_cons, lowerChars_cons, finalSigmas, finalSigmas, List.cons.injEq,
        ← lowerWithin_eq_iff hc hd hletter, ← ih]
      constructor
      · exact fun heq => List.append_inj heq hlength
      · rintro ⟨hhead, htail⟩
        rw [hhead, htail]

/-- **Texts that differ only in case have the same lowercase exactly if they have
final sigmas in the same places.** -/
theorem SameLetters.lowercase_eq_iff {s t : String} (h : SameLetters s t) :
    lowercase s = lowercase t ↔ finalSigmas [] s.toList = finalSigmas [] t.toList := by
  rw [lowercase, lowercase, String.ofList_inj]
  exact lowerChars_eq_iff h

end UiMarkup.Text
