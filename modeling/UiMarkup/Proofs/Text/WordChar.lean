import UiMarkup.Text.WordChar
import UiMarkup.Proofs.Text.Lowercase

/-!
# UiMarkup.Proofs.Text.WordChar

The lowercase of word characters.  A character is a word character exactly if
its lowercase is, but for two capital letters.  Those are new in Unicode 17.0,
of which the table of lowercase characters is; the table of word characters is
of Unicode 16.0 and has their small letters only.

The table of lowercase characters is checked run by run.  Nearly every run lies
within one stretch of word characters or of others, and so does its lowercase;
then only the first characters are looked up.

* `stretch`: what a code point and those that follow it are;
* `isWordChar_of_mem_lowerChar_iff`: the lowercase of one character;
* `lowercase_ne_of_mem`: that of a text.
-/

namespace UiMarkup.Text

/-! ## stretches -/

/-- Whether `n` lies in one of the ranges of a table, and the end of the stretch
of code points for which that is the same. -/
def stretch (n : Nat) : List Range → Bool × Nat
  | [] => (false, 0x110000)
  | r :: rest =>
    bif Nat.ble n r.2 then bif Nat.ble r.1 n then (true, r.2 + 1) else (false, r.1)
    else stretch n rest

/-- Every range has at least one code point. -/
def Proper (rs : List Range) : Prop :=
  ∀ r ∈ rs, r.1 ≤ r.2

theorem stretch_cons (n : Nat) (r : Range) (rest : List Range) :
    stretch n (r :: rest) =
      if n ≤ r.2 then if r.1 ≤ n then (true, r.2 + 1) else (false, r.1) else stretch n rest := by
  simp only [stretch, cond_eq_ite, Nat.ble_eq]

theorem fst_stretch {n : Nat} {rs : List Range} (hproper : Proper rs) :
    (stretch n rs).1 = inRanges n rs := by
  induction rs with
  | nil => rfl
  | cons r rest ih =>
      obtain ⟨hr, hrest⟩ := List.forall_mem_cons.1 hproper
      rw [stretch_cons, inRanges]
      by_cases hlast : n ≤ r.2
      · by_cases hfirst : r.1 ≤ n
        · simp [hlast, hfirst, Nat.not_lt.2 hfirst]
        · simp [hlast, hfirst, Nat.lt_of_not_le hfirst]
      · have hfirst : ¬ n < r.1 := by omega
        simp [hlast, hfirst, ih hrest]

/-- Up to the end of its stretch, code points are in the ranges exactly if the
first one is. -/
theorem inRanges_of_lt_stretch {n m : Nat} {rs : List Range} (hproper : Proper rs) (hle : n ≤ m)
    (hlt : m < (stretch n rs).2) : inRanges m rs = (stretch n rs).1 := by
  induction rs with
  | nil => rfl
  | cons r rest ih =>
      obtain ⟨hr, hrest⟩ := List.forall_mem_cons.1 hproper
      rw [stretch_cons] at hlt ⊢
      by_cases hlast : n ≤ r.2
      · rw [if_pos hlast] at hlt ⊢
        by_cases hfirst : r.1 ≤ n
        · rw [if_pos hfirst] at hlt ⊢
          simp [inRanges, Nat.not_lt.2 (Nat.le_trans hfirst hle), Nat.le_of_lt_succ hlt]
        · rw [if_neg hfirst] at hlt ⊢
          rw [inRanges, if_pos hlt]
      · rw [if_neg hlast] at hlt ⊢
        have hfirst : ¬ m < r.1 := by omega
        have hlast' : ¬ m ≤ r.2 := by omega
        simp [inRanges, hfirst, hlast', ih hrest hlt]

/-! ## the tables -/

/-- The capital letters that are no word characters while their lowercase is:
U+A7D2 and U+A7D4, which Unicode 17.0 added for small letters of older
versions. -/
def lateCapitals : List Char := ['\uA7D2', '\uA7D4']

/-- Whether the characters of a run, late capitals apart, are word characters
exactly if their lowercase is. -/
def CaseRun.keepsWords (run : CaseRun) : Bool :=
  let steps := run.last - run.first
  (match stretch run.first wordRanges, stretch run.target wordRanges with
    | (isWord, stop), (isWord', stop') =>
      isWord == isWord' && Nat.blt run.last stop && Nat.blt (run.target + steps) stop') ||
  (List.range (steps + 1)).all fun k =>
    k % run.step != 0 ||
      (stretch (run.first + k) wordRanges).1 == (stretch (run.target + k) wordRanges).1 ||
      lateCapitals.any fun c => c.toNat == run.first + k

theorem keepsWords_of_mem_caseRuns : ∀ run ∈ caseRuns, run.keepsWords = true := by
  have h : caseRuns.all CaseRun.keepsWords = true := by decide +kernel
  exact List.all_eq_true.1 h

/-- Whether the range is one of characters, without surrogates. -/
def areChars (r : Range) : Bool :=
  Nat.ble r.1 r.2 && (Nat.blt r.2 0xD800 || (Nat.blt 0xDFFF r.1 && Nat.blt r.2 0x110000))

theorem areChars_of_mem_wordRanges : ∀ r ∈ wordRanges, areChars r = true := by
  have h : wordRanges.all areChars = true := by decide +kernel
  exact List.all_eq_true.1 h

theorem proper_wordRanges : Proper wordRanges := by
  intro r hr
  have hchars := areChars_of_mem_wordRanges r hr
  rw [areChars, Bool.and_eq_true, Nat.ble_eq] at hchars
  exact hchars.1

theorem isValidChar_of_inRanges {n : Nat} (h : inRanges n wordRanges = true) : n.isValidChar := by
  obtain ⟨r, hr, hfirst, hlast⟩ := exists_of_inRanges h
  have hchars := areChars_of_mem_wordRanges r hr
  simp only [areChars, Bool.and_eq_true, Bool.or_eq_true, Nat.blt_eq] at hchars
  omega

theorem isWordChar_ofNat (n : Nat) : isWordChar (Char.ofNat n) = inRanges n wordRanges := by
  by_cases hvalid : n.isValidChar
  · rw [isWordChar, Char.ofNat, dif_pos hvalid]
    rfl
  · rw [isWordChar, Char.ofNat, dif_neg hvalid,
      Bool.eq_false_iff.2 fun h => hvalid (isValidChar_of_inRanges h)]
    rfl

/-! ## one character -/

/-- The lowercase of a code point is found in a run, or is the code point. -/
theorem lowerCodePoint_cases (n : Nat) (runs : List CaseRun) :
    lowerCodePoint n runs = n ∨ ∃ run ∈ runs, run.first ≤ n ∧ n ≤ run.last ∧
      (n - run.first) % run.step = 0 ∧
        lowerCodePoint n runs = run.target + (n - run.first) := by
  induction runs with
  | nil => exact .inl rfl
  | cons run rest ih =>
      rw [lowerCodePoint]
      split
      · exact .inl rfl
      · next hfirst =>
        split
        · next hlast =>
          exact .inr ⟨run, List.mem_cons_self, Nat.le_of_not_lt hfirst, hlast.1, hlast.2, rfl⟩
        · refine ih.imp_right ?_
          rintro ⟨run', hmem, h⟩
          exact ⟨run', List.mem_cons_of_mem _ hmem, h⟩

/-- In a run that keeps words, a character is one exactly if its lowercase is. -/
theorem inRanges_target {run : CaseRun} (hrun : run.keepsWords = true) {n : Nat}
    (hfirst : run.first ≤ n) (hlast : n ≤ run.last) (hstep : (n - run.first) % run.step = 0)
    (hlate : ∀ c ∈ lateCapitals, c.toNat ≠ n) :
    inRanges (run.target + (n - run.first)) wordRanges = inRanges n wordRanges := by
  rw [CaseRun.keepsWords, Bool.or_eq_true] at hrun
  rcases hrun with hends | hmembers
  · simp only [Bool.and_eq_true, beq_iff_eq, Nat.blt_eq] at hends
    obtain ⟨⟨hsame, hsource⟩, htarget⟩ := hends
    rw [inRanges_of_lt_stretch proper_wordRanges hfirst (by omega),
      inRanges_of_lt_stretch proper_wordRanges (Nat.le_add_right _ _) (by omega), hsame]
  · have hk : n - run.first ∈ List.range (run.last - run.first + 1) :=
      List.mem_range.2 (by omega)
    have hmember := List.all_eq_true.1 hmembers _ hk
    have heq : run.first + (n - run.first) = n := by omega
    rw [heq, fst_stretch proper_wordRanges, fst_stretch proper_wordRanges] at hmember
    simp only [hstep, bne_self_eq_false, Bool.false_or, Bool.or_eq_true, beq_iff_eq,
      List.any_eq_true] at hmember
    rcases hmember with hsame | ⟨c, hc, hcn⟩
    · exact hsame.symm
    · exact absurd hcn (hlate c hc)

theorem inRanges_lowerCodePoint {n : Nat} (hlate : ∀ c ∈ lateCapitals, c.toNat ≠ n) :
    inRanges (lowerCodePoint n caseRuns) wordRanges = inRanges n wordRanges := by
  obtain h | ⟨run, hmem, hfirst, hlast, hstep, h⟩ := lowerCodePoint_cases n caseRuns
  · rw [h]
  · rw [h]
    exact inRanges_target (keepsWords_of_mem_caseRuns run hmem) hfirst hlast hstep hlate

/-- The lowercase of a character is made of word characters exactly if the
character is one, unless it is a late capital. -/
theorem isWordChar_of_mem_lowerChar_iff {c : Char} (hlate : c ∉ lateCapitals) :
    (∀ x ∈ lowerChar c, isWordChar x = true) ↔ isWordChar c = true := by
  rw [lowerChar]
  split
  · next hc =>
    subst hc
    have hi : isWordChar 'i' = true := by decide
    have hdot : isWordChar '\u0307' = true := by decide
    exact iff_of_true (by simp [hi, hdot]) (by decide)
  · have hne : ∀ d ∈ lateCapitals, d.toNat ≠ c.toNat := by
      rintro d hd heq
      exact hlate (Char.toNat_inj.1 heq ▸ hd)
    rw [List.forall_mem_singleton, isWordChar_ofNat, inRanges_lowerCodePoint hne, isWordChar]

theorem isWordChar_of_mem_lowerChar {c x : Char} (hc : isWordChar c = true)
    (hx : x ∈ lowerChar c) : isWordChar x = true := by
  have hlate : c ∉ lateCapitals := by
    have hthorn : isWordChar '\uA7D2' = false := by decide +kernel
    have hwynn : isWordChar '\uA7D4' = false := by decide +kernel
    intro hmem
    rcases List.mem_pair.1 hmem with rfl | rfl
    · exact Bool.noConfusion (hc.symm.trans hthorn)
    · exact Bool.noConfusion (hc.symm.trans hwynn)
  exact (isWordChar_of_mem_lowerChar_iff hlate).2 hc x hx

/-! ## a text -/

theorem isWordChar_of_mem_lowerChars {before cs : List Char}
    (hcs : ∀ c ∈ cs, isWordChar c = true) : ∀ x ∈ lowerChars before cs, isWordChar x = true := by
  induction cs generalizing before with
  | nil => simp [lowerChars]
  | cons c cs ih =>
      obtain ⟨hc, hcs⟩ := List.forall_mem_cons.1 hcs
      rw [lowerChars_cons]
      refine List.forall_mem_append.2 ⟨fun x hx => ?_, ih hcs⟩
      rw [lowerWithin] at hx
      split at hx
      · rw [List.mem_singleton.1 hx]
        decide
      · exact isWordChar_of_mem_lowerChar hc hx

/-- What has a character that is neither a word character nor a late capital
keeps one in its lowercase. -/
theorem exists_mem_lowerChars (before : List Char) {cs : List Char} {c : Char} (hmem : c ∈ cs)
    (hc : isWordChar c = false) (hlate : c ∉ lateCapitals) :
    ∃ x ∈ lowerChars before cs, isWordChar x = false := by
  have hlower : ∃ x ∈ lowerChar c, isWordChar x = false := by
    by_contra hnone
    have hall : ∀ x ∈ lowerChar c, isWordChar x = true := fun x hx => by
      by_contra hx'
      exact hnone ⟨x, hx, Bool.eq_false_iff.2 hx'⟩
    simp [(isWordChar_of_mem_lowerChar_iff hlate).1 hall] at hc
  have hsigma : c ≠ 'Σ' := by
    rintro rfl
    exact absurd hc (by decide)
  obtain ⟨x, hx, hxc⟩ := hlower
  refine ⟨x, ?_, hxc⟩
  induction cs generalizing before with
  | nil => cases hmem
  | cons d cs ih =>
      rw [lowerChars_cons, List.mem_append]
      rcases List.mem_cons.1 hmem with rfl | hmem
      · exact .inl (by simpa [lowerWithin, hsigma] using hx)
      · exact .inr (ih _ hmem)

/-- A text of word characters does not have the lowercase of a text with any
other character, late capitals apart. -/
theorem lowercase_ne_of_mem {s t : String} (hs : ∀ c ∈ s.toList, isWordChar c = true) {c : Char}
    (hmem : c ∈ t.toList) (hc : isWordChar c = false) (hlate : c ∉ lateCapitals) :
    lowercase s ≠ lowercase t := by
  rw [lowercase, lowercase, ne_eq, String.ofList_inj]
  intro heq
  obtain ⟨x, hx, hxc⟩ := exists_mem_lowerChars [] hmem hc hlate
  rw [isWordChar_of_mem_lowerChars hs x (heq ▸ hx)] at hxc
  cases hxc

end UiMarkup.Text
