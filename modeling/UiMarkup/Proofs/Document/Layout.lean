import UiMarkup.Proofs.Document.Spelling
import UiMarkup.Proofs.Outcome

/-!
# UiMarkup.Proofs.Document.Layout

The ways to lay values out on a line.  White space may stand in front of the
values, separates them and may follow them, and a comment may end the line,
even right behind a value.  Each value is written in one of its spellings.
However the values are laid out, the reader gives them back, and it reads no
other line:

* `LaysOut`: the values of a line from the first one on;
* `SpellsLine`: the values of a whole line;
* `spellsLine_iff_and_spells_writeValue`: the lines that are read as values are
  those that spell them.
-/

namespace UiMarkup.Document

open Text (isBlank)

/-! ## layouts -/

/-- White space inside a line. -/
def IsGap (cs : List Char) : Prop :=
  ∀ c ∈ cs, isBlank c = true ∧ c ≠ '\n'

theorem isGap_nil : IsGap [] :=
  List.forall_mem_nil _

/-- The layouts of values from the first one on.  Behind each value stands
white space, which may be missing only behind the last one, and at the end
there may be a comment. -/
inductive LaysOut : List Value → List Char → Prop
  | nothing : LaysOut [] []
  | comment {text : List Char} (htext : '\n' ∉ text) : LaysOut [] ('#' :: text)
  | value {v : Value} {values : List Value} {cs gap rest : List Char} (hv : Spells v cs)
      (hgap : IsGap gap) (hapart : values ≠ [] → gap ≠ []) (hmore : LaysOut values rest) :
      LaysOut (v :: values) (cs ++ (gap ++ rest))

/-- A line spells values if they are laid out behind white space. -/
def SpellsLine (values : List Value) (line : List Char) : Prop :=
  ∃ lead rest, line = lead ++ rest ∧ IsGap lead ∧ LaysOut values rest

/-! ## what is laid out is read -/

/-- A value may end where the layout goes on without further values, or with
white space. -/
theorem endsValue_of_laysOut {values : List Value} {gap rest : List Char} (hgap : IsGap gap)
    (hapart : values ≠ [] → gap ≠ []) (h : LaysOut values rest) : EndsValue (gap ++ rest) := by
  cases gap with
  | cons c gap => exact endsValue_of_isBlank (hgap c List.mem_cons_self).1 _
  | nil =>
      cases h with
      | nothing => trivial
      | comment => exact .inr rfl
      | value => exact absurd rfl (hapart (List.cons_ne_nil _ _))

/-- Values that are laid out are read. -/
theorem readValues_of_laysOut {values : List Value} {line : List Char} (h : LaysOut values line) :
    readValues line = .ok values := by
  induction h with
  | nothing => rw [readValues]
  | comment => exact readValues_comment _
  | value hv hgap hapart hmore ih =>
      rw [readValues_append_of_spells hv (endsValue_of_laysOut hgap hapart hmore),
        readValues_append_blanks fun c hc => (hgap c hc).1, ih]
      rfl

/-- The values that a line spells are read from it. -/
theorem readValues_of_spellsLine {values : List Value} {line : List Char}
    (h : SpellsLine values line) : readValues line = .ok values := by
  obtain ⟨lead, rest, rfl, hlead, hrest⟩ := h
  rw [readValues_append_blanks fun c hc => (hlead c hc).1, readValues_of_laysOut hrest]

/-- White space inside a line is no line feed. -/
theorem lineFeed_not_mem_of_isGap {cs : List Char} (h : IsGap cs) : '\n' ∉ cs :=
  fun hmem => (h '\n' hmem).2 rfl

/-- What spells values is one line. -/
theorem lineFeed_not_mem_of_spellsLine {values : List Value} {line : List Char}
    (h : SpellsLine values line) : '\n' ∉ line := by
  obtain ⟨lead, rest, rfl, hlead, hrest⟩ := h
  refine mt List.mem_append.1 (not_or.2 ⟨lineFeed_not_mem_of_isGap hlead, ?_⟩)
  induction hrest with
  | nothing => exact List.not_mem_nil
  | comment htext => simpa using htext
  | value hv hgap _ _ ih =>
      simp only [List.mem_append, not_or]
      exact ⟨lineFeed_not_mem_of_spells hv, lineFeed_not_mem_of_isGap hgap, ih⟩

/-! ## what is read is laid out -/

/-- No value begins with what may end one. -/
theorem not_endsValue_of_spells {v : Value} {cs : List Char} (h : Spells v cs)
    (rest : List Char) : ¬ EndsValue (cs ++ rest) := by
  have hbare : ∀ {c : Char} (more : List Char), IsBare c → ¬ EndsValue (c :: more) := by
    rintro c more ⟨hblank, -, hmark⟩ (hends | hends)
    · rw [hblank] at hends
      cases hends
    · exact hmark hends
  cases h with
  | null => exact hbare _ (by simp [IsBare, Text.isBlank_marks])
  | bare hne _ hcs =>
      obtain ⟨c, cs, rfl⟩ := List.exists_cons_of_ne_nil hne
      exact hbare _ (hcs c List.mem_cons_self)
  | quoted cs =>
      rintro (hends | hends)
      · rw [Text.isBlank_marks.1] at hends
        cases hends
      · exact absurd hends (by decide)

/-- One more value in front of a line, at a place where it may end. -/
theorem SpellsLine.cons {v : Value} {values : List Value} {cs rest : List Char}
    (hv : Spells v cs) (hends : EndsValue rest) (h : SpellsLine values rest) :
    SpellsLine (v :: values) (cs ++ rest) := by
  obtain ⟨gap, rest, rfl, hgap, hrest⟩ := h
  refine ⟨[], _, rfl, isGap_nil, .value hv hgap ?_ hrest⟩
  rintro hvalues rfl
  cases hrest with
  | nothing => exact hvalues rfl
  | comment => exact hvalues rfl
  | value hw => exact not_endsValue_of_spells hw _ hends

/-- A bare character in front of a word is read with it. -/
theorem readWord_bare {c : Char} (h : IsBare c) (rest : List Char) :
    readWord (c :: rest) = (readWord rest).map fun r => (c :: r.1, r.2) := by
  obtain ⟨hblank, hquote, hmark⟩ := h
  rw [readWord, if_neg (by simp [hblank]), if_neg hmark, if_neg hquote]
  rfl

/-- A word that is read holds bare characters, and ends where a value may
end. -/
theorem exists_of_readWord {line cs : List Char} {values : List Value}
    (h : readWord line = .ok (cs, values)) :
    ∃ rest, line = cs ++ rest ∧ (∀ c ∈ cs, IsBare c) ∧ EndsValue rest ∧
      readValues rest = .ok values := by
  induction line generalizing cs with
  | nil =>
      rw [readWord] at h
      cases h
      exact ⟨[], rfl, fun _ hc => absurd hc List.not_mem_nil, trivial, by rw [readValues]⟩
  | cons c line ih =>
      by_cases hends : EndsValue (c :: line)
      · rw [readWord_end hends, map_eq_ok] at h
        obtain ⟨_, hvalues, h⟩ := h
        cases h
        exact ⟨_, rfl, fun _ hc => absurd hc List.not_mem_nil, hends, hvalues⟩
      · obtain ⟨hblank, hmark⟩ := not_or.1 hends
        by_cases hquote : c = '"'
        · rw [readWord, if_neg hblank, if_neg hmark, if_pos hquote] at h
          cases h
        · have hc : IsBare c := ⟨by simpa using hblank, hquote, hmark⟩
          rw [readWord_bare hc, map_eq_ok] at h
          obtain ⟨_, hword, h⟩ := h
          cases h
          obtain ⟨rest, rfl, hbare, hrest⟩ := ih hword
          exact ⟨rest, rfl, List.forall_mem_cons.2 ⟨hc, hbare⟩, hrest⟩

/-- Between quotes, the reader closes the value or takes in the written form of
one more character. -/
theorem readQuoted_eq_ok {line cs : List Char} {values : List Value} (hfeed : '\n' ∉ line)
    (h : readQuoted line = .ok (cs, values)) :
    (cs = [] ∧ ∃ rest, line = '"' :: rest ∧ EndsValue rest ∧ readValues rest = .ok values) ∨
      ∃ c more rest, cs = c :: more ∧ line = quotedChar c ++ rest ∧
        readQuoted rest = .ok (more, values) := by
  have hcloses : ∀ rest, line = '"' :: rest → EndsValue rest →
      cs = [] ∧ ∃ rest, line = '"' :: rest ∧ EndsValue rest ∧ readValues rest = .ok values := by
    rintro rest rfl hends
    rw [readQuoted_close hends, map_eq_ok] at h
    obtain ⟨_, hvalues, h⟩ := h
    cases h
    exact ⟨rfl, rest, rfl, hends, hvalues⟩
  have htakes : ∀ c rest, line = quotedChar c ++ rest →
      ∃ c more rest, cs = c :: more ∧ line = quotedChar c ++ rest ∧
        readQuoted rest = .ok (more, values) := by
    rintro c rest rfl
    rw [readQuoted_quotedChar, map_eq_ok] at h
    obtain ⟨_, hmore, h⟩ := h
    cases h
    exact ⟨c, _, rest, rfl, rfl, hmore⟩
  have hread := h
  rw [readQuoted.eq_def] at hread
  split at hread
  · cases hread
  · exact .inl (hcloses [] rfl trivial)
  · next rest => exact .inr (htakes '"' rest rfl)
  · next rest => exact .inr (htakes '\n' rest rfl)
  · cases hread
  · next c rest _ _ =>
    split at hread
    · next hblank => exact .inl (hcloses _ rfl (.inl hblank))
    · split at hread
      · next hmark => exact .inl (hcloses _ rfl (.inr hmark))
      · cases hread
  · next c rest hlone _ _ _ hother =>
    have hquote : c ≠ '"' := by
      intro hc
      cases rest with
      | nil => exact hlone hc rfl
      | cons d rest => exact hother d rest hc rfl
    have hc : c ≠ '\n' := fun hc => hfeed (hc ▸ List.mem_cons_self)
    exact .inr (htakes c rest (by rw [quotedChar, if_neg hquote, if_neg hc]; rfl))

/-- A value between quotes that is read is written so, and ends where a value
may end. -/
theorem exists_of_readQuoted {line cs : List Char} {values : List Value} (hfeed : '\n' ∉ line)
    (h : readQuoted line = .ok (cs, values)) :
    ∃ rest, line = cs.flatMap quotedChar ++ '"' :: rest ∧ EndsValue rest ∧
      readValues rest = .ok values := by
  induction cs generalizing line with
  | nil =>
      obtain ⟨-, rest, rfl, hrest⟩ | ⟨_, _, _, hcs, -⟩ := readQuoted_eq_ok hfeed h
      · exact ⟨rest, rfl, hrest⟩
      · cases hcs
  | cons c cs ih =>
      obtain ⟨hcs, -⟩ | ⟨_, _, rest, hcs, rfl, hmore⟩ := readQuoted_eq_ok hfeed h
      · cases hcs
      · cases hcs
        obtain ⟨rest, rfl, hrest⟩ := ih (fun hmem => hfeed (List.mem_append_right _ hmem)) hmore
        exact ⟨rest, by rw [List.flatMap_cons, List.append_assoc], hrest⟩

/-- A word that is read is a spelling of its value. -/
theorem spells_wordValue {cs : List Char} (hne : cs ≠ []) (hbare : ∀ c ∈ cs, IsBare c) :
    Spells (wordValue cs) cs := by
  rw [wordValue]
  split
  · next hdash =>
    subst hdash
    exact .null
  · next hdash => exact .bare hne hdash hbare

/-- White space in front of a line that spells values. -/
theorem SpellsLine.blank {values : List Value} {line : List Char} {c : Char}
    (hc : isBlank c = true ∧ c ≠ '\n') (h : SpellsLine values line) :
    SpellsLine values (c :: line) := by
  obtain ⟨lead, rest, rfl, hlead, hrest⟩ := h
  exact ⟨c :: lead, rest, rfl, List.forall_mem_cons.2 ⟨hc, hlead⟩, hrest⟩

/-- The reader passes by white space, stops at the end or at a comment, or takes
in a spelling of the first value. -/
theorem readValues_eq_ok {line : List Char} {values : List Value} (hfeed : '\n' ∉ line)
    (h : readValues line = .ok values) :
    (values = [] ∧ LaysOut [] line) ∨
      (∃ c rest, line = c :: rest ∧ isBlank c = true ∧ readValues rest = .ok values) ∨
      ∃ v more cs rest, values = v :: more ∧ line = cs ++ rest ∧ Spells v cs ∧ EndsValue rest ∧
        readValues rest = .ok more := by
  cases line with
  | nil =>
      rw [readValues] at h
      cases h
      exact .inl ⟨rfl, .nothing⟩
  | cons c line =>
      have hline : '\n' ∉ line := fun hmem => hfeed (List.mem_cons_of_mem _ hmem)
      by_cases hblank : isBlank c = true
      · rw [readValues_blank hblank] at h
        exact .inr (.inl ⟨c, line, rfl, hblank, h⟩)
      · rw [readValues, if_neg hblank] at h
        split at h
        · next hmark =>
          cases h
          subst hmark
          exact .inl ⟨rfl, .comment hline⟩
        · next hmark =>
          refine .inr (.inr ?_)
          split at h
          · next hquote =>
            obtain ⟨⟨cs, _⟩, hquoted, h⟩ := bind_eq_ok.1 h
            cases h
            obtain ⟨rest, rfl, hends, hvalues⟩ := exists_of_readQuoted hline hquoted
            exact ⟨_, _, _, rest, rfl, by simp [hquote], .quoted cs, hends, hvalues⟩
          · next hquote =>
            obtain ⟨⟨cs, _⟩, hword, h⟩ := bind_eq_ok.1 h
            cases h
            obtain ⟨rest, rfl, hbare, hends, hvalues⟩ := exists_of_readWord hword
            have hspells := spells_wordValue (List.cons_ne_nil c cs)
              (List.forall_mem_cons.2 ⟨⟨by simpa using hblank, hquote, hmark⟩, hbare⟩)
            exact ⟨_, _, _, rest, rfl, rfl, hspells, hends, hvalues⟩

/-- A line that is read spells the values that are read from it. -/
theorem spellsLine_of_readValues {line : List Char} {values : List Value} (hfeed : '\n' ∉ line)
    (h : readValues line = .ok values) : SpellsLine values line := by
  induction hlength : line.length using Nat.strongRecOn generalizing line values with
  | ind n ih =>
  subst hlength
  obtain ⟨rfl, hlast⟩ | ⟨c, rest, rfl, hblank, hrest⟩ |
    ⟨v, more, cs, rest, rfl, rfl, hv, hends, hmore⟩ := readValues_eq_ok hfeed h
  · exact ⟨[], line, rfl, isGap_nil, hlast⟩
  · obtain ⟨hc, hfeed⟩ := not_or.1 (mt List.mem_cons.2 hfeed)
    exact .blank ⟨hblank, fun heq => hc heq.symm⟩
      (ih _ (Nat.lt_succ_self _) hfeed hrest rfl)
  · have hne : cs ≠ [] := by
      rintro rfl
      exact not_endsValue_of_spells hv rest hends
    have hlt : rest.length < (cs ++ rest).length := by
      have := List.length_pos_iff.2 hne
      rw [List.length_append]
      omega
    exact .cons hv hends (ih _ hlt (fun hmem => hfeed (List.mem_append_right _ hmem)) hmore rfl)

/-- The lines that are read as values are those that spell them. -/
theorem spellsLine_iff {values : List Value} {line : List Char} :
    SpellsLine values line ↔ '\n' ∉ line ∧ readValues line = .ok values :=
  ⟨fun h => ⟨lineFeed_not_mem_of_spellsLine h, readValues_of_spellsLine h⟩,
    fun h => spellsLine_of_readValues h.1 h.2⟩

/-- **Reading spelled values**: the lines that are read as some values are
exactly those that spell these values, however they are laid out, and the
writer gives every value one of its spellings. -/
theorem spellsLine_iff_and_spells_writeValue (values : List Value) (line : List Char) :
    (SpellsLine values line ↔ '\n' ∉ line ∧ readValues line = .ok values) ∧
      ∀ v, Spells v (writeValue v) :=
  ⟨spellsLine_iff, spells_writeValue⟩

/-- A line feed between two quotes and a slash, in one value with nothing to
tell their spellings apart, and a comment right behind it. -/
example : SpellsLine [none, some "\"\n\"/"] " -\t\"\"\"\"/\"\"\"/\"#b".toList := by
  rw [spellsLine_iff]
  decide

end UiMarkup.Document
