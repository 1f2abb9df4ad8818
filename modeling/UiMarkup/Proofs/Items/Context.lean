import Mathlib.Logic.Relation
import UiMarkup.Observer.Arena
import UiMarkup.Proofs.Items.Declaration

/-!
# UiMarkup.Proofs.Items.Context

Where options are taken.  While the reader of items goes over the nodes of an
element, it keeps whether an option may follow, and an option goes to the last
entry of the group.  The two agree wherever the reader stands, also inside child
elements, whose nodes are gone over on their own:

* `Point` is where a reading stands, `Moves` how it goes on, `Refuses` where it
  ends, and `rest_eq_error_iff` says that it fails at the points it comes to;
* `Coherent` is what is known at a point, and `Coherent.moves` that it is kept;
* `options_in_context`: options go to the choice they stand behind, and exactly
  those that stand behind none are misplaced.
-/

namespace UiMarkup.Items

open Observer (Arena Storage)

variable {S ω : Type} [Storage S ω]

/-! ## the points of a reading -/

/-- Where the reading of an element stands: the name of the element, the nodes
behind, what is declared by then, and the nodes ahead. -/
structure Point (S ω : Type) where
  parent : String
  before : List Node
  declared : Declared S ω
  after : List Node

namespace Point

/-- In front of all nodes of an element that declares a group. -/
def start (parent : String) (g : Group S ω) (nodes : List Node) : Point S ω :=
  ⟨parent, [], ⟨g, false⟩, nodes⟩

/-- What comes of the nodes ahead. -/
def rest (dialect : Dialect) (p : Point S ω) : Except Error (Declared S ω) :=
  takeNodes dialect p.parent p.declared p.after

/-- How a reading goes on: behind a node that is taken in, and into a child
element whose group is admitted. -/
inductive Moves (dialect : Dialect) : Point S ω → Point S ω → Prop
  | next {parent : String} {before after : List Node} {d d' : Declared S ω} {x : Node}
      (h : takeNode dialect parent d x = .ok d') :
      Moves dialect ⟨parent, before, d, x :: after⟩ ⟨parent, before ++ [x], d', after⟩
  | enter {parent name : String} {before after nodes : List Node} {d : Declared S ω}
      {g inner : Group S ω} (h : admitGroup dialect parent d.group name = .ok (g, inner)) :
      Moves dialect ⟨parent, before, d, .elem name nodes :: after⟩ (start name inner nodes)

/-- Where a reading ends: the node ahead is refused, not counting the nodes
inside it. -/
inductive Refuses (dialect : Dialect) : Point S ω → Error → Prop
  | attr {parent : String} {before after : List Node} {d : Declared S ω} {a : Attribute}
      {e : Error} (h : takeNode dialect parent d (.attr a) = .error e) :
      Refuses dialect ⟨parent, before, d, .attr a :: after⟩ e
  | group {parent name : String} {before after nodes : List Node} {d : Declared S ω} {e : Error}
      (h : admitGroup dialect parent d.group name = .error e) :
      Refuses dialect ⟨parent, before, d, .elem name nodes :: after⟩ e

/-- The reading of an element into a group comes to this point, in the element
or in one inside it. -/
def Reached (dialect : Dialect) (element : Element) (g : Group S ω) (p : Point S ω) : Prop :=
  Relation.ReflTransGen (Moves dialect) (start element.name g element.nodes) p

variable {dialect : Dialect} {p q : Point S ω} {e : Error}

theorem rest_cons (parent : String) (before after : List Node) (d : Declared S ω) (x : Node) :
    rest dialect ⟨parent, before, d, x :: after⟩ =
      takeNode dialect parent d x >>= fun d' =>
        rest dialect ⟨parent, before ++ [x], d', after⟩ := by
  rw [rest, takeNodes]
  rfl

/-- A refusal ends the reading. -/
theorem Refuses.rest (h : p.Refuses dialect e) : p.rest dialect = .error e := by
  cases h with
  | attr h => rw [rest_cons, h, error_bind]
  | group h => rw [rest_cons, takeNode, h, error_bind, error_bind]

/-- A failure further on is a failure from here. -/
theorem Moves.rest_eq_error (h : Moves dialect p q) (hq : q.rest dialect = .error e) :
    p.rest dialect = .error e := by
  cases h with
  | next h => rw [rest_cons, h, ok_bind, hq]
  | @enter _ name _ _ nodes _ g inner h =>
      have hinside : takeNodes dialect name ⟨inner, false⟩ nodes = .error e := hq
      rw [rest_cons, takeNode, h, ok_bind]
      dsimp only
      rw [hinside, error_bind, error_bind]

/-- A reading that fails is refused where it stands, or fails from the next point
on, with fewer nodes ahead. -/
theorem refuses_or_moves_of_rest_eq_error (h : p.rest dialect = .error e) :
    p.Refuses dialect e ∨
      ∃ q, Moves dialect p q ∧ sizeOf q.after < sizeOf p.after ∧ q.rest dialect = .error e := by
  obtain ⟨parent, before, d, after⟩ := p
  cases after with
  | nil => cases h
  | cons x after =>
      rw [rest_cons, bind_eq_error] at h
      obtain hx | ⟨d', hx, h⟩ := h
      · cases x with
        | attr a => exact .inl (.attr hx)
        | elem name nodes =>
            rw [takeNode, bind_eq_error] at hx
            obtain hgroup | ⟨⟨g, inner⟩, hgroup, hx⟩ := hx
            · exact .inl (.group hgroup)
            · have hlt := Node.sizeOf_lt_of_mem (List.mem_cons_self : .elem name nodes ∈ _ :: after)
              obtain hinside | ⟨_, -, hok⟩ := bind_eq_error.1 hx
              · exact .inr ⟨_, .enter hgroup, hlt, hinside⟩
              · cases hok
      · have hlt : sizeOf after < sizeOf (x :: after) := by
          rw [List.cons.sizeOf_spec]
          omega
        exact .inr ⟨_, .next hx, hlt, h⟩

/-- **A reading fails where it stands**: from a point it ends in an error
exactly if it comes to a point where the node ahead is refused by that error. -/
theorem rest_eq_error_iff :
    p.rest dialect = .error e ↔
      ∃ q, Relation.ReflTransGen (Moves dialect) p q ∧ q.Refuses dialect e := by
  constructor
  · intro h
    induction hsize : sizeOf p.after using Nat.strongRecOn generalizing p with
    | _ size ih =>
        obtain hrefuses | ⟨next, hmove, hlt, hnext⟩ := refuses_or_moves_of_rest_eq_error h
        · exact ⟨p, .refl, hrefuses⟩
        · obtain ⟨q, hq, hrefuses⟩ := ih _ (hsize ▸ hlt) hnext rfl
          exact ⟨q, .head hmove hq, hrefuses⟩
  · intro h
    obtain ⟨q, hq, hrefuses⟩ := h
    induction hq using Relation.ReflTransGen.head_induction_on with
    | refl => exact hrefuses.rest
    | head hmove _ ih => exact hmove.rest_eq_error ih

/-- A reading that succeeds comes to the end of its element. -/
theorem moves_of_rest_eq_ok {d : Declared S ω} (h : p.rest dialect = .ok d) :
    Relation.ReflTransGen (Moves dialect) p ⟨p.parent, p.before ++ p.after, d, []⟩ := by
  obtain ⟨parent, before, start, after⟩ := p
  induction after generalizing before start with
  | nil =>
      rw [← Except.ok.inj h, List.append_nil]
  | cons x after ih =>
      rw [rest_cons, bind_eq_ok] at h
      obtain ⟨d', hx, h⟩ := h
      have hmore := ih (before ++ [x]) d' h
      rw [List.append_assoc, List.singleton_append] at hmore
      exact .head (.next hx) hmore

end Point

/-! ## behind a choice -/

/-- The nodes behind end with an attribute that declares a choice and others
that add options, and the last entry is that choice with those options. -/
structure EndsWithChoice (separator : String) (choice : Attribute) (options : List Attribute)
    (before : List Node) (g : Group S ω) : Prop where
  behind : ∃ front, before = front ++ .attr choice :: options.map .attr
  declares : opensChoice (.attr choice) = true
  named : ∀ a ∈ options, a.name = "*"
  last : g.last? = some (.item (declaredItem separator choice options))
  kind : (declaredItem separator choice options : Item S ω).kind = .choice

/-- What is known behind these nodes: options are taken exactly if the nodes end
with a choice and options of it, and then that choice is the last entry. -/
structure Coherent (separator : String) (before : List Node) (d : Declared S ω) : Prop where
  takesOptions : d.takesOptions = followsChoice before
  choice : d.takesOptions = true →
    ∃ choice options, EndsWithChoice separator choice options before d.group

/-- What a node does when it is taken in behind these: an option changes the
choice that the nodes behind end with and no other entry, and any other node
leaves all entries as they are and adds the one that it declares. -/
inductive Adds (separator : String) (before : List Node) (d : Declared S ω) :
    Node → Declared S ω → Prop
  | option {choice a : Attribute} {options : List Attribute} (ha : a.name = "*")
      (hopen : d.takesOptions = true)
      (hchoice : EndsWithChoice separator choice options before d.group) :
      Adds separator before d (.attr a)
        ⟨d.group.replaceLast (.item (declaredItem separator choice (options ++ [a]))), true⟩
  | entry {x : Node} {e : Entry S ω} {d' : Declared S ω} (hx : isOption x = false)
      (he : declared? separator [] x = some e) (h : d'.group.entries = d.group.entries ++ [e])
      (hopens : d'.takesOptions = opensChoice x) : Adds separator before d x d'

section

variable {dialect : Dialect} {separator parent : String} {before : List Node}
  {g : Group S ω} {d d' : Declared S ω} {choice a : Attribute} {options : List Attribute} {x : Node}

theorem coherent_nil (separator : String) (g : Group S ω) : Coherent separator [] ⟨g, false⟩ :=
  ⟨rfl, nofun⟩

theorem EndsWithChoice.declaredKind (h : EndsWithChoice separator choice options before g) :
    declaredKind choice = .choice :=
  (declaredKind_of_opensChoice h.declares).2

/-- One more option changes the last entry alone. -/
theorem EndsWithChoice.option (h : EndsWithChoice separator choice options before g)
    (ha : a.name = "*") :
    EndsWithChoice separator choice (options ++ [a]) (before ++ [.attr a])
      (g.replaceLast (.item (declaredItem separator choice (options ++ [a])))) where
  behind := by
    obtain ⟨front, rfl⟩ := h.behind
    exact ⟨front, by simp⟩
  declares := h.declares
  named := List.forall_mem_append.2 ⟨h.named, by simpa using ha⟩
  last := Group.last?_replaceLast _ _
  kind := (kind_declaredItem _ _ _).trans h.declaredKind

/-- An attribute that declares a choice is itself what the nodes end with. -/
theorem endsWithChoice_of_last (ha : opensChoice (.attr a) = true)
    (hlast : g.last? = some (.item (declaredItem separator a []))) :
    EndsWithChoice separator a [] (before ++ [.attr a]) g where
  behind := ⟨before, rfl⟩
  declares := ha
  named := nofun
  last := hlast
  kind := (kind_declaredItem _ _ _).trans (declaredKind_of_opensChoice ha).2

/-! ## one node -/

/-- A child element that is taken in is one more entry. -/
theorem entries_of_takeNode_elem {name : String} {nodes : List Node}
    (h : takeNode dialect parent d (.elem name nodes) = .ok d') :
    ∃ e, declared? dialect.separator [] (.elem name nodes) = some e ∧
      d'.group.entries = d.group.entries ++ [e] ∧ d'.takesOptions = false := by
  obtain ⟨-, g, hg, inner, hinner, rfl⟩ := takeNode_elem_eq_ok_iff_insert.1 h
  obtain ⟨-, rfl⟩ := takeAll_eq_ok_iff.1 hinner
  refine ⟨_, by rw [declared?], ?_, rfl⟩
  -- the group is put in without entries and replaced when they are known
  simp only [Group.replaceLast, Group.entries_of_insert hg, List.dropLast_concat]
  rfl

/-- Taking in a node adds one option, or else one entry. -/
theorem Coherent.adds_of_takeNode (hd : Coherent dialect.separator before d)
    (h : takeNode dialect parent d x = .ok d') : Adds dialect.separator before d x d' := by
  cases x with
  | elem name nodes =>
      obtain ⟨e, he, hentries, hopens⟩ := entries_of_takeNode_elem h
      exact .entry rfl he hentries hopens
  | attr a =>
      rw [takeNode, optionName] at h
      by_cases ha : a.name = "*"
      · rw [if_pos ha] at h
        cases hopen : d.takesOptions with
        | false =>
            rw [hopen] at h
            cases h
        | true =>
            rw [if_pos hopen] at h
            obtain ⟨choice, options, hchoice⟩ := hd.choice hopen
            obtain ⟨-, rfl⟩ := (takeOption_eq_ok_iff_of_last hchoice.declaredKind hchoice.last).1 h
            exact .option ha hopen hchoice
      · rw [if_neg ha, takeItem_eq_ok_iff_insert dialect.separator ha] at h
        obtain ⟨-, g, hg, rfl⟩ := h
        have hdeclared : (declared? dialect.separator [] (.attr a) : Option (Entry S ω)) =
            some (.item (declaredItem dialect.separator a [])) := by
          rw [declared?, if_neg ha]
          rfl
        exact .entry (by simpa using ha) hdeclared (Group.entries_of_insert hg) rfl

/-- What is known behind some nodes is known behind one more. -/
theorem Coherent.of_adds (hd : Coherent separator before d) (h : Adds separator before d x d') :
    Coherent separator (before ++ [x]) d' := by
  cases h with
  | @option choice a options ha hopen hchoice =>
      refine ⟨?_, fun _ => ⟨choice, options ++ [a], hchoice.option ha⟩⟩
      rw [followsChoice_concat, if_pos (by simpa using ha), ← hd.takesOptions, hopen]
  | entry hx he hentries hopens =>
      refine ⟨by rw [followsChoice_concat, hx, hopens]; rfl, fun hopen => ?_⟩
      rw [hopens] at hopen
      cases x with
      | elem name nodes => cases hopen
      | attr a =>
          rw [declared?, if_neg (declaredKind_of_opensChoice hopen).1] at he
          refine ⟨a, [], endsWithChoice_of_last hopen ?_⟩
          rw [Group.last?_of_entries hentries, ← he]
          rfl

end

/-! ## refusals -/

/-- The error says neither that an option is misplaced nor that something else
stands in the place of an entry. -/
def Error.IsPlain : Error → Prop
  | .orphanOption _ | .wrongKind _ _ _ => False
  | _ => True

/-- If the reading fails, its error is a plain one. -/
abbrev FailsPlainly {α : Type} (x : Except Error α) : Prop :=
  FailsOnlyBy Error.IsPlain x

theorem failsPlainly_liftDocument {α : Type} (x : Except Document.Error α) :
    FailsPlainly (liftDocument x) :=
  FailsOnlyBy.mapError (p := fun _ => True) (fun _ _ => trivial) fun _ _ => trivial

section

omit [Storage S ω]

theorem failsPlainly_insert (g : Group S ω) (e : Entry S ω) : FailsPlainly (g.insert e) := by
  intro err h
  rcases Group.insert_eq_error.1 h with ⟨-, rfl⟩ | ⟨-, -, rfl⟩
  · trivial
  · trivial

/-- An item is refused for its name alone, never for what stands in its place. -/
theorem failsPlainly_addItem (g : Group S ω) (i : Item S ω) : FailsPlainly (g.addItem i) := by
  rw [Group.addItem_eq]
  exact (failsPlainly_insert g _).map _

/-- A group is refused for its name alone, never for what stands in its place. -/
theorem failsPlainly_addGroup (g : Group S ω) (name : String) : FailsPlainly (g.addGroup name) := by
  rw [Group.addGroup_eq]
  exact (failsPlainly_insert g _).map _

theorem failsPlainly_admitGroup (dialect : Dialect) (parent name : String) (g : Group S ω) :
    FailsPlainly (admitGroup dialect parent g name) := by
  rw [admitGroup]
  split
  · exact failsPlainly_addGroup g name
  · exact failsOnlyBy_error trivial

end

theorem failsPlainly_takeItem (g : Group S ω) (a : Attribute) : FailsPlainly (takeItem g a) := by
  refine (failsPlainly_liftDocument _).bind fun _ _ => ?_
  refine (failsPlainly_liftDocument _).bind fun tag _ => ?_
  cases Kind.ofTag? tag with
  | none => exact failsOnlyBy_error trivial
  | some kind => exact (failsPlainly_addItem g _).bind fun _ _ => failsOnlyBy_ok _

/-- Where options are taken, an attribute is refused as an option for its values
alone. -/
theorem Coherent.failsPlainly_takeOption {dialect : Dialect} {before : List Node}
    {d : Declared S ω} (hd : Coherent dialect.separator before d)
    (hopen : d.takesOptions = true) (a : Attribute) :
    FailsPlainly (takeOption dialect d.group a) := by
  obtain ⟨choice, options, hchoice⟩ := hd.choice hopen
  rw [takeOption_of_last hchoice.declaredKind hchoice.last]
  refine (failsPlainly_liftDocument _).bind fun _ _ => ?_
  exact (failsPlainly_liftDocument _).bind fun _ _ => failsOnlyBy_ok _

namespace Point

variable {dialect : Dialect} {p q : Point S ω} {e : Error}

/-- The node ahead is to add an option of this value where none may follow. -/
def Misplaces (p : Point S ω) (text : String) : Prop :=
  ∃ a after, p.after = .attr a :: after ∧ a.name = "*" ∧
    p.declared.takesOptions = false ∧ text = firstText a

/-- A misplaced option is refused as such, whatever its values are. -/
theorem Misplaces.refuses {text : String} (h : p.Misplaces text) :
    p.Refuses dialect (.orphanOption text) := by
  obtain ⟨a, after, hafter, ha, hclosed, rfl⟩ := h
  obtain ⟨parent, before, d, _⟩ := p
  obtain rfl := hafter
  simp only at hclosed
  refine .attr ?_
  rw [takeNode, optionName, if_pos ha, hclosed]
  rfl

/-- Nothing else is refused as a misplaced option, or for what stands in the
place of an entry. -/
theorem Refuses.plain_or_misplaces (hp : Coherent dialect.separator p.before p.declared)
    (h : p.Refuses dialect e) :
    e.IsPlain ∨ ∃ text, e = .orphanOption text ∧ p.Misplaces text := by
  cases h with
  | group h => exact .inl (failsPlainly_admitGroup dialect _ _ _ e h)
  | @attr _ _ after d a _ h =>
      rw [takeNode, optionName] at h
      by_cases ha : a.name = "*"
      · rw [if_pos ha] at h
        cases hopen : d.takesOptions with
        | true =>
            rw [if_pos hopen] at h
            exact .inl (hp.failsPlainly_takeOption hopen a e h)
        | false =>
            rw [hopen] at h
            cases h
            exact .inr ⟨_, rfl, a, after, rfl, ha, hopen, rfl⟩
      · rw [if_neg ha] at h
        exact .inl (failsPlainly_takeItem _ a e h)

/-- What is known at one point is known at the next. -/
theorem Moves.coherent (h : Moves dialect p q)
    (hp : Coherent dialect.separator p.before p.declared) :
    Coherent dialect.separator q.before q.declared := by
  cases h with
  | next h => exact hp.of_adds (hp.adds_of_takeNode h)
  | enter h => exact coherent_nil _ _

/-- It is known wherever a reading comes to. -/
theorem Reached.coherent {element : Element} {g : Group S ω} (h : Reached dialect element g p) :
    Coherent dialect.separator p.before p.declared := by
  induction h with
  | refl => exact coherent_nil _ _
  | tail _ hmove ih => exact hmove.coherent ih

end Point

/-! ## readings -/

/-- An element is not read exactly if it comes to a point where the node ahead is
refused. -/
theorem takeNodes_eq_error_iff {dialect : Dialect} {element : Element} {g : Group S ω} {e : Error} :
    takeNodes dialect element.name ⟨g, false⟩ element.nodes = .error e ↔
      ∃ p, Point.Reached dialect element g p ∧ p.Refuses dialect e :=
  Point.rest_eq_error_iff (p := .start element.name g element.nodes)

/-- An element is refused for a misplaced option exactly if its reading comes to
one. -/
theorem takeNodes_eq_orphanOption_iff {dialect : Dialect} {element : Element} {g : Group S ω}
    {text : String} :
    takeNodes dialect element.name ⟨g, false⟩ element.nodes = .error (.orphanOption text) ↔
      ∃ p, Point.Reached dialect element g p ∧ p.Misplaces text := by
  rw [takeNodes_eq_error_iff]
  constructor
  · intro h
    obtain ⟨p, hp, hrefuses⟩ := h
    obtain hplain | ⟨text', heq, hmisplaces⟩ := hrefuses.plain_or_misplaces hp.coherent
    · exact hplain.elim
    · cases heq
      exact ⟨p, hp, hmisplaces⟩
  · intro h
    obtain ⟨p, hp, hmisplaces⟩ := h
    exact ⟨p, hp, hmisplaces.refuses⟩

/-- No store is declared, for a misplaced option, exactly if the element is the
root and its reading comes to one. -/
theorem ofElement_eq_orphanOption_iff {dialect : Dialect} {element : Element} {text : String} :
    ofElement (S := S) dialect element = .error (.orphanOption text) ↔
      element.name = rootName ∧
        ∃ p : Point S ω, Point.Reached dialect element (.empty rootName) p ∧ p.Misplaces text := by
  rw [← takeNodes_eq_orphanOption_iff, ofElement, bind_eq_error, exists_unit]
  constructor
  · intro h
    obtain hname | ⟨hname, h⟩ := h
    · exact (failsPlainly_liftDocument _ _ hname).elim
    · rw [liftDocument, mapError_eq_ok, Element.requireName_eq_ok] at hname
      obtain h | ⟨d, -, h⟩ := bind_eq_error.1 h
      · exact ⟨hname, h⟩
      · cases h
  · intro h
    obtain ⟨hname, h⟩ := h
    refine .inr ⟨?_, ?_⟩
    · rw [liftDocument, mapError_eq_ok, Element.requireName_eq_ok]
      exact hname
    · rw [h, error_bind]

/-- **Options stand behind their choice**: wherever the reading of an element
comes to, options are taken exactly if the nodes behind end with an attribute
that declares a choice and with options of it, and that choice is the last entry
then.  So no option is refused there for want of a choice, and the choice is the
only entry that an option is added to.  A reading that succeeds comes to the end
of its element.  It reports a misplaced option exactly if it comes to one where
none is taken, and what it adds to a group is never found to be something
else. -/
theorem options_in_context (dialect : Dialect) (element : Element) (g : Group S ω) :
    (∀ p, Point.Reached dialect element g p →
      Coherent dialect.separator p.before p.declared ∧
        (p.declared.takesOptions = true → ∀ a text,
          takeOption dialect p.declared.group a ≠ .error (.orphanOption text)) ∧
        ∀ x d, takeNode dialect p.parent p.declared x = .ok d →
          Adds dialect.separator p.before p.declared x d) ∧
    (∀ d, takeNodes dialect element.name ⟨g, false⟩ element.nodes = .ok d →
      Point.Reached dialect element g ⟨element.name, element.nodes, d, []⟩) ∧
    (∀ text, takeNodes dialect element.name ⟨g, false⟩ element.nodes =
        .error (.orphanOption text) ↔
      ∃ p, Point.Reached dialect element g p ∧ p.Misplaces text) ∧
    (∀ text, ofElement (S := S) dialect element = .error (.orphanOption text) ↔
      element.name = rootName ∧
        ∃ p : Point S ω, Point.Reached dialect element (.empty rootName) p ∧ p.Misplaces text) ∧
    ∀ (h : Group S ω) i name sought found path,
      h.addItem i ≠ .error (.wrongKind sought found path) ∧
        h.addGroup name ≠ .error (.wrongKind sought found path) := by
  refine ⟨fun p hp => ⟨hp.coherent, ?_, fun x d h => hp.coherent.adds_of_takeNode h⟩,
    fun d h => Point.moves_of_rest_eq_ok (p := .start element.name g element.nodes) h,
    fun _ => takeNodes_eq_orphanOption_iff, fun _ => ofElement_eq_orphanOption_iff, ?_⟩
  · intro hopen a text h
    exact hp.coherent.failsPlainly_takeOption hopen a _ h
  · intro h i name sought found path
    exact ⟨fun hitem => failsPlainly_addItem h i _ hitem,
      fun hgroup => failsPlainly_addGroup h name _ hgroup⟩

/-- A choice with an option in a group, and behind that group one more option. -/
def strayRoot : Element :=
  ⟨rootName, [.elem "View" [.attr ⟨"Mode", [some "Enum"]⟩, .attr ⟨"*", [some "List"]⟩],
    .attr ⟨"*", [some "Grid"]⟩]⟩

/-- Behind the choice an option is taken, which is no orphan there, and behind
the group the other one is. -/
theorem options_in_context_behind_group :
    (∃ p : Point (Arena Unit) Unit, Point.Reached .standard strayRoot (.empty rootName) p ∧
      p.parent = "View" ∧ p.declared.takesOptions = true ∧ Coherent ":" p.before p.declared ∧
      takeOption .standard p.declared.group ⟨"*", [none]⟩ ≠ .error (.orphanOption "")) ∧
    ofElement (S := Arena Unit) .standard strayRoot = .error (.orphanOption "Grid") := by
  obtain ⟨hpoints, -, -, hroot, -⟩ :=
    options_in_context (S := Arena Unit) .standard strayRoot (.empty rootName)
  refine ⟨?_, (hroot "Grid").2 ⟨rfl, ?_⟩⟩
  · have hinside : Point.Reached .standard strayRoot (.empty rootName)
        (.start "View" (.empty "View" : Group (Arena Unit) Unit) _) := .single (.enter rfl)
    have hp := hinside.tail (.next rfl)
    obtain ⟨hcoherent, haccepted, -⟩ := hpoints _ hp
    exact ⟨_, hp, rfl, rfl, hcoherent, haccepted rfl _ _⟩
  · have hbehind :
        Point.Reached .standard strayRoot (.empty rootName : Group (Arena Unit) Unit) _ :=
      .single (.next rfl)
    exact ⟨_, hbehind, _, _, rfl, rfl, rfl, rfl⟩

end UiMarkup.Items
