import VectorIcon.Proofs.Component.Source
import VectorIcon.Proofs.OrderedMap
import VectorIcon.Proofs.Text.Trimmed

/-!
What every component that the reader accepts has in common, however its source is laid out. The
trees are readable again up to one point: a style name is trimmed after it has been read, and a
name that is all white space of the kinds the grammar does not skip is then empty.
-/

namespace VectorIcon.Component

structure IsReadEntry (entry : String × String) : Prop where
  trimmed : Text.trim entry.1.toList = entry.1.toList
  accepted : entry.1.toList.all isStyleNameChar = true
  value : '\'' ∉ entry.2.toList

inductive IsReadProperty : String × PropertyValue → Prop
  | text {name text : String} (named : IsName name.toList) (unquoted : '"' ∉ text.toList) :
      IsReadProperty (name, .text text)
  | style {style : Style} (entries : ∀ entry ∈ style.entries, IsReadEntry entry) :
      IsReadProperty ("style", .style style)

structure IsRead (tag : String) (properties : Properties) : Prop where
  tag : IsName tag.toList
  properties : ∀ entry ∈ properties.entries, IsReadProperty entry

def NamesEntries : PropertyValue → Prop
  | .text _ => True
  | .style style => ∀ entry ∈ style.entries, entry.1 ≠ ""

def NamesStyles (_ : String) (properties : Properties) : Prop :=
  ∀ entry ∈ properties.entries, NamesEntries entry.2

instance : (value : PropertyValue) → Decidable (NamesEntries value)
  | .text _ => inferInstanceAs (Decidable True)
  | .style style => inferInstanceAs (Decidable (∀ entry ∈ style.entries, entry.1 ≠ ""))

instance (tag : String) (properties : Properties) : Decidable (NamesStyles tag properties) :=
  inferInstanceAs (Decidable (∀ entry ∈ properties.entries, NamesEntries entry.2))

theorem isReadable_iff {tag : String} {properties : Properties} (read : IsRead tag properties) :
    IsReadable tag properties ↔ NamesStyles tag properties := by
  constructor
  · intro readable entry member
    cases readable.properties entry member with
    | text _ _ => trivial
    | style entries =>
        intro inner inside empty
        apply (entries inner inside).name.nonempty
        simp [empty]
  · intro named
    refine ⟨read.tag, ?_⟩
    intro entry member
    have entries := named entry member
    cases read.properties entry member with
    | text legal unquoted => exact .text legal unquoted
    | style kept =>
        apply IsProperty.style
        intro inner inside
        have innerRead := kept inner inside
        have nonempty : inner.1.toList ≠ [] := by simpa using entries inner inside
        exact ⟨⟨nonempty, innerRead.trimmed, innerRead.accepted⟩, innerRead.value⟩

mutual
def WrittenElement.Accepted : WrittenElement → Prop
  | ⟨tag, _, properties, children, _⟩ =>
      IsName tag.toList ∧ (∀ entry ∈ properties, IsReadProperty entry) ∧ AcceptedForest children

def AcceptedForest : List WrittenElement → Prop
  | [] => True
  | written :: rest => written.Accepted ∧ AcceptedForest rest
end

theorem acceptedForest_of_forall {forest : List WrittenElement}
    (accepted : ∀ written ∈ forest, written.Accepted) : AcceptedForest forest := by
  induction forest with
  | nil => trivial
  | cons written rest ih =>
      constructor
      · exact accepted written (by simp)
      · exact ih fun other member => accepted other (by simp [member])

namespace Parser

variable {α β : Type}

/-- Wherever the parser succeeds, its value has the property. -/
def Gives (parser : Parser α) (holds : α → Prop) : Prop :=
  ∀ cursor value behind, run parser cursor = some (value, behind) → holds value

variable {holds : α → Prop} {later : β → Prop}

theorem gives_true (parser : Parser α) : Gives parser fun _ => True := by
  intro cursor value behind _
  trivial

theorem gives_fail : Gives (fail : Parser α) holds := by
  intro cursor value behind found
  simp at found

theorem gives_pure {value : α} (held : holds value) : Gives (pure value) holds := by
  intro cursor other behind found
  simp only [run_pure, Option.some.injEq, Prod.mk.injEq] at found
  exact found.1 ▸ held

theorem Gives.bind {first : Parser α} {next : α → Parser β} (given : Gives first holds)
    (continued : ∀ value, holds value → Gives (next value) later) :
    Gives (first >>= next) later := by
  intro cursor value behind found
  rw [run_bind, Option.bind_eq_some_iff] at found
  obtain ⟨⟨taken, between⟩, firstFound, nextFound⟩ := found
  exact continued taken (given cursor taken between firstFound) between value behind nextFound

theorem gives_then {first : Parser α} {next : α → Parser β}
    (continued : ∀ value, Gives (next value) later) : Gives (first >>= next) later :=
  (gives_true first).bind fun value _ => continued value

theorem Gives.orElse {first second : Parser α} (given : Gives first holds)
    (other : Gives second holds) : Gives (orElse first second) holds := by
  intro cursor value behind found
  rw [run_orElse, Option.or_eq_some_iff] at found
  rcases found with taken | ⟨_, taken⟩
  · exact given cursor value behind taken
  · exact other cursor value behind taken

theorem Gives.rule {body : Parser α} (given : Gives body holds) (name : Rule) :
    Gives (rule name body) holds := by
  intro cursor value behind found
  rw [run_rule] at found
  exact given cursor value behind found

theorem Gives.located {body : Parser α} (given : Gives body holds) :
    Gives (located body) fun result => holds result.1 := by
  intro cursor value behind found
  rw [run_located, Option.map_eq_some_iff] at found
  obtain ⟨⟨taken, last⟩, taking, same⟩ := found
  cases same
  exact given cursor taken last taking

theorem Gives.spaced {body : Parser α} (given : Gives body holds) : Gives (spaced body) holds :=
  gives_then fun _ => given

theorem Gives.repeated {body : Parser α} (given : Gives body holds) (bound : Nat) :
    Gives (repeated body bound) fun values => ∀ value ∈ values, holds value := by
  have stopped : Gives (succeed ([] : List α)) fun values => ∀ value ∈ values, holds value :=
    gives_pure (by simp)
  induction bound with
  | zero => exact stopped
  | succ bound ih =>
      refine Gives.orElse ?_ stopped
      refine given.spaced.bind fun first held => ?_
      refine ih.bind fun others rest => ?_
      apply gives_pure
      intro value member
      rcases List.mem_cons.mp member with same | behind
      · exact same ▸ held
      · exact rest value behind

theorem gives_takeWhile (accept : Char → Bool) :
    Gives (takeWhile accept) fun text => text.all accept = true := by
  intro cursor value behind found
  simp only [run, takeWhile, Option.some.injEq, Prod.mk.injEq] at found
  rw [← found.1]
  exact List.all_takeWhile

theorem gives_takeSome (accept : Char → Bool) :
    Gives (takeSome accept) fun text => text ≠ [] ∧ text.all accept = true := by
  refine (gives_takeWhile accept).bind fun text accepted => ?_
  by_cases empty : text.isEmpty = true
  · simp only [empty, if_true]
    exact gives_fail.bind fun _ _ => gives_pure ‹_›
  · simp only [empty]
    exact gives_pure ⟨by simpa using empty, accepted⟩

theorem gives_written {body : Parser (List Char)} {holds : List Char → Prop}
    (given : Gives body holds) : Gives (written body) fun part => holds part.text.toList := by
  refine given.located.bind fun result held => ?_
  apply gives_pure
  simpa using held

theorem gives_ident : Gives ident fun part => IsIdent part.text.toList := by
  apply gives_written
  apply Gives.rule
  intro cursor text behind found
  obtain ⟨nonempty, accepted⟩ := gives_takeSome _ cursor text behind found
  exact ⟨nonempty, accepted⟩

theorem gives_name : Gives (takeSome isNameChar) IsName := by
  intro cursor text behind found
  obtain ⟨nonempty, accepted⟩ := gives_takeSome _ cursor text behind found
  exact ⟨nonempty, accepted⟩

theorem gives_between (outer inner : Rule) (mark : Char) :
    Gives (between outer inner mark) fun text => mark ∉ text.toList := by
  apply Gives.rule
  refine gives_then fun _ => ?_
  refine ((gives_takeWhile (· != mark)).rule inner).bind fun text accepted => ?_
  refine gives_then fun _ => ?_
  apply gives_pure
  intro member
  rw [String.toList_ofList] at member
  simpa using List.all_eq_true.mp accepted mark member

theorem gives_plainAttribute : Gives plainAttribute IsReadProperty := by
  apply Gives.rule
  refine (gives_name.rule .attrName).bind fun name named => ?_
  refine gives_then fun _ => ?_
  refine (gives_between .attrValue .quoted '"').spaced.bind fun text unquoted => ?_
  apply gives_pure
  exact .text (by simpa using named) unquoted

theorem gives_styleEntry : Gives styleEntry IsReadEntry := by
  apply Gives.rule
  refine ((gives_takeSome isStyleNameChar).rule .styleName).bind fun name ⟨_, accepted⟩ => ?_
  refine gives_then fun _ => ?_
  refine (gives_between .styleValue .styleText '\'').spaced.bind fun value unquoted => ?_
  apply gives_pure
  refine ⟨by simp [Text.trim_trim], ?_, unquoted⟩
  rw [String.toList_ofList, List.all_eq_true]
  intro c member
  exact List.all_eq_true.mp accepted c (Text.mem_of_mem_trim member)

theorem gives_styleEntries (bound : Nat) :
    Gives (styleEntries bound) fun entries => ∀ entry ∈ entries, IsReadEntry entry := by
  refine Gives.orElse ?_ (gives_pure (by simp))
  refine gives_styleEntry.spaced.bind fun first held => ?_
  have behindComma : Gives (do literal ","; spaced styleEntry) IsReadEntry :=
    gives_then fun _ => gives_styleEntry.spaced
  refine (behindComma.repeated bound).bind fun others rest => ?_
  apply gives_pure
  intro entry member
  rcases List.mem_cons.mp member with same | behind
  · exact same ▸ held
  · exact rest entry behind

theorem gives_property (bound : Nat) : Gives (property bound) IsReadProperty := by
  refine Gives.orElse ?_ gives_plainAttribute
  apply Gives.rule
  refine gives_then fun _ => gives_then fun _ => ?_
  refine (gives_styleEntries bound).bind fun entries held => ?_
  refine gives_then fun _ => ?_
  apply gives_pure
  apply IsReadProperty.style
  intro entry member
  exact held entry (OrderedMap.mem_ofList member)

theorem gives_content {child : Parser WrittenElement} (given : Gives child WrittenElement.Accepted)
    (bound : Nat) : Gives (content child bound) fun result => AcceptedForest result.1 := by
  refine gives_then fun _ => ?_
  refine (given.repeated bound).bind fun children accepted => ?_
  refine gives_then fun _ => gives_then fun _ => gives_then fun _ => ?_
  exact gives_pure (acceptedForest_of_forall accepted)

theorem gives_element (bound : Nat) : Gives (element bound) WrittenElement.Accepted := by
  induction bound with
  | zero => exact gives_fail
  | succ bound ih =>
      have empty : Gives selfClosed fun result => AcceptedForest result.1 :=
        gives_then fun _ => gives_pure trivial
      apply Gives.rule
      refine gives_then fun _ => ?_
      refine (gives_name.rule .tagName).spaced.bind fun tag named => ?_
      refine gives_then fun _ => ?_
      refine ((gives_property bound).repeated bound).bind fun properties held => ?_
      refine (empty.orElse (gives_content ih bound)).bind fun result below => ?_
      apply gives_pure
      exact ⟨by simpa using named, held, below⟩

theorem gives_icon (bound : Nat) : Gives (icon bound) fun icon => AcceptedForest icon.elements := by
  apply Gives.rule
  refine gives_then fun _ => gives_then fun _ => gives_then fun _ => gives_then fun _ => ?_
  refine ((gives_element bound).repeated bound).bind fun elements accepted => ?_
  exact gives_then fun _ => gives_pure (acceptedForest_of_forall accepted)

theorem gives_component (bound : Nat) :
    Gives (component bound) fun written =>
      IsIdent written.declared.text.toList ∧ AcceptedForest written.icon.elements := by
  apply Gives.rule
  refine gives_then fun _ => gives_then fun _ => ?_
  refine gives_ident.spaced.bind fun declared named => ?_
  refine gives_then fun _ => ?_
  refine (gives_icon bound).spaced.bind fun icon accepted => ?_
  refine gives_then fun _ => gives_then fun _ => gives_then fun _ => gives_then fun _ => ?_
  exact gives_pure ⟨named, accepted⟩

end Parser

mutual
theorem everywhere_of_checkElement : ∀ {index : Nat} {written : WrittenElement}
    {element : Element}, checkElement index written = .ok element → written.Accepted →
      element.Everywhere IsRead
  | index, ⟨tag, key, properties, children, closing⟩, element, checked,
      ⟨named, given, below⟩ => by
      unfold checkElement at checked
      split at checked
      · cases checked
      · split at checked
        · cases checked
        · rename_i elements forest
          split at checked
          · cases checked
          · cases checked
            refine ⟨⟨named, ?_⟩, everywhere_of_checkForest forest below⟩
            intro entry member
            exact given entry (OrderedMap.mem_ofList member)

theorem everywhere_of_checkForest : ∀ {index : Nat} {forest : List WrittenElement}
    {elements : List Element}, checkForest index forest = .ok elements → AcceptedForest forest →
      ForestEverywhere IsRead elements
  | _, [], elements, checked, _ => by
      cases checked
      trivial
  | index, written :: rest, elements, checked, ⟨first, others⟩ => by
      unfold checkForest at checked
      split at checked
      · cases checked
      · rename_i element one
        split at checked
        · cases checked
        · rename_i more behind
          cases checked
          exact ⟨everywhere_of_checkElement one first, everywhere_of_checkForest behind others⟩
end

end VectorIcon.Component
