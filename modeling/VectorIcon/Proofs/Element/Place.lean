import VectorIcon.Proofs.Element.Everywhere

/-!
Places in a forest. A path names a tree by its index, then a child, and so on down, so paths in their
lexicographic order are in document order: an element stands before its children, and these before
its next sibling.
-/

namespace VectorIcon

def Element.descendant? (element : Element) : List Nat → Option Element
  | [] => some element
  | index :: path => element.children[index]?.bind (descendant? · path)

def elementAt (forest : List Element) : List Nat → Option Element
  | [] => none
  | index :: path => forest[index]?.bind (Element.descendant? · path)

/-- The trees of the forest, or the children of the element that a path leads to. -/
def siblingsAt (forest : List Element) : List Nat → Option (List Element)
  | [] => some forest
  | index :: path => (elementAt forest (index :: path)).map Element.children

def Element.IsLike (element other : Element) : Prop :=
  element.tag = other.tag ∧ element.properties = other.properties

/-- Of the places before this one, those in both forests have elements alike. -/
def AlikeBefore (forest others : List Element) (place : List Nat) : Prop :=
  ∀ earlier < place, ∀ element other, elementAt forest earlier = some element →
    elementAt others earlier = some other → element.IsLike other

theorem Element.Everywhere.descendant? {holds : String → Properties → Prop} {path : List Nat}
    {element other : Element} (every : element.Everywhere holds)
    (found : element.descendant? path = some other) : other.Everywhere holds := by
  induction path generalizing element with
  | nil =>
      cases found
      exact every
  | cons index path ih =>
      obtain ⟨tag, properties, children⟩ := element
      obtain ⟨_, childrenEvery⟩ := every
      obtain ⟨child, stands, below⟩ := Option.bind_eq_some_iff.mp found
      exact ih (childrenEvery.getElem? stands) below

theorem ForestEverywhere.elementAt {holds : String → Properties → Prop} {place : List Nat}
    {forest : List Element} {element : Element} (every : ForestEverywhere holds forest)
    (found : elementAt forest place = some element) : element.Everywhere holds := by
  cases place with
  | nil => cases found
  | cons index path =>
      obtain ⟨root, stands, below⟩ := Option.bind_eq_some_iff.mp found
      exact (every.getElem? stands).descendant? below

section

variable (before rest others : List Element) (element other : Element)

theorem elementAt_behind (index : Nat) (path : List Nat) :
    elementAt (before ++ element :: rest) (before.length :: index :: path) =
      elementAt element.children (index :: path) := by
  simp [elementAt, Element.descendant?]

theorem elementAt_self : elementAt (before ++ element :: rest) [before.length] = some element := by
  simp [elementAt, Element.descendant?]

theorem siblingsAt_behind (path : List Nat) :
    siblingsAt (before ++ element :: rest) (before.length :: path) =
      siblingsAt element.children path := by
  cases path with
  | nil => simp only [siblingsAt, elementAt_self, Option.map_some]
  | cons index path => rw [siblingsAt, elementAt_behind, siblingsAt]

theorem alikeBefore_common : AlikeBefore (before ++ rest) (before ++ others) [before.length] := by
  intro earlier sooner element other found otherFound
  cases earlier with
  | nil => simp [elementAt] at found
  | cons index path =>
      have inside : index < before.length := by
        simpa [List.cons_lt_cons_iff] using sooner
      rw [elementAt, List.getElem?_append_left inside] at found otherFound
      rw [found, Option.some.injEq] at otherFound
      subst other
      exact ⟨rfl, rfl⟩

variable {element other}

theorem AlikeBefore.down {place : List Nat} (alike : element.IsLike other)
    (below : AlikeBefore element.children other.children place) :
    AlikeBefore (before ++ element :: rest) (before ++ other :: others)
      (before.length :: place) := by
  intro earlier sooner first second found otherFound
  cases earlier with
  | nil => simp [elementAt] at found
  | cons index path =>
      rcases List.cons_lt_cons_iff.mp sooner with left | ⟨rfl, deeper⟩
      · have common := alikeBefore_common before (element :: rest) (other :: others)
        exact common (index :: path) (List.cons_lt_cons_iff.mpr (.inl left)) _ _ found otherFound
      · cases path with
        | nil =>
            rw [elementAt_self, Option.some.injEq] at found otherFound
            exact found ▸ otherFound ▸ alike
        | cons index path =>
            rw [elementAt_behind] at found otherFound
            exact below _ deeper _ _ found otherFound

end

end VectorIcon
