import VectorIcon.Text.Escape
import VectorIcon.Xml.Builder

/-!
XML trees as they are written, with the qualifiers of their names, and the nodes that they stand
for. A tag is well formed below given bindings when its names can be read, its declarations are
allowed, its qualifiers are bound and no two of its attributes have the same name.
-/

namespace VectorIcon.Xml

structure QualifiedName.IsWritten (name : QualifiedName) : Prop where
  accepted : name.text.toList.all isNameChar = true
  parsed : QualifiedName.ofText? name.text.toList = some name

abbrev NamedValue := QualifiedName × String

structure Markup where
  name : QualifiedName
  attributes : List NamedValue
  children : List Markup

namespace Markup

def attributeText (given : NamedValue) : List Char :=
  ' ' :: (given.1.text.toList ++ '=' :: '"' :: (Text.escape given.2.toList ++ ['"']))

def openingText (name : QualifiedName) (attributes : List NamedValue) : List Char :=
  '<' :: (name.text.toList ++ attributes.flatMap attributeText)

def closingText (name : QualifiedName) : List Char :=
  '<' :: '/' :: (name.text.toList ++ ['>'])

mutual
def text : Markup → List Char
  | ⟨name, attributes, []⟩ => openingText name attributes ++ ['/', '>']
  | ⟨name, attributes, child :: children⟩ =>
      openingText name attributes ++
        '>' :: (child.text ++ (forestText children ++ closingText name))

def forestText : List Markup → List Char
  | [] => []
  | markup :: rest => markup.text ++ forestText rest
end

theorem text_childless (name : QualifiedName) (attributes : List NamedValue) :
    (⟨name, attributes, []⟩ : Markup).text = openingText name attributes ++ ['/', '>'] := by
  rw [text]

theorem text_of_children (name : QualifiedName) (attributes : List NamedValue)
    {children : List Markup} (nonempty : children ≠ []) :
    (⟨name, attributes, children⟩ : Markup).text =
      openingText name attributes ++ '>' :: (forestText children ++ closingText name) := by
  cases children with
  | nil => exact absurd rfl nonempty
  | cons child children => simp [text, forestText]

theorem exists_text_eq (markup : Markup) : ∃ rest, markup.text = '<' :: rest := by
  obtain ⟨name, attributes, children⟩ := markup
  by_cases childless : children = []
  · subst childless
    exact ⟨_, text_childless name attributes⟩
  · exact ⟨_, text_of_children name attributes childless⟩

end Markup

def readValue (given : NamedValue) : NamedValue :=
  (given.1, String.ofList (normalizeRun given.2.toList))

/-- The binding that an attribute declares, apart from that of the `xml` qualifier. -/
def binding? (given : NamedValue) : Option Binding :=
  if given.1.qualifier = "xmlns" then
    if given.2 = xmlNamespace then none else some ⟨some given.1.localName, given.2⟩
  else if given.1.localName = "xmlns" then some ⟨none, given.2⟩
  else none

def isDeclaration (given : NamedValue) : Bool :=
  given.1.qualifier = "xmlns" || given.1.localName = "xmlns"

def declaredBy (attributes : List NamedValue) : List Binding :=
  attributes.filterMap binding?

def undeclaring (attributes : List NamedValue) : List NamedValue :=
  attributes.filter fun given => !isDeclaration given

mutual
def Markup.bindings : Markup → List Binding
  | ⟨_, attributes, children⟩ => declaredBy (attributes.map readValue) ++ forestBindings children

def forestBindings : List Markup → List Binding
  | [] => []
  | markup :: rest => markup.bindings ++ forestBindings rest
end

/-- A document that is the tree does not have too many bindings. -/
def Markup.HasRoom (markup : Markup) : Prop :=
  (Builder.reserved :: markup.bindings).eraseDups.length ≤ namespaceLimit

instance (markup : Markup) : Decidable markup.HasRoom :=
  inferInstanceAs (Decidable (_ ≤ _))

theorem undeclaring_append (first second : List NamedValue) :
    undeclaring (first ++ second) = undeclaring first ++ undeclaring second :=
  List.filter_append first second

theorem declaredBy_append (first second : List NamedValue) :
    declaredBy (first ++ second) = declaredBy first ++ declaredBy second :=
  List.filterMap_append

def uriOfElement (bindings : List Binding) (name : QualifiedName) : Option String :=
  if name.qualifier = "" then Binding.uriOf? bindings none
  else Binding.uriOf? bindings (some name.qualifier)

def uriOfAttribute (bindings : List Binding) (name : QualifiedName) : Option String :=
  if name.qualifier = "xml" then some xmlNamespace
  else if name.qualifier = "" then none
  else Binding.uriOf? bindings (some name.qualifier)

def resolved (bindings : List Binding) (given : NamedValue) : Attribute :=
  ⟨given.1, uriOfAttribute bindings given.1, given.2⟩

def tagOf (inherited : List Binding) (name : QualifiedName) (attributes : List NamedValue) : Tag :=
  let read := attributes.map readValue
  let bindings := Binding.inScope (declaredBy read) inherited
  ⟨name, uriOfElement bindings name, bindings, (undeclaring read).map (resolved bindings)⟩

mutual
def Markup.node (inherited : List Binding) : Markup → Node
  | ⟨name, attributes, children⟩ =>
      let tag := tagOf inherited name attributes
      .element tag (forestNodes tag.bindings children)

def forestNodes (inherited : List Binding) : List Markup → List Node
  | [] => []
  | markup :: rest => markup.node inherited :: forestNodes inherited rest
end

def IsBound (bindings : List Binding) (name : QualifiedName) : Prop :=
  name.qualifier = "" ∨ (Binding.uriOf? bindings (some name.qualifier)).isSome

/-- A declaration that is allowed. The `xml` qualifier and its namespace belong together. -/
structure IsDeclarable (given : NamedValue) : Prop where
  qualified : given.1.qualifier = "xmlns" →
    given.2 ≠ xmlnsNamespace ∧ (given.1.localName = "xml" ↔ given.2 = xmlNamespace)
  unqualified : given.1.qualifier ≠ "xmlns" → given.1.localName = "xmlns" →
    given.2 ≠ xmlNamespace ∧ given.2 ≠ xmlnsNamespace

structure IsAttribute (given : NamedValue) : Prop where
  name : given.1.IsWritten
  value : ∀ c ∈ given.2.toList, isXmlChar c = true
  declarable : IsDeclarable (readValue given)

def AreDistinct (attributes : List Attribute) : Prop :=
  attributes.Pairwise fun earlier later => Builder.sameName later earlier = false

structure IsTag (inherited : List Binding) (name : QualifiedName) (attributes : List NamedValue) :
    Prop where
  written : name.IsWritten
  unreserved : name.qualifier ≠ "xmlns"
  bound : IsBound (tagOf inherited name attributes).bindings name
  readable : ∀ given ∈ attributes, IsAttribute given
  named : (attributes.map Prod.fst).Nodup
  qualified : ∀ given ∈ undeclaring (attributes.map readValue),
    given.1.qualifier = "xml" ∨
      IsBound (tagOf inherited name attributes).bindings given.1
  distinct : AreDistinct (tagOf inherited name attributes).attributes

mutual
def Markup.WellFormed (inherited : List Binding) : Markup → Prop
  | ⟨name, attributes, children⟩ =>
      IsTag inherited name attributes ∧
        ForestWellFormed (tagOf inherited name attributes).bindings children

def ForestWellFormed (inherited : List Binding) : List Markup → Prop
  | [] => True
  | markup :: rest => markup.WellFormed inherited ∧ ForestWellFormed inherited rest
end

end VectorIcon.Xml
