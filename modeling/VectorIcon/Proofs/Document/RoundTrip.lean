import VectorIcon.RoundTrip
import VectorIcon.Proofs.Comparison
import VectorIcon.Proofs.Component.RoundTrip
import VectorIcon.Proofs.Document.Equality
import VectorIcon.Proofs.Document.Normal

/-!
A document survives the round trip through its component when its names and values keep to what
can be written. Its frame survives in any case.
-/

namespace VectorIcon

namespace Document

/-- No value holds the quote that ends it, and no style name the punctuation of its object. -/
def IsWritableValue : PropertyValue → Prop
  | .text text => '"' ∉ text.toList
  | .style style => ∀ entry ∈ style.entries,
      ',' ∉ entry.1.toList ∧ '\x7d' ∉ entry.1.toList ∧ '\'' ∉ entry.2.toList

structure IsWritable (tag : String) (properties : Properties) : Prop where
  tag : Component.IsName tag.toList
  names : ∀ entry ∈ properties.entries, Component.IsName entry.1.toList
  values : ∀ entry ∈ properties.entries, IsWritableValue entry.2

instance : (value : PropertyValue) → Decidable (IsWritableValue value)
  | .text text => inferInstanceAs (Decidable ('"' ∉ text.toList))
  | .style style => inferInstanceAs (Decidable (∀ entry ∈ style.entries,
      ',' ∉ entry.1.toList ∧ '\x7d' ∉ entry.1.toList ∧ '\'' ∉ entry.2.toList))

instance (tag : String) (properties : Properties) : Decidable (IsWritable tag properties) :=
  decidable_of_iff (Component.IsName tag.toList ∧
      (∀ entry ∈ properties.entries, Component.IsName entry.1.toList) ∧
        ∀ entry ∈ properties.entries, IsWritableValue entry.2)
    ⟨fun ⟨tag, names, values⟩ => ⟨tag, names, values⟩, fun writable =>
      ⟨writable.1, writable.2, writable.3⟩⟩

theorem isStyleEntry_of_declared {entry : String × String}
    (declared : Style.IsDeclaredName entry.1.toList) (comma : ',' ∉ entry.1.toList)
    (brace : '\x7d' ∉ entry.1.toList) (quote : '\'' ∉ entry.2.toList) :
    Component.IsStyleEntry entry := by
  refine ⟨⟨declared.nonempty, declared.trimmed, List.all_eq_true.mpr fun c member => ?_⟩, quote⟩
  simp only [Component.isStyleNameChar, Bool.and_eq_true, bne_iff_ne, ne_eq]
  refine ⟨⟨?_, ?_⟩, ?_⟩
  · rintro rfl
    exact declared.plain member
  · rintro rfl
    exact comma member
  · rintro rfl
    exact brace member

theorem isReadable_of_normal {tag : String} {properties : Properties}
    (normal : IsNormal tag properties) (writable : IsWritable tag properties) :
    Component.IsReadable tag properties := by
  refine ⟨writable.tag, ?_⟩
  rintro ⟨name, value⟩ member
  have named := writable.names _ member
  have plain := writable.values _ member
  cases normal _ member with
  | text => exact .text named plain
  | style declared =>
      refine .style fun entry inside => ?_
      obtain ⟨comma, brace, quote⟩ := plain entry inside
      exact isStyleEntry_of_declared (declared entry inside) comma brace quote

end Document

def writtenComponent (document : Document) (name : String) : Component :=
  Component.ofElements document.elements name document.frame

theorem compareTrees_ne_viewBoxMismatch (left right : List Element) (expected actual : String) :
    compareTrees left right ≠ .viewBoxMismatch expected actual := by
  unfold compareTrees
  split <;> simp

section

variable {svg name : String} {document : Document}

theorem checkRoundTrip_of_error (parsed : Document.parseText svg = .ok document)
    {error : ConvertError}
    (failed : Component.read ((writtenComponent document name).source Layout.standard) =
      .error error) :
    checkRoundTrip svg name =
      .unreadable ("Failed to read generated component: " ++ error.message) := by
  rw [writtenComponent] at failed
  simp only [checkRoundTrip, parsed, failed]

theorem checkRoundTrip_of_read (parsed : Document.parseText svg = .ok document)
    {component : Component}
    (read : Component.read ((writtenComponent document name).source Layout.standard) =
      .ok component) :
    checkRoundTrip svg name = compareComponent document document.frame component := by
  rw [writtenComponent] at read
  simp only [checkRoundTrip, parsed, read]

theorem checkRoundTrip_ne_viewBoxMismatch (parsed : Document.parseText svg = .ok document)
    (named : Component.IsIdent name.toList) (expected actual : String) :
    checkRoundTrip svg name ≠ .viewBoxMismatch expected actual := by
  have unquoted : '"' ∉ (writtenComponent document name).viewBox.toList :=
    document.frame.quote_not_mem_text
  cases found : Component.read ((writtenComponent document name).source Layout.standard) with
  | error error =>
      rw [checkRoundTrip_of_error parsed found]
      simp
  | ok component =>
      have same : component.viewBox = document.frame.text :=
        (Component.read_source_parts named unquoted found).2
      rw [checkRoundTrip_of_read parsed found, compareComponent, if_pos same]
      exact compareTrees_ne_viewBoxMismatch _ _ expected actual

theorem read_writtenComponent (parsed : Document.parseText svg = .ok document)
    (named : Component.IsIdent name.toList)
    (writable : ForestEverywhere Document.IsWritable document.elements) :
    Component.read ((writtenComponent document name).source Layout.standard) =
      .ok ⟨name, document.frame.text, document.elements⟩ := by
  have readable : ForestEverywhere Component.IsReadable document.elements :=
    ((Document.parse_normal parsed).and writable).imp
      fun _ _ both => Document.isReadable_of_normal both.1 both.2
  have unquoted : '"' ∉ (writtenComponent document name).viewBox.toList :=
    document.frame.quote_not_mem_text
  exact Component.read_source_of_unquoted Layout.standard (writtenComponent document name)
    named unquoted readable

theorem checkRoundTrip_eq_equal (parsed : Document.parseText svg = .ok document)
    (named : Component.IsIdent name.toList)
    (writable : ForestEverywhere Document.IsWritable document.elements) :
    checkRoundTrip svg name = .equal := by
  rw [checkRoundTrip_of_read parsed (read_writtenComponent parsed named writable), compareComponent,
    if_pos rfl]
  exact compareTrees_self document.elements

end

/-- The frame survives every round trip. When the document is writable its component reads back with
all of its elements, so the whole document survives. -/
theorem checkRoundTrip_of_document {svg name : String} {document : Document}
    (parsed : Document.parseText svg = .ok document) (named : Component.IsIdent name.toList) :
    (∀ expected actual, checkRoundTrip svg name ≠ .viewBoxMismatch expected actual) ∧
      (ForestEverywhere Document.IsWritable document.elements →
        checkRoundTrip svg name = .equal ∧
          Component.read ((Component.ofElements document.elements name document.frame).source
            Layout.standard) = .ok ⟨name, document.frame.text, document.elements⟩) :=
  ⟨checkRoundTrip_ne_viewBoxMismatch parsed named, fun writable =>
    ⟨checkRoundTrip_eq_equal parsed named writable, read_writtenComponent parsed named writable⟩⟩

theorem checkRoundTrip_styled :
    let elements : List Element := [⟨"g", OrderedMap.ofList
      [("style", .style (OrderedMap.ofList [("strokeWidth", "2")]))], []⟩]
    let frame := Frame.ofText "0 0 24 24"
    checkRoundTrip "<svg><g style=\" stroke-width : 2 ;;\"/></svg>" "Icon" = .equal ∧
      Component.read ((Component.ofElements elements "Icon" frame).source Layout.standard) =
        .ok ⟨"Icon", frame.text, elements⟩ := by
  intro elements frame
  have parsed : Document.parseText "<svg><g style=\" stroke-width : 2 ;;\"/></svg>" =
      .ok ⟨elements, "0 0 24 24"⟩ := by
    decide +kernel
  exact (checkRoundTrip_of_document parsed (by decide)).2 (by decide)

end VectorIcon
