import VectorIcon.Proofs.Component.Refused
import VectorIcon.Proofs.Document.Equality

/-! Components that have been read, written again. -/

namespace VectorIcon.Component

theorem isRead_of_read {text : String} {component : Component}
    (accepted : Component.read text = .ok component) :
    IsIdent component.name.toList ∧ ForestEverywhere IsRead component.elements := by
  obtain ⟨written, parsed, agrees⟩ := read_eq_ok_iff.mp accepted
  obtain ⟨behind, found⟩ := parseWritten_eq_ok_iff.mp parsed
  obtain ⟨named, forest⟩ := Parser.gives_component _ _ _ _ found
  obtain ⟨_, elements, checked, rfl⟩ := check_eq_ok_iff.mp agrees
  exact ⟨named, everywhere_of_checkForest checked forest⟩

theorem forestEverywhere_isReadable_iff : ∀ {elements : List Element},
    ForestEverywhere IsRead elements →
      (ForestEverywhere IsReadable elements ↔ ForestEverywhere NamesStyles elements) := by
  intro elements read
  constructor
  · intro readable
    exact (read.and readable).imp fun _ _ ⟨node, root⟩ => (isReadable_iff node).mp root
  · intro named
    exact (read.and named).imp fun _ _ ⟨node, styles⟩ => (isReadable_iff node).mpr styles

/-- A component that has been read and is written again comes back as it was, or, when a style of
it has an entry without a name, not at all. -/
theorem read_regenerated {text : String} {component : Component}
    (accepted : Component.read text = .ok component) (frame : Frame) (layout : Layout)
    (other : Component) :
    Component.read
        ((Component.ofElements component.elements component.name frame).source layout) =
          .ok other ↔
      ForestEverywhere NamesStyles component.elements ∧
        other = ⟨component.name, frame.text, component.elements⟩ := by
  obtain ⟨named, read⟩ := isRead_of_read accepted
  let written := Component.ofElements component.elements component.name frame
  have unquoted : '"' ∉ written.viewBox.toList := frame.quote_not_mem_text
  by_cases styles : ForestEverywhere NamesStyles component.elements
  · have readable := (forestEverywhere_isReadable_iff read).mpr styles
    have back : Component.read (written.source layout) = .ok written :=
      read_source_of_unquoted layout written named unquoted readable
    rw [back]
    simp [styles, written, Component.ofElements, eq_comm]
  · have refused : ¬ForestEverywhere IsReadable component.elements :=
      fun readable => styles ((forestEverywhere_isReadable_iff read).mp readable)
    constructor
    · intro found
      exact absurd found (read_source_refused layout written named unquoted read refused other)
    · rintro ⟨named, _⟩
      exact absurd named styles

theorem read_spread :
    Component.read ("const A = ( props ) =>\x7breturn(<SvgIcon\x7b...props\x7d viewBox=\"\">" ++
        "<g key=\x7b00\x7d a=\"1\" style=\x7b\x7bb :'2', b: '3'\x7d\x7d a=\"4\"></g>" ++
        "</SvgIcon>);\x7d;export default A;") =
      .ok ⟨"A", "", [⟨"g", OrderedMap.ofList
        [("a", .text "4"), ("style", .style (OrderedMap.ofList [("b", "3")]))], []⟩]⟩ := by
  decide +kernel

theorem read_regenerated_spread :
    Component.read ((Component.ofElements [⟨"g", OrderedMap.ofList
        [("a", .text "4"), ("style", .style (OrderedMap.ofList [("b", "3")]))], []⟩]
        "A" ⟨.zero, .zero, .nan, .zero⟩).source ⟨1, 0⟩) =
      .ok ⟨"A", Frame.text ⟨.zero, .zero, .nan, .zero⟩, [⟨"g", OrderedMap.ofList
        [("a", .text "4"), ("style", .style (OrderedMap.ofList [("b", "3")]))], []⟩]⟩ :=
  (read_regenerated read_spread ⟨.zero, .zero, .nan, .zero⟩ ⟨1, 0⟩ _).mpr ⟨by decide, rfl⟩

/-- A style whose name is a no-break space is read as one without a name. -/
theorem read_blankStyleName :
    Component.read ("const A = (props) => \x7b return ( <SvgIcon \x7b...props\x7d " ++
        "viewBox=\"0 0 24 24\"> <g key=\x7b0\x7d style=\x7b\x7b\u00a0: 'x'\x7d\x7d /> " ++
        "</SvgIcon> ); \x7d; export default A;") =
      .ok ⟨"A", "0 0 24 24",
        [⟨"g", OrderedMap.ofList [("style", .style (OrderedMap.ofList [("", "x")]))], []⟩]⟩ := by
  decide +kernel

theorem read_regenerated_blankName :
    ¬∀ (text : String) (component : Component) (frame : Frame) (layout : Layout),
      Component.read text = .ok component →
        Component.read
            ((Component.ofElements component.elements component.name frame).source layout) =
          .ok ⟨component.name, frame.text, component.elements⟩ := by
  intro claimed
  let frame : Frame := ⟨.zero, .zero, .nan, .zero⟩
  obtain ⟨text, component, accepted, nameless⟩ : ∃ text component,
      Component.read text = .ok component ∧ ¬ForestEverywhere NamesStyles component.elements :=
    ⟨_, _, read_blankStyleName, by decide⟩
  obtain ⟨named, read⟩ := isRead_of_read accepted
  have refused : ¬ForestEverywhere IsReadable component.elements :=
    fun readable => nameless ((forestEverywhere_isReadable_iff read).mp readable)
  let written := Component.ofElements component.elements component.name frame
  have missing := read_source_refused .standard written named frame.quote_not_mem_text read refused
  exact missing _ (claimed text component frame .standard accepted)

end VectorIcon.Component
