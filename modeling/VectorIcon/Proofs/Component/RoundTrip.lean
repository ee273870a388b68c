import VectorIcon.Proofs.Component.Source
import VectorIcon.Proofs.Number.Printed
import VectorIcon.Proofs.OrderedMap

/-!
A component is read back from its source. The source of trees is the text of the written elements
that number the siblings and close each element by its own tag.
-/

namespace VectorIcon.Component

def unplaced (text : String) : Written :=
  ⟨text, ⟨0, 0⟩⟩

def keyOf (index : Nat) : String :=
  String.ofList (Nat.toDigits 10 index)

mutual
def writtenElement (index : Nat) : Element → WrittenElement
  | ⟨tag, given, []⟩ => ⟨tag, unplaced (keyOf index), given.entries, [], none⟩
  | ⟨tag, given, child :: children⟩ =>
      ⟨tag, unplaced (keyOf index), given.entries,
        writtenElement 0 child :: writtenForest 1 children, some (unplaced tag)⟩

def writtenForest (index : Nat) : List Element → List WrittenElement
  | [] => []
  | element :: rest => writtenElement index element :: writtenForest (index + 1) rest
end

theorem writtenElement_of_children (index : Nat) (tag : String) (given : Properties)
    {children : List Element} (present : children ≠ []) :
    writtenElement index ⟨tag, given, children⟩ =
      ⟨tag, unplaced (keyOf index), given.entries, writtenForest 0 children,
        some (unplaced tag)⟩ := by
  cases children with
  | nil => exact absurd rfl present
  | cons child children => rw [writtenElement, writtenForest]

theorem length_writtenForest (index : Nat) (forest : List Element) :
    (writtenForest index forest).length = forest.length := by
  induction forest generalizing index with
  | nil => rfl
  | cons element rest ih => rw [writtenForest, List.length_cons, List.length_cons, ih]

theorem writtenForest_append (index : Nat) (left right : List Element) :
    writtenForest index (left ++ right) =
      writtenForest index left ++ writtenForest (index + left.length) right := by
  induction left generalizing index with
  | nil => rfl
  | cons element left ih =>
      simp only [List.cons_append, writtenForest, ih, List.length_cons, Nat.add_assoc,
        Nat.add_comm 1]

theorem opening_eq_tagText (tag : String) (index : Nat) (given : Properties) :
    opening tag index given = tagText tag (keyOf index).toList given.entries := by
  simp [opening, tagText, Parser.keyText, keyOf, braced, openBrace, closeBrace, propertiesText,
    properties]

theorem closing_eq_closingText (tag : String) : closing tag = closingText tag := by
  simp [closing, closingText]

theorem newline_renderLine (layout : Layout) (depth : Nat) (text : List Char) :
    '\n' :: layout.renderLine ⟨depth, text⟩ = lineGap layout depth ++ text := by
  simp [Layout.renderLine, lineGap]

mutual
theorem elementLines_text (layout : Layout) (depth index : Nat) : ∀ element : Element,
    (elementLines depth index element).flatMap (fun line => '\n' :: layout.renderLine line) =
      lineGap layout depth ++ (writtenElement index element).text layout depth
  | ⟨tag, given, []⟩ => by
      simp only [elementLines, List.flatMap_cons, List.flatMap_nil, newline_renderLine,
        opening_eq_tagText, writtenElement, WrittenElement.text, unplaced, List.append_nil]
  | ⟨tag, given, child :: children⟩ => by
      simp only [elementLines, List.flatMap_cons, List.flatMap_append, List.flatMap_nil,
        newline_renderLine, elementLines_text layout (depth + 1) 0 child,
        forestLines_text layout (depth + 1) 1 children, opening_eq_tagText, closing_eq_closingText,
        writtenElement, WrittenElement.text, unplaced, forestText, List.append_nil,
        List.append_assoc, List.cons_append, List.nil_append]

theorem forestLines_text (layout : Layout) (depth index : Nat) : ∀ forest : List Element,
    (forestLines depth index forest).flatMap (fun line => '\n' :: layout.renderLine line) =
      forestText layout depth (writtenForest index forest)
  | [] => rfl
  | element :: rest => by
      simp only [forestLines, List.flatMap_append, elementLines_text layout depth index element,
        forestLines_text layout depth (index + 1) rest, writtenForest, forestText,
        List.append_assoc]
end

theorem forestLines_ne_nil (depth index : Nat) (element : Element) (rest : List Element) :
    forestLines depth index (element :: rest) ≠ [] := by
  obtain ⟨tag, given, children⟩ := element
  cases children <;> simp [forestLines, elementLines]

/-- The lines with their line breaks in front; without elements the line break stands alone. -/
theorem newline_elementsText (layout : Layout) (elements : List Element) :
    '\n' :: elementsText layout elements =
      forestText layout 0 (writtenForest 0 elements) ++
        (if (writtenForest 0 elements).isEmpty then ['\n'] else []) := by
  cases elements with
  | nil => rfl
  | cons element rest =>
      have text := forestLines_text layout 0 0 (element :: rest)
      have nonempty := forestLines_ne_nil 0 0 element rest
      obtain ⟨first, more, split⟩ := List.exists_cons_of_ne_nil nonempty
      rw [split, List.flatMap_cons] at text
      rw [← text, elementsText, split, Layout.render, List.map_cons, Text.intercalate_cons]
      simp [writtenForest, List.flatMap_map]

theorem toList_source (layout : Layout) (component : Component) :
    (component.source layout).toList =
      sourceText layout component.name.toList component.viewBox.toList
        (writtenForest 0 component.elements) component.name.toList := by
  have body := newline_elementsText layout component.elements
  have broken : '\n' :: (elementsText layout component.elements ++
      footer component.name.toList) = _ := congrArg (· ++ footer component.name.toList) body
  simp only [source, String.toList_ofList, header_eq, List.append_assoc, List.cons_append,
    List.nil_append, broken]
  simp only [sourceText, wrapperGap, footer_eq, List.append_assoc]

theorem keyOf_isKey (index : Nat) : IsKey (keyOf index).toList := by
  rw [keyOf, String.toList_ofList]
  refine ⟨Nat.toDigits_ne_nil, List.all_eq_true.mpr fun c member => ?_⟩
  exact Nat.isDigit_of_mem_toDigits (b := 10) (by decide) (by decide) member

theorem checkKey_keyOf (index : Nat) (span : Span) :
    checkKey index ⟨keyOf index, span⟩ = .ok () := by
  have digits : Number.ofDigits 10 Number.digitValue (Nat.toDigits 10 index) = index := by
    have read := Nat.ofDigitChars_ten_toDigits (n := index)
    rw [Nat.ofDigitChars_eq_foldl] at read
    simpa [Number.ofDigits, Number.digitValue, Nat.mul_comm] using read
  simp [checkKey, keyOf, digits]

mutual
theorem writtenElement_readable : ∀ (index : Nat) (element : Element),
    element.Everywhere IsReadable → (writtenElement index element).Readable
  | index, ⟨_, _, []⟩, ⟨root, _⟩ =>
      ⟨root.tag, keyOf_isKey index, root.properties, rfl, trivial⟩
  | index, ⟨_, _, child :: children⟩, ⟨root, first, others⟩ =>
      ⟨root.tag, keyOf_isKey index, root.properties, root.tag,
        writtenElement_readable 0 child first, writtenForest_readable 1 children others⟩

theorem writtenForest_readable : ∀ (index : Nat) (forest : List Element),
    ForestEverywhere IsReadable forest → ReadableForest (writtenForest index forest)
  | _, [], _ => trivial
  | index, element :: rest, ⟨first, others⟩ =>
      ⟨writtenElement_readable index element first,
        writtenForest_readable (index + 1) rest others⟩
end

mutual
theorem checkElement_placed (layout : Layout) : ∀ (depth offset index : Nat) (element : Element),
    checkElement index ((writtenElement index element).placed layout depth offset) = .ok element
  | depth, offset, index, ⟨tag, given, []⟩ => by
      simp only [writtenElement, WrittenElement.placed, unplaced, checkElement, checkKey_keyOf,
        checkForest, checkClosing, OrderedMap.ofList_entries]
  | depth, offset, index, ⟨tag, given, child :: children⟩ => by
      simp only [writtenElement, WrittenElement.placed, unplaced, placedForest, checkElement,
        checkKey_keyOf, checkForest, checkElement_placed layout _ _ 0 child,
        checkForest_placed layout _ _ 1 children, checkClosing, OrderedMap.ofList_entries, if_true]

theorem checkForest_placed (layout : Layout) : ∀ (depth offset index : Nat)
    (forest : List Element),
    checkForest index (placedForest layout depth offset (writtenForest index forest)) = .ok forest
  | _, _, _, [] => rfl
  | depth, offset, index, element :: rest => by
      simp only [writtenForest, placedForest, checkForest,
        checkElement_placed layout depth _ index element,
        checkForest_placed layout depth _ (index + 1) rest]
end

theorem read_source_of_unquoted (layout : Layout) (component : Component)
    (named : IsIdent component.name.toList) (unquoted : '"' ∉ component.viewBox.toList)
    (readable : ForestEverywhere IsReadable component.elements) :
    Component.read (component.source layout) = .ok component := by
  have parsed := parseWritten_sourceText layout named named unquoted
    (writtenForest_readable 0 component.elements readable)
  have exported (text : String) (left right : Span) :
      checkExport ⟨text, left⟩ ⟨text, right⟩ = .ok () := by
    simp [checkExport]
  unfold Component.read
  simp only [toList_source, parsed, placedComponent, WrittenComponent.check, String.ofList_toList,
    exported, checkForest_placed]

theorem Parser.run_componentEnd_some {declared : Written} {icon : WrittenIcon} {cursor : Cursor}
    {result : WrittenComponent × Cursor}
    (found : run (componentEnd declared icon) cursor = some result) :
    result.1.declared = declared ∧ result.1.icon = icon := by
  simp only [componentEnd, run_bind, run_pure, Option.bind_eq_some_iff, Option.some.injEq] at found
  obtain ⟨_, _, _, _, _, _, _, _, rfl⟩ := found
  exact ⟨rfl, rfl⟩

theorem Parser.run_icon_viewBox {viewBox : List Char} (unquoted : '"' ∉ viewBox) {bound : Nat}
    {rest : List Char} {offset : Nat} {result : WrittenIcon × Cursor}
    (found : run (spaced (icon bound))
      ⟨"\n    ".toList ++ (wrapperText viewBox ++ rest), offset⟩ = some result) :
    result.1.viewBox = String.ofList viewBox := by
  have solid : Text.stops isWhite (wrapperText viewBox ++ rest) = true := rfl
  rw [run_spaced _ "\n    ".toList (by decide) solid, run_icon_wrapper unquoted] at found
  simp only [Option.bind_eq_some_iff, Option.map_eq_some_iff] at found
  obtain ⟨_, _, _, _, rfl⟩ := found
  rfl

theorem parseWritten_source {layout : Layout} {component : Component}
    (named : IsIdent component.name.toList) (unquoted : '"' ∉ component.viewBox.toList)
    {written : WrittenComponent}
    (found : parseWritten (component.source layout).toList = .ok written) :
    written.declared.text = component.name ∧ written.icon.viewBox = component.viewBox := by
  obtain ⟨body, spelled⟩ : ∃ body, (component.source layout).toList =
      declarationText component.name.toList ++
        ("\n    ".toList ++ (wrapperText component.viewBox.toList ++ body)) := by
    rw [toList_source]
    exact ⟨_, rfl⟩
  obtain ⟨bound, enough⟩ : ∃ bound, (component.source layout).toList.length + 1 = bound + 2 := by
    refine ⟨(component.source layout).toList.length - 1, ?_⟩
    rw [spelled]
    simp only [wrapperText, List.length_append, List.length_cons]
    omega
  obtain ⟨behind, read⟩ := parseWritten_eq_ok_iff.mp found
  rw [enough, spelled, Parser.run_component_declaration named, Option.bind_eq_some_iff] at read
  obtain ⟨icon, iconRead, ended⟩ := read
  obtain ⟨declared, same⟩ := Parser.run_componentEnd_some ended
  have viewBox := Parser.run_icon_viewBox unquoted iconRead
  dsimp only at declared same
  constructor
  · rw [declared, String.ofList_toList]
  · rw [same, viewBox, String.ofList_toList]

theorem read_source_parts {layout : Layout} {component other : Component}
    (named : IsIdent component.name.toList) (unquoted : '"' ∉ component.viewBox.toList)
    (found : Component.read (component.source layout) = .ok other) :
    other.name = component.name ∧ other.viewBox = component.viewBox := by
  obtain ⟨written, parsed, agrees⟩ := read_eq_ok_iff.mp found
  obtain ⟨_, elements, _, rfl⟩ := check_eq_ok_iff.mp agrees
  exact parseWritten_source named unquoted parsed

/-- A component comes back from its source with its name, its frame and its elements. -/
theorem read_source (layout : Layout) (name : String) (frame : Frame) (elements : List Element)
    (named : IsIdent name.toList) (readable : ForestEverywhere IsReadable elements) :
    Component.read ((Component.ofElements elements name frame).source layout) =
      .ok ⟨name, frame.text, elements⟩ :=
  read_source_of_unquoted layout _ named frame.quote_not_mem_text readable

theorem read_source_nested :
    Component.read ((Component.ofElements
        [⟨"g", OrderedMap.ofList [("style", .style (OrderedMap.ofList [("fill", "\x7b;")]))],
          [⟨"path", OrderedMap.ofList [("key", .text "/>"), ("style", .text "'")], []⟩]⟩]
        "Icon$1" ⟨.zero, .zero, .nan, .zero⟩).source ⟨0, 7⟩) =
      .ok ⟨"Icon$1", Frame.text ⟨.zero, .zero, .nan, .zero⟩,
        [⟨"g", OrderedMap.ofList [("style", .style (OrderedMap.ofList [("fill", "\x7b;")]))],
          [⟨"path", OrderedMap.ofList [("key", .text "/>"), ("style", .text "'")], []⟩]⟩]⟩ :=
  read_source ⟨0, 7⟩ "Icon$1" ⟨.zero, .zero, .nan, .zero⟩ _ (by decide) (by decide)

end VectorIcon.Component
