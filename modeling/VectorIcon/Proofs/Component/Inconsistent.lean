import VectorIcon.Proofs.Component.RoundTrip
import VectorIcon.Proofs.Element.Place

/-!
Sources that contradict themselves. A generated source says three things twice: a key repeats the
place of its element among its siblings, a closing tag repeats the name of the tag, and the export
repeats the declared name. Any other text for one of them is still read by the grammar, in the same
shape, and then refused with the place of that text.

Whatever stands in front of a changed part agrees with itself, so the issue that the change gives
rise to is the first one. `Spot.InElement` and `Spot.InForest` say so for one spot of a tree or a
forest, and a path leads down to the spot one level at a time.
-/

namespace VectorIcon.Component

def WrittenElement.modifyAt (change : WrittenElement → WrittenElement) :
    List Nat → WrittenElement → WrittenElement
  | [], written => change written
  | index :: path, written =>
      { written with children := written.children.modify index (modifyAt change path) }

def modifyForest (change : WrittenElement → WrittenElement) :
    List Nat → List WrittenElement → List WrittenElement
  | [], forest => forest
  | index :: path, forest => forest.modify index (·.modifyAt change path)

def withKey (key : String) (written : WrittenElement) : WrittenElement :=
  { written with key := unplaced key }

def withClosing (closing : String) (written : WrittenElement) : WrittenElement :=
  { written with closing := some (unplaced closing) }

theorem modify_behind {α : Type} (left : List α) (item : α) (right : List α) (change : α → α) :
    (left ++ item :: right).modify left.length change = left ++ change item :: right := by
  induction left with
  | nil => rfl
  | cons first left ih =>
      rw [List.cons_append, List.length_cons, List.modify_succ_cons, ih, List.cons_append]

theorem checkForest_behind (layout : Layout) (depth offset index : Nat) (left : List Element)
    {written : WrittenElement} {rest : List WrittenElement} {issue : Issue × Span}
    (found : checkElement (index + left.length) written = .error issue) :
    checkForest index (placedForest layout depth offset (writtenForest index left) ++
      written :: rest) = .error issue := by
  induction left generalizing index offset with
  | nil =>
      rw [List.length_nil, Nat.add_zero] at found
      simp only [writtenForest, placedForest, List.nil_append, checkForest, found]
  | cons element left ih =>
      have later : checkElement (index + 1 + left.length) written = .error issue := by
        rw [← found, List.length_cons, Nat.add_assoc, Nat.add_comm 1]
      simp only [writtenForest, placedForest, List.cons_append, checkForest,
        checkElement_placed layout depth _ index element, ih _ _ later]

theorem exists_siblings {α : Type} {items : List α} {index : Nat} {item : α}
    (found : items[index]? = some item) :
    ∃ left right, items = left ++ item :: right ∧ left.length = index := by
  obtain ⟨bound, rfl⟩ := List.getElem?_eq_some_iff.mp found
  refine ⟨items.take index, items.drop (index + 1), ?_, ?_⟩
  · simp
  · exact List.length_take_of_le (Nat.le_of_lt bound)

theorem modify_writtenForest (left : List Element) (element : Element) (right : List Element)
    (change : WrittenElement → WrittenElement) :
    (writtenForest 0 (left ++ element :: right)).modify left.length change =
      writtenForest 0 left ++ change (writtenElement left.length element) ::
        writtenForest (left.length + 1) right := by
  have behind := modify_behind (writtenForest 0 left) (writtenElement left.length element)
    (writtenForest (left.length + 1) right) change
  rw [length_writtenForest] at behind
  rw [writtenForest_append, Nat.zero_add, writtenForest, behind]

/-- Where one element stands in a text: what is in front of it and behind it, how deep it is and
its place among its siblings. -/
structure Spot where
  before : List Char
  after : List Char
  depth : Nat
  index : Nat

namespace Spot

structure InElement (spot : Spot) (layout : Layout) (depth index : Nat)
    (whole : WrittenElement → WrittenElement) : Prop where
  text (part : WrittenElement) : (whole part).text layout depth =
    spot.before ++ (part.text layout spot.depth ++ spot.after)
  readable {part : WrittenElement} : part.Readable → (whole part).Readable
  issue {part : WrittenElement} {offset : Nat} {issue : Issue × Span} :
    checkElement spot.index
        (part.placed layout spot.depth (offset + Text.byteLength spot.before)) = .error issue →
      checkElement index ((whole part).placed layout depth offset) = .error issue

structure InForest (spot : Spot) (layout : Layout) (depth : Nat)
    (whole : WrittenElement → List WrittenElement) : Prop where
  present (part : WrittenElement) : whole part ≠ []
  text (part : WrittenElement) : forestText layout depth (whole part) =
    spot.before ++ (part.text layout spot.depth ++ spot.after)
  readable {part : WrittenElement} : part.Readable → ReadableForest (whole part)
  issue {part : WrittenElement} {offset : Nat} {issue : Issue × Span} :
    checkElement spot.index
        (part.placed layout spot.depth (offset + Text.byteLength spot.before)) = .error issue →
      checkForest 0 (placedForest layout depth offset (whole part)) = .error issue

theorem inElement_self (layout : Layout) (depth index : Nat) :
    InElement ⟨[], [], depth, index⟩ layout depth index id where
  text part := by simp
  readable := id
  issue found := found

variable {spot : Spot} {layout : Layout} {depth : Nat}

theorem InElement.siblings {left right : List Element} {whole : WrittenElement → WrittenElement}
    (inside : spot.InElement layout depth left.length whole)
    (leftReadable : ForestEverywhere IsReadable left)
    (rightReadable : ForestEverywhere IsReadable right) :
    InForest
      { spot with
        before := forestText layout depth (writtenForest 0 left) ++
          (lineGap layout depth ++ spot.before)
        after := spot.after ++ forestText layout depth (writtenForest (left.length + 1) right) }
      layout depth fun part =>
        writtenForest 0 left ++ whole part :: writtenForest (left.length + 1) right where
  present part := by simp
  text part := by
    simp only [forestText_append, forestText, inside.text, List.append_assoc]
  readable readable := by
    refine (writtenForest_readable 0 left leftReadable).append ⟨inside.readable readable, ?_⟩
    exact writtenForest_readable (left.length + 1) right rightReadable
  issue {part offset issue} found := by
    rw [placedForest_append, placedForest]
    apply checkForest_behind
    rw [Nat.zero_add]
    apply inside.issue
    simpa only [Text.byteLength_append, Nat.add_assoc] using found

theorem InForest.parent {tag : String} {properties : Properties}
    {whole : WrittenElement → List WrittenElement} (inside : spot.InForest layout (depth + 1) whole)
    (root : IsReadable tag properties) (index : Nat) :
    InElement
      { spot with
        before := tagText tag (keyOf index).toList properties.entries ++ '>' :: spot.before
        after := spot.after ++ (lineGap layout depth ++ closingText tag) }
      layout depth index fun part =>
        ⟨tag, unplaced (keyOf index), properties.entries, whole part, some (unplaced tag)⟩ where
  text part := by
    simp only [WrittenElement.text, unplaced, inside.text, List.append_assoc, List.cons_append]
  readable readable :=
    ⟨root.tag, keyOf_isKey index, root.properties, root.tag, inside.readable readable⟩
  issue {part offset issue} found := by
    have below : checkForest 0 (placedForest layout (depth + 1)
        (offset + Text.byteLength (tagText tag (keyOf index).toList properties.entries ++ ['>']))
        (whole part)) = .error issue := by
      apply inside.issue
      simpa [Nat.add_assoc] using found
    simp only [WrittenElement.placed, unplaced, checkElement, checkKey_keyOf, below]

theorem exists_inElement {target : Element} {path : List Nat} {element : Element}
    (found : element.descendant? path = some target) (readable : element.Everywhere IsReadable)
    (layout : Layout) (depth index : Nat) :
    ∃ spot whole, InElement spot layout depth index whole ∧
      (index :: path).getLast? = some spot.index ∧
      ∀ change, (writtenElement index element).modifyAt change path =
        whole (change (writtenElement spot.index target)) := by
  induction path generalizing element depth index with
  | nil =>
      cases found
      exact ⟨_, id, inElement_self layout depth index, rfl, fun change => rfl⟩
  | cons child path ih =>
      obtain ⟨tag, properties, children⟩ := element
      obtain ⟨root, below⟩ := readable
      obtain ⟨first, stands, foundBelow⟩ := Option.bind_eq_some_iff.mp found
      obtain ⟨left, right, rfl, rfl⟩ := exists_siblings stands
      obtain ⟨leftReadable, firstReadable, rightReadable⟩ :=
        ForestEverywhere.append_iff.mp below
      -- The path goes on below the child, which stands behind `left` and one level deeper.
      obtain ⟨spot, whole, inside, last, changed⟩ :=
        ih foundBelow firstReadable (depth + 1) left.length
      refine ⟨_, _, (inside.siblings leftReadable rightReadable).parent root index, ?_, ?_⟩
      · rw [List.getLast?_cons_cons]
        exact last
      · intro change
        rw [writtenElement_of_children index tag properties (by simp)]
        simp only [WrittenElement.modifyAt, modify_writtenForest, changed]

theorem exists_inForest {target : Element} {path : List Nat} {index : Nat} {forest : List Element}
    (found : elementAt forest (path ++ [index]) = some target)
    (readable : ForestEverywhere IsReadable forest) (layout : Layout) (depth : Nat) :
    ∃ spot whole, InForest spot layout depth whole ∧ spot.index = index ∧
      ∀ change, modifyForest change (path ++ [index]) (writtenForest 0 forest) =
        whole (change (writtenElement index target)) := by
  have present : path ++ [index] ≠ [] := by simp
  obtain ⟨first, down, split⟩ := List.exists_cons_of_ne_nil present
  have final : (first :: down).getLast? = some index := by simp [← split]
  rw [split] at found ⊢
  obtain ⟨element, stands, foundBelow⟩ := Option.bind_eq_some_iff.mp found
  obtain ⟨left, right, rfl, rfl⟩ := exists_siblings stands
  obtain ⟨leftReadable, elementReadable, rightReadable⟩ := ForestEverywhere.append_iff.mp readable
  obtain ⟨spot, whole, inside, last, changed⟩ :=
    exists_inElement foundBelow elementReadable layout depth left.length
  have place : spot.index = index := Option.some.inj (last.symm.trans final)
  refine ⟨_, _, inside.siblings leftReadable rightReadable, place, fun change => ?_⟩
  rw [modifyForest, modify_writtenForest, changed, place]

end Spot

theorem modifyAt_id (path : List Nat) : WrittenElement.modifyAt id path = id := by
  induction path with
  | nil => rfl
  | cons index path ih =>
      funext written
      cases written
      simp [WrittenElement.modifyAt, ih, List.modify_id]

theorem modifyForest_id (path : List Nat) (forest : List WrittenElement) :
    modifyForest id path forest = forest := by
  cases path with
  | nil => rfl
  | cons index path => exact (congrArg _ (modifyAt_id path)).trans (List.modify_id index forest)

/-- A part of an element can be replaced without a change to what is around it, and what is wrong
in its stead is read, and then refused with its place. -/
structure Replaceable (layout : Layout) (index : Nat) (written : WrittenElement) (original : String)
    (change : String → WrittenElement → WrittenElement) (part : String → List Char)
    (wrong : String → Prop) (issue : String → Issue) : Prop where
  same : change original written = written
  readable {other : String} : wrong other → (change other written).Readable
  stands (depth : Nat) : ∃ front after, ∀ other,
    (change other written).text layout depth = front ++ (part other ++ after) ∧
    (wrong other → ∀ offset,
      checkElement index ((change other written).placed layout depth offset) =
        .error (issue other, ⟨offset + Text.byteLength front, Text.byteLength (part other)⟩))

def RefusedFor (front part after : List Char) (issue : Issue) : Prop :=
  let text := String.ofList (front ++ (part ++ after))
  Component.read text = .error (.componentSyntax issue
    ⟨Text.byteLength front, Text.byteLength part⟩ ⟨sourceName, text⟩)

/-- A part of a source can be replaced without a change to what is around it, and for what is wrong
in its stead the altered source is refused. -/
def RefusesOther (source : List Char) (original : String) (altered part : String → List Char)
    (wrong : String → Prop) (issue : String → Issue) : Prop :=
  ∃ front after, source = front ++ (part original ++ after) ∧
    ∀ other, altered other = front ++ (part other ++ after) ∧
      (wrong other → RefusedFor front (part other) after (issue other))

def IsOtherKey (index : Nat) (key : String) : Prop :=
  IsKey key.toList ∧ Number.ofDigits 10 Number.digitValue key.toList ≠ index

def IsOtherName (tag name : String) : Prop :=
  IsName name.toList ∧ name ≠ tag

def IsOtherIdent (declared exported : String) : Prop :=
  IsIdent exported.toList ∧ exported ≠ declared

section

variable (layout : Layout) (index : Nat)

theorem text_withKey (depth : Nat) (written : WrittenElement) :
    ∃ after, ∀ key : String, (withKey key written).text layout depth =
      ("<".toList ++ (written.tag.toList ++ [' '])) ++ (Parser.keyText key.toList ++ after) := by
  obtain ⟨tag, old, properties, children, closing⟩ := written
  cases closing with
  | none =>
      refine ⟨' ' :: (propertiesText properties ++ " />".toList), fun key => ?_⟩
      simp [withKey, unplaced, WrittenElement.text, tagText]
  | some closing =>
      refine ⟨' ' :: (propertiesText properties ++ '>' :: (forestText layout (depth + 1) children ++
        (lineGap layout depth ++ closingText closing.text))), fun key => ?_⟩
      simp [withKey, unplaced, WrittenElement.text, tagText]

theorem checkElement_withKey {key : String}
    (wrong : Number.ofDigits 10 Number.digitValue key.toList ≠ index) (depth offset : Nat)
    (written : WrittenElement) :
    checkElement index ((withKey key written).placed layout depth offset) =
      .error (.key index key, keySpan offset written.tag key.toList) := by
  obtain ⟨tag, old, properties, children, closing⟩ := written
  cases closing <;> simp [withKey, unplaced, WrittenElement.placed, checkElement, checkKey, wrong]

theorem readable_withKey {key : String} {written : WrittenElement} (keyed : IsKey key.toList)
    (readable : written.Readable) : (withKey key written).Readable := by
  obtain ⟨tag, old, properties, children, closing⟩ := written
  obtain ⟨named, _, rest⟩ := readable
  exact ⟨named, keyed, rest⟩

theorem replaceable_key {element : Element} (readable : element.Everywhere IsReadable) :
    Replaceable layout index (writtenElement index element) (keyOf index) withKey
      (fun key => Parser.keyText key.toList) (IsOtherKey index) (.key index) where
  same := by
    obtain ⟨tag, given, children⟩ := element
    cases children <;> rfl
  readable other := readable_withKey other.1 (writtenElement_readable index element readable)
  stands depth := by
    obtain ⟨after, text⟩ := text_withKey layout depth (writtenElement index element)
    exact ⟨_, after, fun key => ⟨text key, fun other offset =>
      checkElement_withKey layout index other.2 depth offset _⟩⟩

theorem replaceable_closing {element : Element} (readable : element.Everywhere IsReadable)
    (present : element.children ≠ []) :
    Replaceable layout index (writtenElement index element) element.tag withClosing String.toList
      (IsOtherName element.tag) (.closingTag · element.tag) := by
  obtain ⟨tag, given, children⟩ := element
  obtain ⟨root, below⟩ := readable
  rw [writtenElement_of_children index tag given present]
  constructor
  · rfl
  · intro closing other
    exact ⟨root.tag, keyOf_isKey index, root.properties, other.1,
      writtenForest_readable 0 children below⟩
  · intro depth
    refine ⟨tagText tag (keyOf index).toList given.entries ++
      '>' :: (forestText layout (depth + 1) (writtenForest 0 children) ++
        (lineGap layout depth ++ "</".toList)), ['>'], fun closing => ⟨?_, fun other offset => ?_⟩⟩
    · simp [withClosing, unplaced, WrittenElement.text, closingText]
    · simp only [withClosing, unplaced, WrittenElement.placed, checkElement, checkKey_keyOf,
        checkForest_placed, checkClosing, if_neg other.2]
      simp [Nat.add_assoc]

end

theorem read_of_check_error {text : String} {written : WrittenComponent} {issue : Issue}
    {span : Span} (parsed : parseWritten text.toList = .ok written)
    (refused : written.check = .error (issue, span)) :
    Component.read text = .error (.componentSyntax issue span ⟨sourceName, text⟩) := by
  -- Unfolded by name: rewriting with the equation of the reader is slow.
  unfold Component.read
  rw [parsed]
  simp only [refused]

section

variable (layout : Layout) {name viewBox : List Char} {elements : List Element}
  (named : IsIdent name) (unquoted : '"' ∉ viewBox)

include named unquoted

theorem refusedFor_of_issue {forest : List WrittenElement} (readable : ReadableForest forest)
    {front part after : List Char} {issue : Issue}
    (split : sourceText layout name viewBox forest name = front ++ (part ++ after))
    (found : checkForest 0 (placedForest layout 0 (forestStart name viewBox) forest) =
      .error (issue, ⟨Text.byteLength front, Text.byteLength part⟩)) :
    RefusedFor front part after issue := by
  have exported (left right : Span) :
      checkExport ⟨String.ofList name, left⟩ ⟨String.ofList name, right⟩ = .ok () := by
    simp [checkExport]
  have refused : (placedComponent layout name viewBox forest name).check =
      .error (issue, ⟨Text.byteLength front, Text.byteLength part⟩) := by
    simp only [placedComponent, WrittenComponent.check, exported, found]
  refine read_of_check_error ?_ refused
  rw [String.toList_ofList, ← split]
  exact parseWritten_sourceText layout named named unquoted readable

variable (readable : ForestEverywhere IsReadable elements)

include readable

theorem Replaceable.refusesOther {path : List Nat} {index : Nat} {target : Element}
    (found : elementAt elements (path ++ [index]) = some target) {original : String}
    {change : String → WrittenElement → WrittenElement} {part : String → List Char}
    {wrong : String → Prop} {issue : String → Issue}
    (replaceable : Replaceable layout index (writtenElement index target) original change part
      wrong issue) :
    RefusesOther (sourceText layout name viewBox (writtenForest 0 elements) name) original
      (fun other => sourceText layout name viewBox
        (modifyForest (change other) (path ++ [index]) (writtenForest 0 elements)) name)
      part wrong issue := by
  obtain ⟨spot, whole, inside, rfl, changed⟩ := Spot.exists_inForest found readable layout 0
  obtain ⟨front, after, stands⟩ := replaceable.stands spot.depth
  let start := declarationText name ++ ("\n    ".toList ++ wrapperText viewBox)
  let ended := "\n    ".toList ++ (wrapperEnd ++ (exportText ++ ' ' :: (name ++ [';'])))
  have spelled (other : String) : sourceText layout name viewBox
      (whole (change other (writtenElement spot.index target))) name =
        (start ++ (spot.before ++ front)) ++ (part other ++ (after ++ (spot.after ++ ended))) := by
    have present : (whole (change other (writtenElement spot.index target))).isEmpty = false :=
      List.isEmpty_eq_false_iff.mpr (inside.present _)
    simp [sourceText, inside.text, (stands other).1, wrapperGap, present, start, ended]
  refine ⟨start ++ (spot.before ++ front), after ++ (spot.after ++ ended), ?_, fun other => ?_⟩
  -- The source itself is the one where the original is put in the stead of the part.
  · have unchanged := changed id
    rw [modifyForest_id, id, ← replaceable.same] at unchanged
    rw [unchanged, spelled]
  · dsimp only
    rw [changed]
    refine ⟨spelled other, fun wrongOther => ?_⟩
    refine refusedFor_of_issue layout named unquoted
      (inside.readable (replaceable.readable wrongOther)) (spelled other) (inside.issue ?_)
    rw [(stands other).2 wrongOther]
    simp [start, forestStart, Nat.add_assoc]

theorem refusesOther_export :
    RefusesOther (sourceText layout name viewBox (writtenForest 0 elements) name)
      (String.ofList name)
      (fun exported =>
        sourceText layout name viewBox (writtenForest 0 elements) exported.toList)
      String.toList (IsOtherIdent (String.ofList name)) (.exportName · (String.ofList name)) := by
  let front := declarationText name ++ ("\n    ".toList ++ (wrapperText viewBox ++
    (forestText layout 0 (writtenForest 0 elements) ++ (wrapperGap (writtenForest 0 elements) ++
      (wrapperEnd ++ (exportText ++ [' ']))))))
  have spelled (exported : List Char) :
      sourceText layout name viewBox (writtenForest 0 elements) exported =
        front ++ (exported ++ [';']) := by
    simp [sourceText, front]
  refine ⟨front, [';'], ?_, fun exported => ⟨spelled exported.toList, fun other => ?_⟩⟩
  · rw [spelled, String.toList_ofList]
  · have span : exportedSpan layout name viewBox (writtenForest 0 elements) exported.toList =
        ⟨Text.byteLength front, Text.byteLength exported.toList⟩ := by
      simp [exportedSpan, forestStart, front, Nat.add_assoc]
    have refused : (placedComponent layout name viewBox (writtenForest 0 elements)
        exported.toList).check = .error (.exportName exported (String.ofList name),
          ⟨Text.byteLength front, Text.byteLength exported.toList⟩) := by
      simp only [placedComponent, WrittenComponent.check, checkExport, String.ofList_toList,
        if_neg other.2, span]
    refine read_of_check_error ?_ refused
    rw [String.toList_ofList, ← spelled]
    exact parseWritten_sourceText layout named other.1 unquoted
      (writtenForest_readable 0 elements readable)

end

/-- A key, a closing tag or an export that contradicts the rest of a source is refused, with the
place of what contradicts. Closing tags are those of elements; the grammar knows the wrapper's. -/
theorem read_inconsistent (layout : Layout) (frame : Frame) {name : String}
    {elements : List Element} (named : IsIdent name.toList)
    (readable : ForestEverywhere IsReadable elements) :
    let source := ((Component.ofElements elements name frame).source layout).toList
    let forest := writtenForest 0 elements
    let text := sourceText layout name.toList frame.text.toList
    (∀ path index element, elementAt elements (path ++ [index]) = some element →
      RefusesOther source (keyOf index)
        (fun key => text (modifyForest (withKey key) (path ++ [index]) forest) name.toList)
        (fun key => Parser.keyText key.toList) (IsOtherKey index) (.key index)) ∧
    (∀ path index element, elementAt elements (path ++ [index]) = some element →
      element.children ≠ [] →
      RefusesOther source element.tag
        (fun closing => text (modifyForest (withClosing closing) (path ++ [index]) forest)
          name.toList)
        String.toList (IsOtherName element.tag) (.closingTag · element.tag)) ∧
    RefusesOther source name (fun exported => text forest exported.toList) String.toList
      (IsOtherIdent name) (.exportName · name) := by
  have unquoted := frame.quote_not_mem_text
  intro source forest text
  have spelled : source = text forest name.toList := toList_source layout _
  rw [spelled]
  refine ⟨?_, ?_, ?_⟩
  · intro path index element found
    exact (replaceable_key layout index (readable.elementAt found)).refusesOther layout named
      unquoted readable found
  · intro path index element found present
    exact (replaceable_closing layout index (readable.elementAt found) present).refusesOther layout
      named unquoted readable found
  · simpa using refusesOther_export layout named unquoted readable

theorem read_inconsistent_nested :
    let elements : List Element :=
      [⟨"g", OrderedMap.ofList [("fill", .text "é")],
        [⟨"path", OrderedMap.ofList [("style", .style (OrderedMap.ofList [("fill", "red")]))], []⟩,
          ⟨"circle", OrderedMap.ofList [], []⟩]⟩]
    let source := ((Component.ofElements elements "Star" ⟨.zero, .zero, .nan, .zero⟩).source
      ⟨0, 2⟩).toList
    (∃ front after, source = front ++ (Parser.keyText (keyOf 1).toList ++ after) ∧
      RefusedFor front (Parser.keyText "18446744073709551617".toList) after
        (.key 1 "18446744073709551617")) ∧
    (∃ front after, source = front ++ ("g".toList ++ after) ∧
      RefusedFor front "defs".toList after (.closingTag "defs" "g")) ∧
    ∃ front after, source = front ++ ("Star".toList ++ after) ∧
      RefusedFor front "Moon".toList after (.exportName "Moon" "Star") := by
  intro elements source
  have named : IsIdent "Star".toList := by decide
  have readable : ForestEverywhere IsReadable elements := by decide
  obtain ⟨keys, closings, exports⟩ :=
    read_inconsistent ⟨0, 2⟩ ⟨.zero, .zero, .nan, .zero⟩ named readable
  refine ⟨?_, ?_, ?_⟩
  · obtain ⟨front, after, split, others⟩ := keys [0] 1 _ rfl
    have other : IsOtherKey 1 "18446744073709551617" := ⟨⟨by decide, by decide⟩, by decide⟩
    exact ⟨front, after, split, (others "18446744073709551617").2 other⟩
  · obtain ⟨front, after, split, others⟩ := closings [] 0 _ rfl (by simp)
    exact ⟨front, after, split, (others "defs").2 ⟨by decide, by decide⟩⟩
  · obtain ⟨front, after, split, others⟩ := exports
    exact ⟨front, after, split, (others "Moon").2 ⟨by decide, by decide⟩⟩

end VectorIcon.Component
