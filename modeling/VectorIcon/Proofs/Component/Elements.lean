import VectorIcon.Proofs.Component.Attributes

/-!
Written elements as they stand in a source. `WrittenElement.text` lays an element out, and
`WrittenElement.placed` gives its keys and closing names the places that they have in that text.
The grammar reads the one back as the other, whatever the keys and the closing names say.
-/

namespace VectorIcon.Component

def lineGap (layout : Layout) (depth : Nat) : List Char :=
  '\n' :: List.replicate (layout.spaces depth) ' '

theorem lineGap_white (layout : Layout) (depth : Nat) :
    (lineGap layout depth).all Parser.isWhite = true := by
  simp [lineGap, Parser.isWhite]

def tagText (tag : String) (key : List Char) (entries : List (String × PropertyValue)) :
    List Char :=
  "<".toList ++ (tag.toList ++ (' ' :: (Parser.keyText key ++ ' ' :: propertiesText entries)))

def closingText (closing : String) : List Char :=
  "</".toList ++ (closing.toList ++ ['>'])

mutual
def WrittenElement.text (layout : Layout) (depth : Nat) : WrittenElement → List Char
  | ⟨tag, key, properties, _, none⟩ => tagText tag key.text.toList properties ++ " />".toList
  | ⟨tag, key, properties, children, some closing⟩ =>
      tagText tag key.text.toList properties ++ '>' ::
        (forestText layout (depth + 1) children ++
          (lineGap layout depth ++ closingText closing.text))

def forestText (layout : Layout) (depth : Nat) : List WrittenElement → List Char
  | [] => []
  | written :: rest =>
      lineGap layout depth ++ (written.text layout depth ++ forestText layout depth rest)
end

def keySpan (offset : Nat) (tag : String) (key : List Char) : Span :=
  ⟨offset + Text.byteLength ("<".toList ++ (tag.toList ++ [' '])),
    Text.byteLength (Parser.keyText key)⟩

mutual
def WrittenElement.placed (layout : Layout) (depth offset : Nat) :
    WrittenElement → WrittenElement
  | ⟨tag, key, properties, _, none⟩ =>
      ⟨tag, ⟨key.text, keySpan offset tag key.text.toList⟩, properties, [], none⟩
  | ⟨tag, key, properties, children, some closing⟩ =>
      let inside := offset + Text.byteLength (tagText tag key.text.toList properties ++ ['>'])
      let close := inside +
        Text.byteLength (forestText layout (depth + 1) children ++
          (lineGap layout depth ++ "</".toList))
      ⟨tag, ⟨key.text, keySpan offset tag key.text.toList⟩, properties,
        placedForest layout (depth + 1) inside children,
        some ⟨closing.text, ⟨close, Text.byteLength closing.text.toList⟩⟩⟩

def placedForest (layout : Layout) (depth offset : Nat) :
    List WrittenElement → List WrittenElement
  | [] => []
  | written :: rest =>
      let start := offset + Text.byteLength (lineGap layout depth)
      written.placed layout depth start ::
        placedForest layout depth (start + Text.byteLength (written.text layout depth)) rest
end

theorem forestText_append (layout : Layout) (depth : Nat) (left right : List WrittenElement) :
    forestText layout depth (left ++ right) =
      forestText layout depth left ++ forestText layout depth right := by
  induction left with
  | nil => rfl
  | cons written left ih => simp only [List.cons_append, forestText, ih, List.append_assoc]

theorem placedForest_append (layout : Layout) (depth offset : Nat)
    (left right : List WrittenElement) :
    placedForest layout depth offset (left ++ right) =
      placedForest layout depth offset left ++
        placedForest layout depth (offset + Text.byteLength (forestText layout depth left)) right := by
  induction left generalizing offset with
  | nil => rfl
  | cons written left ih =>
      simp only [List.cons_append, placedForest, forestText, ih, Text.byteLength_append,
        Nat.add_assoc]

structure IsKey (text : List Char) : Prop where
  nonempty : text ≠ []
  accepted : text.all Char.isDigit = true

/-- An element closes itself when it has no children, and else by a name. -/
def Closes : Option Written → List WrittenElement → Prop
  | none, children => children = []
  | some closing, _ => IsName closing.text.toList

mutual
def WrittenElement.Readable : WrittenElement → Prop
  | ⟨tag, key, properties, children, closing⟩ =>
      IsName tag.toList ∧ IsKey key.text.toList ∧ (∀ entry ∈ properties, IsProperty entry) ∧
        Closes closing children ∧ ReadableForest children

def ReadableForest : List WrittenElement → Prop
  | [] => True
  | written :: rest => written.Readable ∧ ReadableForest rest
end

theorem ReadableForest.append {left right : List WrittenElement} (first : ReadableForest left)
    (second : ReadableForest right) : ReadableForest (left ++ right) := by
  induction left with
  | nil => exact second
  | cons written left ih => exact ⟨first.1, ih first.2⟩

namespace Parser

theorem run_selfClosed {gap : List Char} (white : gap.all isWhite = true) (rest : List Char)
    (offset : Nat) :
    run selfClosed ⟨gap ++ '/' :: '>' :: rest, offset⟩ =
      some (([], none), ⟨rest, offset + Text.byteLength (gap ++ "/>".toList)⟩) := by
  have valid : Spread.valid ⟨gap, "/>"⟩ = true := by
    simpa [Spread.valid, isWhite] using white
  have read : run (token "/>") ⟨gap ++ '/' :: '>' :: rest, offset⟩ =
      some ((), ⟨rest, offset + Text.byteLength (gap ++ "/>".toList)⟩) := by
    simpa [Spread.text] using run_token ⟨gap, "/>"⟩ valid rest offset
  simp [selfClosed, read]

theorem run_selfClosed_none {gap : List Char} (white : gap.all isWhite = true) (rest : List Char)
    (offset : Nat) : run selfClosed ⟨gap ++ '>' :: rest, offset⟩ = none := by
  have missing (offset : Nat) : run (literal "/>") ⟨'>' :: rest, offset⟩ = none :=
    run_literal_none "/>" rfl offset
  have skipped : run (token "/>") ⟨gap ++ '>' :: rest, offset⟩ = none := by
    rw [token, run_spaced (literal "/>") gap white rfl, missing]
  simp [selfClosed, skipped]

theorem run_spaced_element_none {gap : List Char} (white : gap.all isWhite = true)
    (bound : Nat) (rest : List Char) (offset : Nat) :
    run (spaced (element bound)) ⟨gap ++ '<' :: '/' :: rest, offset⟩ = none := by
  rw [run_spaced (element bound) gap white rfl]
  cases bound with
  | zero => simp [element]
  | succ bound =>
      have opened (offset : Nat) : run (literal "<") ⟨'<' :: '/' :: rest, offset⟩ =
          some ((), ⟨'/' :: rest, offset + '<'.utf8Size⟩) := run_literal "<" _ offset
      have missing (offset : Nat) :
          run (spaced (rule .tagName (takeSome isNameChar))) ⟨'/' :: rest, offset⟩ = none := by
        rw [run_spaced_solid _ rfl, run_rule]
        exact run_takeSome_none rfl offset
      simp [element, opened, missing]

theorem run_content {child : Parser WrittenElement} {bound : Nat} {left inside gap : List Char}
    {children : Nat → List WrittenElement} {closing : String} (leftWhite : left.all isWhite = true)
    (gapWhite : gap.all isWhite = true) (named : IsName closing.toList) {rest : List Char}
    (read : ∀ offset, run (repeated child bound)
      ⟨inside ++ (gap ++ (closingText closing ++ rest)), offset⟩ =
        some (children offset,
          ⟨gap ++ (closingText closing ++ rest), offset + Text.byteLength inside⟩))
    (offset : Nat) :
    run (content child bound)
        ⟨left ++ '>' :: (inside ++ (gap ++ (closingText closing ++ rest))), offset⟩ =
      some ((children (offset + Text.byteLength (left ++ ['>'])),
          some ⟨closing, ⟨offset + Text.byteLength (left ++ '>' :: (inside ++ (gap ++ "</".toList))),
            Text.byteLength closing.toList⟩⟩),
        ⟨rest, offset +
          Text.byteLength (left ++ '>' :: (inside ++ (gap ++ closingText closing)))⟩) := by
  have endValid : Spread.valid ⟨left, ">"⟩ = true := by
    simpa [Spread.valid, isWhite] using leftWhite
  have tagEnd (rest : List Char) : run (token ">") ⟨left ++ '>' :: rest, offset⟩ =
      some ((), ⟨rest, offset + Text.byteLength (left ++ ['>'])⟩) := by
    simpa [Spread.text] using run_token ⟨left, ">"⟩ endValid rest offset
  have closeValid : [⟨gap, "<"⟩, ⟨[], "/"⟩].all Spread.valid = true := by
    simpa [Spread.valid, isWhite] using gapWhite
  have opened (offset : Nat) : run (tokens ["<", "/"])
      ⟨gap ++ (closingText closing ++ rest), offset⟩ =
        some ((), ⟨closing.toList ++ '>' :: rest, offset + Text.byteLength (gap ++ "</".toList)⟩) := by
    simpa [Spread.text, closingText] using
      run_tokens [⟨gap, "<"⟩, ⟨[], "/"⟩] closeValid (closing.toList ++ '>' :: rest) offset
  have name (offset : Nat) := run_takeSome ('>' :: rest) named.nonempty named.accepted rfl offset
  have last (offset : Nat) : run (token ">") ⟨'>' :: rest, offset⟩ =
      some ((), ⟨rest, offset + '>'.utf8Size⟩) := run_token ⟨[], ">"⟩ (by decide) rest offset
  simp only [content, closingName, written, run_bind, tagEnd, Option.bind_some, read, opened,
    run_spaced_solid _ (named.stops_white _), run_located, run_rule, name, Option.map_some, last,
    run_pure, Cursor.spanTo, String.ofList_toList]
  simp [closingText, Nat.add_assoc]
  omega

theorem run_element_start {tag : String} {key : List Char} (named : IsName tag.toList)
    (keyed : IsKey key) (bound : Nat) (behind : List Char) (offset : Nat) :
    run (element (bound + 1))
        ⟨"<".toList ++ (tag.toList ++ ' ' :: (keyText key ++ behind)), offset⟩ =
      (run (repeated (property bound) bound) ⟨behind, offset +
          Text.byteLength ("<".toList ++ (tag.toList ++ ' ' :: keyText key))⟩).bind fun properties =>
        (run (orElse selfClosed (content (element bound) bound)) properties.2).map fun last =>
          (⟨tag, ⟨String.ofList key, keySpan offset tag key⟩, properties.1, last.1.1, last.1.2⟩,
            last.2) := by
  have tagName (offset : Nat) :=
    run_takeSome (' ' :: (keyText key ++ behind)) named.nonempty named.accepted rfl offset
  have keyGap (offset : Nat) : run (spaced keyAttribute) ⟨' ' :: (keyText key ++ behind), offset⟩ =
      run keyAttribute ⟨keyText key ++ behind, offset + ' '.utf8Size⟩ :=
    run_spaced _ [' '] rfl rfl offset
  simp only [element, run_rule, run_bind, run_literal, Option.bind_some,
    run_spaced_solid _ (named.stops_white _), tagName, keyGap,
    run_keyAttribute keyed.nonempty keyed.accepted, run_pure, String.ofList_toList,
    Option.map_eq_bind, Function.comp_def]
  simp [keySpan, Nat.add_assoc]

theorem run_element_properties {tag : String} {key : List Char}
    {entries : List (String × PropertyValue)} (named : IsName tag.toList) (keyed : IsKey key)
    (readable : ∀ entry ∈ entries, IsProperty entry) {bound : Nat}
    (room : (propertiesText entries).length < bound) {gap : List Char}
    (white : gap.all isWhite = true) {mark : Char} (solid : isWhite mark = false)
    (other : isNameChar mark = false) :
    ∃ size left, size + Text.byteLength left = Text.byteLength (tagText tag key entries ++ gap) ∧
      left.all isWhite = true ∧ ∀ tail offset,
        run (element (bound + 1)) ⟨tagText tag key entries ++ (gap ++ mark :: tail), offset⟩ =
          (run (orElse selfClosed (content (element bound) bound))
            ⟨left ++ mark :: tail, offset + size⟩).map fun last =>
              (⟨tag, ⟨String.ofList key, keySpan offset tag key⟩, entries, last.1.1, last.1.2⟩,
                last.2) := by
  obtain ⟨taken, left, split, leftWhite, properties⟩ :=
    run_properties readable white solid other room
  have sizes : ' '.utf8Size + (Text.byteLength (propertiesText entries) + Text.byteLength gap) =
      Text.byteLength taken + Text.byteLength left := by
    simpa using congrArg Text.byteLength split
  let start := "<".toList ++ (tag.toList ++ ' ' :: keyText key)
  refine ⟨Text.byteLength start + Text.byteLength taken, left, ?_, leftWhite, ?_⟩
  · simp only [start, tagText, Text.byteLength_append, Text.byteLength_cons]
    omega
  · intro tail offset
    have spelled : tagText tag key entries ++ (gap ++ mark :: tail) =
        "<".toList ++ (tag.toList ++ ' ' :: (keyText key ++ (taken ++ (left ++ mark :: tail)))) := by
      have shape : ' ' :: (propertiesText entries ++ (gap ++ mark :: tail)) =
          taken ++ (left ++ mark :: tail) := by
        simpa using congrArg (· ++ mark :: tail) split
      simp [tagText, ← shape]
    rw [spelled, run_element_start named keyed]
    simp only [properties, Option.bind_some, start, Nat.add_assoc]

theorem run_element_of_tail {tag : String} {key : List Char}
    {entries : List (String × PropertyValue)} (named : IsName tag.toList) (keyed : IsKey key)
    (readable : ∀ entry ∈ entries, IsProperty entry) {bound : Nat}
    (room : (propertiesText entries).length < bound) (gap : List Char)
    (white : gap.all isWhite = true) (mark : Char) (solid : isWhite mark = false)
    (other : isNameChar mark = false) (tail : List Char) {rest : List Char}
    (children : Nat → List WrittenElement) (closing : Nat → Option Written)
    (read : ∀ left offset, left.all isWhite = true →
      run (orElse selfClosed (content (element bound) bound))
          ⟨left ++ mark :: (tail ++ rest), offset⟩ =
        some ((children (offset + Text.byteLength left), closing (offset + Text.byteLength left)),
          ⟨rest, offset + Text.byteLength (left ++ mark :: tail)⟩))
    (offset : Nat) :
    run (element (bound + 1))
        ⟨tagText tag key entries ++ (gap ++ mark :: (tail ++ rest)), offset⟩ =
      some (⟨tag, ⟨String.ofList key, keySpan offset tag key⟩, entries,
          children (offset + Text.byteLength (tagText tag key entries ++ gap)),
          closing (offset + Text.byteLength (tagText tag key entries ++ gap))⟩,
        ⟨rest, offset + Text.byteLength (tagText tag key entries ++ (gap ++ mark :: tail))⟩) := by
  obtain ⟨size, left, sizes, leftWhite, properties⟩ :=
    run_element_properties named keyed readable room white solid other
  have start : offset + size + Text.byteLength left =
      offset + Text.byteLength (tagText tag key entries ++ gap) := by omega
  have last : offset + size + Text.byteLength (left ++ mark :: tail) =
      offset + Text.byteLength (tagText tag key entries ++ (gap ++ mark :: tail)) := by
    simp only [Text.byteLength_append] at sizes ⊢
    omega
  rw [properties, read _ _ leftWhite, start, last, Option.map_some]

theorem text_stops_white (layout : Layout) (depth : Nat) (written : WrittenElement)
    (rest : List Char) : Text.stops isWhite (written.text layout depth ++ rest) = true := by
  obtain ⟨tag, key, properties, children, closing⟩ := written
  cases closing <;> rfl

theorem length_le_forestText (layout : Layout) (depth : Nat) (forest : List WrittenElement) :
    forest.length ≤ (forestText layout depth forest).length := by
  induction forest with
  | nil => simp
  | cons written rest ih =>
      simp only [forestText, lineGap, List.length_cons, List.length_append]
      omega

theorem length_propertiesText_lt (tag : String) (key : List Char)
    (entries : List (String × PropertyValue)) :
    (propertiesText entries).length + 2 < (tagText tag key entries).length := by
  simp only [tagText, keyText, List.length_append, List.length_cons]
  have opened : "<".toList.length = 1 := rfl
  have named : "key".toList.length = 3 := rfl
  omega

mutual
/-- The grammar reads an element back as it is placed, whatever stands behind it. -/
theorem run_element (layout : Layout) (depth : Nat) : ∀ (written : WrittenElement),
    written.Readable → ∀ (bound : Nat), (written.text layout depth).length ≤ bound →
      ∀ (rest : List Char) (offset : Nat),
        run (element bound) ⟨written.text layout depth ++ rest, offset⟩ =
          some (written.placed layout depth offset,
            ⟨rest, offset + Text.byteLength (written.text layout depth)⟩)
  | ⟨tag, key, properties, children, none⟩, ⟨named, keyed, readable, childless, _⟩, bound, room,
      rest, offset => by
      have smaller := length_propertiesText_lt tag key.text.toList properties
      simp only [WrittenElement.text, List.length_append] at room
      obtain ⟨bound, rfl⟩ : ∃ less, bound = less + 1 := ⟨bound - 1, by omega⟩
      have fits : (propertiesText properties).length < bound := by omega
      have tail (left : List Char) (offset : Nat) (white : left.all isWhite = true) :
          run (orElse selfClosed (content (element bound) bound))
              ⟨left ++ '/' :: (['>'] ++ rest), offset⟩ =
            some (([], none), ⟨rest, offset + Text.byteLength (left ++ '/' :: ['>'])⟩) := by
        simp only [run_orElse, List.singleton_append, run_selfClosed white, Option.some_or]
        rfl
      have read := run_element_of_tail named keyed readable fits [' '] rfl '/' rfl rfl ['>']
        (fun _ => []) (fun _ => none) tail offset
      simpa [WrittenElement.text, WrittenElement.placed] using read
  | ⟨tag, key, properties, children, some closing⟩, ⟨named, keyed, readable, closed, below⟩, bound,
      room, rest, offset => by
      have smaller := length_propertiesText_lt tag key.text.toList properties
      simp only [WrittenElement.text, List.length_append, List.length_cons] at room
      obtain ⟨bound, rfl⟩ : ∃ less, bound = less + 1 := ⟨bound - 1, by omega⟩
      have fits : (propertiesText properties).length < bound := by omega
      have count := length_le_forestText layout (depth + 1) children
      let inside := forestText layout (depth + 1) children
      let gap := lineGap layout depth
      have gapWhite : gap.all isWhite = true := lineGap_white layout depth
      have spelled : closingText closing.text ++ rest =
          '<' :: '/' :: (closing.text.toList ++ '>' :: rest) := by simp [closingText]
      have childrenRead (offset : Nat) : run (repeated (element bound) bound)
          ⟨inside ++ (gap ++ (closingText closing.text ++ rest)), offset⟩ =
            some (placedForest layout (depth + 1) offset children,
              ⟨gap ++ (closingText closing.text ++ rest), offset + Text.byteLength inside⟩) := by
        rw [spelled]
        exact run_forest layout (depth + 1) children below bound bound (by omega) (by omega)
          (run_spaced_element_none gapWhite bound _) offset
      have tail (left : List Char) (offset : Nat) (white : left.all isWhite = true) :
          run (orElse selfClosed (content (element bound) bound))
              ⟨left ++ '>' :: ((inside ++ (gap ++ closingText closing.text)) ++ rest), offset⟩ =
            some ((placedForest layout (depth + 1) (offset + Text.byteLength left + '>'.utf8Size)
                children,
              some ⟨closing.text, ⟨offset + Text.byteLength left +
                Text.byteLength ('>' :: (inside ++ (gap ++ "</".toList))),
                Text.byteLength closing.text.toList⟩⟩),
              ⟨rest, offset + Text.byteLength
                (left ++ '>' :: (inside ++ (gap ++ closingText closing.text)))⟩) := by
        have content := run_content white gapWhite closed childrenRead offset
        simp only [run_orElse, run_selfClosed_none white, Option.none_or, List.append_assoc, content]
        simp [Nat.add_assoc]
      have read := run_element_of_tail named keyed readable fits [] rfl '>' rfl rfl
        (inside ++ (gap ++ closingText closing.text))
        (fun start => placedForest layout (depth + 1) (start + '>'.utf8Size) children)
        (fun start => some ⟨closing.text,
          ⟨start + Text.byteLength ('>' :: (inside ++ (gap ++ "</".toList))),
            Text.byteLength closing.text.toList⟩⟩) tail offset
      simpa [WrittenElement.text, WrittenElement.placed, inside, gap, Nat.add_assoc] using read

theorem run_forest (layout : Layout) (depth : Nat) : ∀ (forest : List WrittenElement),
    ReadableForest forest → ∀ (bound count : Nat),
      (forestText layout depth forest).length ≤ bound → forest.length ≤ count →
      ∀ {rest : List Char}, (∀ offset, run (spaced (element bound)) ⟨rest, offset⟩ = none) →
      ∀ (offset : Nat),
        run (repeated (element bound) count) ⟨forestText layout depth forest ++ rest, offset⟩ =
          some (placedForest layout depth offset forest,
            ⟨rest, offset + Text.byteLength (forestText layout depth forest)⟩)
  | [], _, bound, count, _, _, rest, stop, offset => by
      exact run_repeated_none (stop offset) count
  | written :: forest, ⟨first, others⟩, bound, 0, room, enough, rest, stop, offset => by
      simp at enough
  | written :: forest, ⟨first, others⟩, bound, count + 1, room, enough, rest, stop, offset => by
      simp only [forestText, List.length_append] at room
      simp only [List.length_cons, Nat.add_le_add_iff_right] at enough
      have read := run_element layout depth written first bound (by omega)
      have taken : run (spaced (element bound)) ⟨lineGap layout depth ++ (written.text layout depth ++
          (forestText layout depth forest ++ rest)), offset⟩ = _ :=
        (run_spaced _ _ (lineGap_white layout depth) (text_stops_white layout depth written _)
          offset).trans (read _ _)
      have more := run_forest layout depth forest others bound count (by omega) enough stop
      simpa [forestText, placedForest, Nat.add_assoc] using run_repeated_cons taken (more _)
end

end Parser

end VectorIcon.Component
