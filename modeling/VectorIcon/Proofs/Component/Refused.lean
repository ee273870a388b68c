import VectorIcon.Proofs.Component.Accepted
import VectorIcon.Proofs.Component.RoundTrip

/-!
A style entry without a name cannot be read back: no style name begins at the colon that it is
written with. The reader gets stuck in front of it, and from there the failure spreads to the
property, the element, the elements around it and the component.
-/

namespace VectorIcon.Component

theorem exists_first_violation {α : Type} {holds : α → Prop} [DecidablePred holds] {items : List α}
    (fails : ¬∀ item ∈ items, holds item) :
    ∃ before bad after, items = before ++ bad :: after ∧ (∀ item ∈ before, holds item) ∧
      ¬holds bad := by
  induction items with
  | nil => simp at fails
  | cons item rest ih =>
      by_cases good : holds item
      · have later : ¬∀ other ∈ rest, holds other :=
          fun all => fails (List.forall_mem_cons.mpr ⟨good, all⟩)
        obtain ⟨before, bad, after, split, kept, violated⟩ := ih later
        refine ⟨item :: before, bad, after, by simp [split], ?_, violated⟩
        simpa [good] using kept
      · exact ⟨[], item, rest, rfl, by simp, good⟩

/-- The properties of a node up to the first one that cannot be read, and the entries of its style
up to the first one without a name. -/
structure Blocked (properties : Properties) (before : List (String × PropertyValue))
    (style : Style) (entries : List (String × String)) : Prop where
  properties : ∃ after, properties.entries = before ++ ("style", .style style) :: after
  before : ∀ entry ∈ before, IsProperty entry
  style : ∃ value after, style.entries = entries ++ ("", value) :: after
  entries : ∀ entry ∈ entries, IsStyleEntry entry

theorem exists_blocked {tag : String} {properties : Properties} (read : IsRead tag properties)
    (refused : ¬IsReadable tag properties) :
    ∃ before style entries, Blocked properties before style entries := by
  have fails : ¬∀ entry ∈ properties.entries, IsProperty entry :=
    fun all => refused ⟨read.tag, all⟩
  obtain ⟨before, bad, after, split, kept, violated⟩ := exists_first_violation fails
  have given := read.properties bad (by simp [split])
  cases given with
  | text named unquoted => exact absurd (.text named unquoted) violated
  | @style style entriesRead =>
      have styleFails : ¬∀ entry ∈ style.entries, IsStyleEntry entry :=
        fun all => violated (.style all)
      obtain ⟨entries, entry, others, styleSplit, entriesKept, nameless⟩ :=
        exists_first_violation styleFails
      have entryRead := entriesRead entry (by simp [styleSplit])
      obtain ⟨name, value⟩ := entry
      by_cases empty : name = ""
      · subst empty
        exact ⟨before, style, entries, ⟨after, split⟩, kept, ⟨value, others, styleSplit⟩,
          entriesKept⟩
      · have nonempty : name.toList ≠ [] := by simpa using empty
        exact absurd ⟨⟨nonempty, entryRead.trimmed, entryRead.accepted⟩, entryRead.value⟩ nameless

namespace Parser

theorem run_token_none (text : String) {gap rest : List Char} (white : gap.all isWhite = true)
    (solid : Text.stops isWhite rest = true) (other : text.toList.isPrefixOf rest = false)
    (offset : Nat) : run (token text) ⟨gap ++ rest, offset⟩ = none := by
  rw [token, run_spaced _ gap white solid]
  exact run_literal_none text other _

theorem run_styleEntries_blocked {entries : List (String × String)} (value : String)
    (after : List (String × String)) (readable : ∀ entry ∈ entries, IsStyleEntry entry)
    {bound : Nat} (room : entries.length ≤ bound) (rest : List Char) (offset : Nat) :
    ∃ behind, run (styleEntries bound) ⟨' ' :: (List.intercalate ", ".toList
          ((entries ++ ("", value) :: after).map Component.styleEntry) ++ rest), offset⟩ =
        some (entries, behind) ∧ run (token "\x7d\x7d") behind = none := by
  let more := ": '".toList ++ (value.toList ++ '\'' ::
    after.flatMap fun entry => ", ".toList ++ Component.styleEntry entry) ++ rest
  have nameless (offset : Nat) : run (spaced styleEntry) ⟨' ' :: more, offset⟩ = none :=
    run_spaced_styleEntry_none (show [' '].all isWhite = true from rfl) rfl rfl _ offset
  cases entries with
  | nil =>
      refine ⟨⟨' ' :: more, offset⟩, ?_, ?_⟩
      · have spelled : ' ' :: (List.intercalate ", ".toList
            (([] ++ ("", value) :: after).map Component.styleEntry) ++ rest) = ' ' :: more := by
          simp [Text.intercalate_cons, List.flatMap_map, Component.styleEntry, more]
        rw [spelled]
        simp [styleEntries, nameless]
      · exact run_token_none _ (show [' '].all isWhite = true from rfl) rfl rfl offset
  | cons entry entries =>
      let inside := List.intercalate ", ".toList ((entry :: entries).map Component.styleEntry)
      have spelled : List.intercalate ", ".toList
          ((entry :: entries ++ ("", value) :: after).map Component.styleEntry) ++ rest =
            inside ++ ',' :: ' ' :: more := by
        simp [Text.intercalate_cons, List.flatMap_map, Component.styleEntry, inside, more]
      have stop (offset : Nat) : run (spaced (do literal ","; spaced styleEntry))
          ⟨',' :: ' ' :: more, offset⟩ = none := by
        have comma (offset : Nat) : run (literal ",") ⟨',' :: ' ' :: more, offset⟩ =
            some ((), ⟨' ' :: more, offset + ','.utf8Size⟩) := run_literal "," _ offset
        rw [run_spaced_solid _ rfl]
        simp [comma, nameless]
      have fits : entries.length ≤ bound := Nat.le_trans (Nat.le_succ _) room
      rw [spelled]
      exact ⟨_, run_styleEntries_cons readable fits stop offset,
        run_token_none _ (show [].all isWhite = true from rfl) rfl rfl _⟩

theorem run_spaced_property_blocked {style : Style} {entries after : List (String × String)}
    {value : String} (split : style.entries = entries ++ ("", value) :: after)
    (readable : ∀ entry ∈ entries, IsStyleEntry entry) {bound : Nat}
    (room : entries.length ≤ bound) (rest : List Char) (offset : Nat) :
    run (spaced (property bound))
      ⟨' ' :: (Component.property ("style", .style style) ++ rest), offset⟩ = none := by
  let inside := List.intercalate ", ".toList (style.entries.map Component.styleEntry)
  let object := ' ' :: (inside ++ ' ' :: '\x7d' :: '\x7d' :: rest)
  have spelled : Component.property ("style", .style style) ++ rest =
      "style".toList ++ ("=\x7b\x7b".toList ++ object) := by
    simp [Component.property, styleObject, braced, openBrace, closeBrace, object, inside]
  have opened (offset : Nat) :
      run (tokens ["=", "\x7b\x7b"]) ⟨"=\x7b\x7b".toList ++ object, offset⟩ =
        some ((), ⟨object, offset + Text.byteLength "=\x7b\x7b".toList⟩) :=
    run_tokens [⟨[], "="⟩, ⟨[], "\x7b\x7b"⟩] (by decide) object offset
  have styled (offset : Nat) : run (styleAttribute bound)
      ⟨"style".toList ++ ("=\x7b\x7b".toList ++ object), offset⟩ = none := by
    obtain ⟨behind, taken, unclosed⟩ := run_styleEntries_blocked value after readable room
      (' ' :: '\x7d' :: '\x7d' :: rest)
      (offset + Text.byteLength "style".toList + Text.byteLength "=\x7b\x7b".toList)
    rw [← split] at taken
    simp only [styleAttribute, run_rule, run_bind, run_literal, opened, Option.bind_some, object,
      inside, taken, unclosed, Option.bind_none]
  have plain (offset : Nat) : run plainAttribute
      ⟨"style".toList ++ ("=\x7b\x7b".toList ++ object), offset⟩ = none := by
    have name (offset : Nat) := run_takeSome ("=\x7b\x7b".toList ++ object)
      (show "style".toList ≠ [] by decide) (show "style".toList.all isNameChar = true by decide) rfl
      offset
    have equals (offset : Nat) : run (token "=") ⟨"=\x7b\x7b".toList ++ object, offset⟩ =
        some ((), ⟨'\x7b' :: '\x7b' :: object, offset + '='.utf8Size⟩) :=
      run_token ⟨[], "="⟩ (by decide) _ offset
    have unquoted (offset : Nat) : run (spaced (between .attrValue .quoted '"'))
        ⟨'\x7b' :: '\x7b' :: object, offset⟩ = none := by
      have missing (offset : Nat) : run (literal ('"').toString)
          ⟨'\x7b' :: '\x7b' :: object, offset⟩ = none := run_literal_none _ rfl offset
      rw [run_spaced_solid _ rfl]
      simp only [between, run_rule, run_bind, missing, Option.bind_none]
    simp only [plainAttribute, run_rule, run_bind, name, equals, unquoted, Option.bind_some,
      Option.bind_none]
  have gap : run (spaced (property bound))
      ⟨' ' :: ("style".toList ++ ("=\x7b\x7b".toList ++ object)), offset⟩ =
        run (property bound)
          ⟨"style".toList ++ ("=\x7b\x7b".toList ++ object), offset + ' '.utf8Size⟩ :=
    run_spaced _ [' '] rfl rfl offset
  rw [spelled, gap]
  simp only [property, run_orElse, styled, plain, Option.none_or]

theorem run_tagEnd_none (child : Parser WrittenElement) (bound : Nat) {gap : List Char}
    (white : gap.all isWhite = true) {mark : Char} (named : isNameChar mark = true)
    (rest : List Char) (offset : Nat) :
    run (orElse selfClosed (content child bound)) ⟨gap ++ mark :: rest, offset⟩ = none := by
  have solid : Text.stops isWhite (mark :: rest) = true := by
    simp [isWhite_eq_false_of_isNameChar named]
  have slash : mark ≠ '/' := by
    rintro rfl
    exact absurd named (by decide)
  have angle : mark ≠ '>' := by
    rintro rfl
    exact absurd named (by decide)
  have unclosed := run_token_none "/>" white solid (by simp [List.isPrefixOf, slash.symm]) offset
  have unended := run_token_none ">" white solid (by simp [List.isPrefixOf, angle.symm]) offset
  simp only [run_orElse, selfClosed, content, run_bind, unclosed, unended, Option.bind_none,
    Option.none_or]

theorem run_closing_none (others : List String) {gap : List Char} (white : gap.all isWhite = true)
    {mark : Char} (named : isNameChar mark = true) (rest : List Char) (offset : Nat) :
    run (tokens ("<" :: "/" :: others)) ⟨gap ++ '<' :: mark :: rest, offset⟩ = none := by
  have valid : Spread.valid ⟨gap, "<"⟩ = true := by
    simpa [Spread.valid, isWhite] using white
  have opened : run (token "<") ⟨gap ++ '<' :: mark :: rest, offset⟩ =
      some ((), ⟨mark :: rest, offset + Text.byteLength (gap ++ ['<'])⟩) := by
    simpa [Spread.text] using run_token ⟨gap, "<"⟩ valid (mark :: rest) offset
  have slash : mark ≠ '/' := by
    rintro rfl
    exact absurd named (by decide)
  have missing (offset : Nat) : run (token "/") ⟨mark :: rest, offset⟩ = none :=
    run_token_none "/" (show [].all isWhite = true from rfl)
      (by simp [isWhite_eq_false_of_isNameChar named]) (by simp [List.isPrefixOf, slash.symm])
      offset
  simp only [tokens, run_bind, opened, Option.bind_some, missing, Option.bind_none]

theorem run_element_blocked {tag : String} {key : List Char} {properties : Properties}
    (named : IsName tag.toList) (keyed : IsKey key) {before : List (String × PropertyValue)}
    {style : Style} {entries : List (String × String)}
    (blocked : Blocked properties before style entries) {bound : Nat}
    (room : (tagText tag key properties.entries).length ≤ bound) (rest : List Char)
    (offset : Nat) :
    run (element bound) ⟨tagText tag key properties.entries ++ rest, offset⟩ = none := by
  obtain ⟨after, split⟩ := blocked.properties
  obtain ⟨value, others, styleSplit⟩ := blocked.style
  let bad := Component.property ("style", .style style)
  let front := before.flatMap fun entry => ' ' :: Component.property entry
  let later := after.flatMap fun entry => ' ' :: Component.property entry
  have inside : ' ' :: propertiesText properties.entries = front ++ ' ' :: (bad ++ later) := by
    rw [cons_propertiesText (by simp [split])]
    simp [split, front, later, bad]
  have spelled : tagText tag key properties.entries ++ rest = "<".toList ++ (tag.toList ++
      ' ' :: (keyText key ++ (front ++ ' ' :: (bad ++ (later ++ rest))))) := by
    have shape : ' ' :: (propertiesText properties.entries ++ rest) =
        front ++ ' ' :: (bad ++ (later ++ rest)) := by
      simpa using congrArg (· ++ rest) inside
    simp [tagText, ← shape]
  have smaller := length_propertiesText_lt tag key properties.entries
  have size := congrArg List.length inside
  have count := length_le_propertiesText properties.entries
  have styleSize : style.entries.length ≤ bad.length := length_entries_le style
  have styleCount : entries.length ≤ style.entries.length := by simp [styleSplit]
  have beforeCount : before.length ≤ properties.entries.length := by simp [split]
  simp only [List.length_cons, List.length_append] at size
  obtain ⟨bound, rfl⟩ : ∃ less, bound = less + 1 := ⟨bound - 1, by omega⟩
  have frontRoom : front.length ≤ bound := by omega
  have stop (offset : Nat) :
      run (spaced (property bound)) ⟨' ' :: (bad ++ (later ++ rest)), offset⟩ = none :=
    run_spaced_property_blocked styleSplit blocked.entries (by omega) _ offset
  have read (offset : Nat) : run (repeated (property bound) bound)
      ⟨front ++ ' ' :: (bad ++ (later ++ rest)), offset⟩ = _ :=
    run_repeated_property blocked.before frontRoom (by omega) stop offset
  obtain ⟨more, letter⟩ : ∃ more, bad = 's' :: more := by
    have word : "style".toList = 's' :: "tyle".toList := by decide +kernel
    exact ⟨_, by simp only [bad, Component.property, word, List.cons_append]; rfl⟩
  have white : [' '].all isWhite = true := rfl
  have stuck (offset : Nat) : run (orElse selfClosed (content (element bound) bound))
      ⟨' ' :: (bad ++ (later ++ rest)), offset⟩ = none := by
    rw [letter]
    exact run_tagEnd_none (element bound) bound white (by decide) _ offset
  rw [spelled, run_element_start named keyed]
  simp only [front, read, Option.bind_some, stuck, Option.map_none]

theorem exists_text_eq (layout : Layout) (depth index : Nat) {element : Element}
    (read : element.Everywhere IsRead) :
    ∃ mark more, (writtenElement index element).text layout depth = '<' :: mark :: more ∧
      isNameChar mark = true := by
  obtain ⟨tag, given, children⟩ := element
  obtain ⟨root, _⟩ := read
  obtain ⟨mark, more, spelled⟩ := List.exists_cons_of_ne_nil root.tag.nonempty
  have named : isNameChar mark = true := by
    have all := root.tag.accepted
    rw [spelled, List.all_cons, Bool.and_eq_true] at all
    exact all.1
  cases children <;>
    exact ⟨mark, _, by simp [writtenElement, WrittenElement.text, tagText, spelled]; rfl, named⟩

def StopsAtTag {α : Type} (parser : Parser α) (cursor : Cursor) : Prop :=
  ∃ taken gap mark more last, run parser cursor = some (taken, ⟨gap ++ '<' :: mark :: more, last⟩) ∧
    gap.all isWhite = true ∧ isNameChar mark = true

theorem run_content_none {child : Parser WrittenElement} {bound : Nat} {left text : List Char}
    (white : left.all isWhite = true)
    (stuck : ∀ offset, StopsAtTag (repeated child bound) ⟨text, offset⟩) (offset : Nat) :
    run (content child bound) ⟨left ++ '>' :: text, offset⟩ = none := by
  have valid : Spread.valid ⟨left, ">"⟩ = true := by
    simpa [Spread.valid, isWhite] using white
  have ended : run (token ">") ⟨left ++ '>' :: text, offset⟩ =
      some ((), ⟨text, offset + Text.byteLength (left ++ ['>'])⟩) := by
    simpa [Spread.text] using run_token ⟨left, ">"⟩ valid text offset
  obtain ⟨taken, gap, mark, more, last, read, gapWhite, named⟩ :=
    stuck (offset + Text.byteLength (left ++ ['>']))
  have unclosed := run_closing_none [] gapWhite named more last
  simp only [content, run_bind, ended, Option.bind_some, read, unclosed, Option.bind_none]

mutual
/-- An element with a node that cannot be read is not read at all. -/
theorem run_element_refused (layout : Layout) : ∀ (depth index : Nat) (element : Element),
    element.Everywhere IsRead → ¬element.Everywhere IsReadable → ∀ {bound : Nat},
      ((writtenElement index element).text layout depth).length ≤ bound →
      ∀ (rest : List Char) (offset : Nat),
        run (Parser.element bound)
          ⟨(writtenElement index element).text layout depth ++ rest, offset⟩ = none
  | depth, index, ⟨tag, given, []⟩, ⟨root, below⟩, refused, bound, room, rest, offset => by
      have rootRefused : ¬IsReadable tag given := fun readable => refused ⟨readable, trivial⟩
      obtain ⟨before, style, entries, blocked⟩ := exists_blocked root rootRefused
      simp only [writtenElement, unplaced, WrittenElement.text, List.append_assoc,
        List.length_append] at room ⊢
      exact run_element_blocked root.tag (keyOf_isKey index) blocked (by omega) _ offset
  | depth, index, ⟨tag, given, child :: children⟩, ⟨root, below⟩, refused, bound, room, rest,
      offset => by
      simp only [writtenElement, unplaced, WrittenElement.text, List.append_assoc, List.cons_append,
        List.length_append, List.length_cons] at room ⊢
      by_cases readable : IsReadable tag given
      · have smaller := length_propertiesText_lt tag (keyOf index).toList given.entries
        obtain ⟨bound, rfl⟩ : ∃ less, bound = less + 1 := ⟨bound - 1, by omega⟩
        have fits : (propertiesText given.entries).length < bound := by omega
        have childrenRefused : ¬ForestEverywhere IsReadable (child :: children) :=
          fun all => refused ⟨readable, all⟩
        have childrenRoom : (forestText layout (depth + 1)
            (writtenForest 0 (child :: children))).length ≤ bound := by
          simp only [writtenForest, Nat.zero_add]
          omega
        have enough : (child :: children).length ≤ bound := by
          have count :=
            length_le_forestText layout (depth + 1) (writtenForest 0 (child :: children))
          rw [length_writtenForest] at count
          exact Nat.le_trans count childrenRoom
        have stuck := run_forest_refused layout (depth + 1) 0 (child :: children) below
          childrenRefused childrenRoom enough (lineGap layout depth ++ (closingText tag ++ rest))
        obtain ⟨size, left, _, leftWhite, properties⟩ := run_element_properties root.tag
          (keyOf_isKey index) readable.properties fits (show [].all isWhite = true from rfl)
          (show isWhite '>' = false from rfl) (show isNameChar '>' = false from rfl)
        have read := properties
          (forestText layout (depth + 1) (writtenForest 0 (child :: children)) ++
            (lineGap layout depth ++ (closingText tag ++ rest))) offset
        rw [List.nil_append] at read
        refine read.trans ?_
        simp only [run_orElse, run_selfClosed_none leftWhite, run_content_none leftWhite stuck,
          Option.none_or, Option.map_none]
      · obtain ⟨before, style, entries, blocked⟩ := exists_blocked root readable
        exact run_element_blocked root.tag (keyOf_isKey index) blocked (by omega) _ offset

theorem run_forest_refused (layout : Layout) : ∀ (depth index : Nat) (forest : List Element),
    ForestEverywhere IsRead forest → ¬ForestEverywhere IsReadable forest → ∀ {bound count : Nat},
      (forestText layout depth (writtenForest index forest)).length ≤ bound →
      forest.length ≤ count → ∀ (rest : List Char) (offset : Nat),
        StopsAtTag (repeated (Parser.element bound) count)
          ⟨forestText layout depth (writtenForest index forest) ++ rest, offset⟩
  | _, _, [], _, refused, _, _, _, _, _, _ => absurd trivial refused
  | _, _, _ :: _, _, _, _, 0, _, enough, _, _ => by simp at enough
  | depth, index, element :: forest, ⟨first, others⟩, refused, bound, count + 1, room, enough, rest,
      offset => by
      simp only [writtenForest, forestText, List.length_append] at room
      simp only [List.length_cons, Nat.add_le_add_iff_right] at enough
      have fits : ((writtenElement index element).text layout depth).length ≤ bound := by omega
      have later : (forestText layout depth (writtenForest (index + 1) forest)).length ≤ bound := by
        omega
      let written := writtenElement index element
      let behind := forestText layout depth (writtenForest (index + 1) forest) ++ rest
      have gap : run (spaced (Parser.element bound))
          ⟨lineGap layout depth ++ (written.text layout depth ++ behind), offset⟩ =
            run (Parser.element bound) ⟨written.text layout depth ++ behind,
              offset + Text.byteLength (lineGap layout depth)⟩ :=
        run_spaced _ _ (lineGap_white layout depth) (text_stops_white layout depth written _) offset
      have spelled : forestText layout depth (writtenForest index (element :: forest)) ++ rest =
          lineGap layout depth ++ (written.text layout depth ++ behind) := by
        simp only [writtenForest, forestText, List.append_assoc, written, behind]
      rw [spelled]
      by_cases readable : element.Everywhere IsReadable
      · have othersRefused : ¬ForestEverywhere IsReadable forest :=
          fun all => refused ⟨readable, all⟩
        have read := run_element layout depth written
          (writtenElement_readable index element readable) bound fits behind
          (offset + Text.byteLength (lineGap layout depth))
        obtain ⟨taken, left, mark, more, last, stuck, white, named⟩ :=
          run_forest_refused layout depth (index + 1) forest others othersRefused
            later enough rest (offset + Text.byteLength (lineGap layout depth) +
              Text.byteLength (written.text layout depth))
        exact ⟨_, left, mark, more, last, run_repeated_cons (gap.trans read) stuck, white, named⟩
      · have missing := run_element_refused layout depth index element first readable
          fits behind (offset + Text.byteLength (lineGap layout depth))
        obtain ⟨mark, more, opened, named⟩ := exists_text_eq layout depth index first
        refine ⟨[], lineGap layout depth, mark, more ++ behind, offset, ?_,
          lineGap_white layout depth, named⟩
        rw [run_repeated_none (gap.trans missing)]
        simp [written, opened]
end

theorem run_icon_refused (layout : Layout) {viewBox : List Char} (unquoted : '"' ∉ viewBox)
    {elements : List Element} (read : ForestEverywhere IsRead elements)
    (refused : ¬ForestEverywhere IsReadable elements) {bound : Nat}
    (room : (forestText layout 0 (writtenForest 0 elements)).length ≤ bound) (rest : List Char)
    (offset : Nat) :
    run (spaced (icon bound)) ⟨"\n    ".toList ++ (wrapperText viewBox ++
      (forestText layout 0 (writtenForest 0 elements) ++ rest)), offset⟩ = none := by
  have enough : elements.length ≤ bound := by
    have count := length_le_forestText layout 0 (writtenForest 0 elements)
    rw [length_writtenForest] at count
    exact Nat.le_trans count room
  have solid (more : List Char) : Text.stops isWhite (wrapperText viewBox ++ more) = true := rfl
  rw [run_spaced _ "\n    ".toList (by decide) (solid _), run_icon_wrapper unquoted]
  obtain ⟨taken, gap, mark, more, last, stopped, white, named⟩ :=
    run_forest_refused layout 0 0 elements read refused room enough rest
      (offset + Text.byteLength "\n    ".toList + Text.byteLength (wrapperText viewBox))
  have unclosed := run_closing_none ["SvgIcon", ">"] white named more last
  simp only [stopped, Option.bind_some, unclosed, Option.map_none]

end Parser

theorem read_source_refused (layout : Layout) (component : Component)
    (named : IsIdent component.name.toList) (unquoted : '"' ∉ component.viewBox.toList)
    (read : ForestEverywhere IsRead component.elements)
    (refused : ¬ForestEverywhere IsReadable component.elements) (other : Component) :
    Component.read (component.source layout) ≠ .ok other := by
  intro found
  obtain ⟨written, parsed, _⟩ := read_eq_ok_iff.mp found
  obtain ⟨behind, run⟩ := parseWritten_eq_ok_iff.mp parsed
  rw [toList_source] at run
  let forest := forestText layout 0 (writtenForest 0 component.elements)
  let text := sourceText layout component.name.toList component.viewBox.toList
    (writtenForest 0 component.elements) component.name.toList
  have room : forest.length + 1 ≤ text.length := by
    simp only [text, forest, sourceText, List.length_append, List.length_cons]
    omega
  obtain ⟨bound, enough⟩ : ∃ bound, text.length + 1 = bound + 2 := ⟨text.length - 1, by omega⟩
  have fits : forest.length ≤ bound + 2 := by omega
  have icon := Parser.run_icon_refused layout unquoted read refused fits
  rw [enough] at run
  simp only [sourceText, Parser.run_component_declaration named, icon, Option.bind_none] at run
  cases run

end VectorIcon.Component
