import Mathlib.Data.List.Forall2
import VectorIcon.Proofs.Component.RoundTrip
import VectorIcon.Proofs.Text.Split

/-!
The lines of a written forest. Each opens or closes an element and is indented by the depth of that
element, as long as there is room; a layout has no say in what follows the indentation.
-/

namespace VectorIcon.Component

def IsUnbrokenProperty : String × PropertyValue → Prop
  | (name, .text text) => '\n' ∉ name.toList ∧ '\n' ∉ text.toList
  | (name, .style style) =>
      '\n' ∉ name.toList ∧ ∀ entry ∈ style.entries, '\n' ∉ entry.1.toList ∧ '\n' ∉ entry.2.toList

structure IsUnbroken (tag : String) (given : Properties) : Prop where
  tag : '\n' ∉ tag.toList
  properties : ∀ entry ∈ given.entries, IsUnbrokenProperty entry

instance : (entry : String × PropertyValue) → Decidable (IsUnbrokenProperty entry)
  | (name, .text text) => inferInstanceAs (Decidable ('\n' ∉ name.toList ∧ '\n' ∉ text.toList))
  | (name, .style style) => inferInstanceAs (Decidable ('\n' ∉ name.toList ∧
      ∀ entry ∈ style.entries, '\n' ∉ entry.1.toList ∧ '\n' ∉ entry.2.toList))

instance (tag : String) (given : Properties) : Decidable (IsUnbroken tag given) :=
  decidable_of_iff ('\n' ∉ tag.toList ∧ ∀ entry ∈ given.entries, IsUnbrokenProperty entry)
    ⟨fun ⟨tag, properties⟩ => ⟨tag, properties⟩, fun unbroken => ⟨unbroken.1, unbroken.2⟩⟩

structure Mark where
  depth : Nat
  tag : String
  closes : Bool

def Mark.start (mark : Mark) : List Char :=
  '<' :: (if mark.closes then '/' :: mark.tag.toList else mark.tag.toList)

mutual
/-- The marks of an element in document order; only one with children has an end of its own. -/
def elementMarks (depth : Nat) : Element → List Mark
  | ⟨tag, _, children⟩ =>
      ⟨depth, tag, false⟩ :: (forestMarks (depth + 1) children ++
        if children.isEmpty then [] else [⟨depth, tag, true⟩])

def forestMarks (depth : Nat) : List Element → List Mark
  | [] => []
  | element :: rest => elementMarks depth element ++ forestMarks depth rest
end

mutual
def elementLineCount : Element → Nat
  | ⟨_, _, children⟩ => (if children.isEmpty then 1 else 2) + forestLineCount children

def forestLineCount : List Element → Nat
  | [] => 0
  | element :: rest => elementLineCount element + forestLineCount rest
end

mutual
theorem length_elementMarks : ∀ (depth : Nat) (element : Element),
    (elementMarks depth element).length = elementLineCount element
  | depth, ⟨_, _, children⟩ => by
      rw [elementMarks, elementLineCount, List.length_cons, List.length_append,
        length_forestMarks (depth + 1) children]
      split <;> simp only [List.length_nil, List.length_singleton] <;> omega

theorem length_forestMarks : ∀ (depth : Nat) (forest : List Element),
    (forestMarks depth forest).length = forestLineCount forest
  | _, [] => rfl
  | depth, element :: rest => by
      rw [forestMarks, forestLineCount, List.length_append, length_elementMarks depth element,
        length_forestMarks depth rest]
end

structure Shows (line : Line) (mark : Mark) : Prop where
  depth : line.depth = mark.depth
  start : mark.start <+: line.text

theorem shows_opening (depth key : Nat) (tag : String) (given : Properties) (rest : List Char) :
    Shows ⟨depth, opening tag key given ++ rest⟩ ⟨depth, tag, false⟩ where
  depth := rfl
  start := by simp [Mark.start, opening]

theorem shows_closing (depth : Nat) (tag : String) :
    Shows ⟨depth, closing tag⟩ ⟨depth, tag, true⟩ where
  depth := rfl
  start := by simp [Mark.start, closing]

mutual
theorem elementLines_show : ∀ (depth key : Nat) (element : Element),
    List.Forall₂ Shows (elementLines depth key element) (elementMarks depth element)
  | depth, key, ⟨tag, given, []⟩ => .cons (shows_opening depth key tag given _) .nil
  | depth, key, ⟨tag, given, child :: children⟩ =>
      have inside := List.rel_append (elementLines_show (depth + 1) 0 child)
        (forestLines_show (depth + 1) 1 children)
      .cons (shows_opening depth key tag given _)
        (List.rel_append inside (.cons (shows_closing depth tag) .nil))

theorem forestLines_show : ∀ (depth key : Nat) (forest : List Element),
    List.Forall₂ Shows (forestLines depth key forest) (forestMarks depth forest)
  | _, _, [] => .nil
  | depth, key, element :: rest =>
      List.rel_append (elementLines_show depth key element) (forestLines_show depth (key + 1) rest)
end

theorem newline_not_mem_intercalate {separator : List Char} {pieces : List (List Char)}
    (between : '\n' ∉ separator) (every : ∀ piece ∈ pieces, '\n' ∉ piece) :
    '\n' ∉ List.intercalate separator pieces := by
  have unbroken (text : List Char) : text.all (· != '\n') = true ↔ '\n' ∉ text := by
    simp only [List.all_eq_true, bne_iff_ne]
    exact List.forall_mem_ne'
  rw [← unbroken] at between ⊢
  refine Text.all_intercalate between fun piece member => ?_
  exact (unbroken piece).mpr (every piece member)

theorem newline_not_mem_property {entry : String × PropertyValue}
    (unbroken : IsUnbrokenProperty entry) : '\n' ∉ property entry := by
  obtain ⟨name, value⟩ := entry
  cases value with
  | text text =>
      obtain ⟨named, valued⟩ := unbroken
      simp [property, named, valued]
  | style style =>
      obtain ⟨named, declared⟩ := unbroken
      have entries : '\n' ∉ List.intercalate ", ".toList (style.entries.map styleEntry) := by
        apply newline_not_mem_intercalate (by decide)
        intro piece member
        obtain ⟨entry, inside, rfl⟩ := List.mem_map.mp member
        simp [styleEntry, declared entry inside]
      simpa [property, braced, openBrace, closeBrace, styleObject, named] using entries

theorem newline_not_mem_opening {tag : String} {given : Properties} (unbroken : IsUnbroken tag given)
    (key : Nat) : '\n' ∉ opening tag key given := by
  have digits : '\n' ∉ Nat.toDigits 10 key := by
    intro member
    have digit := Nat.isDigit_of_mem_toDigits (b := 10) (by decide) (by decide) member
    exact absurd digit (by decide)
  have written : '\n' ∉ properties given := by
    apply newline_not_mem_intercalate (by decide)
    intro piece member
    obtain ⟨entry, inside, rfl⟩ := List.mem_map.mp member
    exact newline_not_mem_property (unbroken.properties entry inside)
  simp [opening, braced, openBrace, closeBrace, unbroken.tag, digits, written]

theorem newline_not_mem_closing {tag : String} (unbroken : '\n' ∉ tag.toList) :
    '\n' ∉ closing tag := by
  simp [closing, unbroken]

mutual
theorem newline_not_mem_elementLines : ∀ {depth key : Nat} {element : Element},
    element.Everywhere IsUnbroken → ∀ line ∈ elementLines depth key element, '\n' ∉ line.text
  | depth, key, ⟨tag, given, []⟩, ⟨root, _⟩, line, member => by
      rw [elementLines, List.mem_singleton] at member
      subst line
      simp [newline_not_mem_opening root]
  | depth, key, ⟨tag, given, child :: children⟩, ⟨root, first, others⟩, line, member => by
      rw [elementLines, List.mem_cons, List.mem_append, List.mem_append, List.mem_singleton] at member
      rcases member with rfl | (inside | later) | rfl
      · simp [newline_not_mem_opening root]
      · exact newline_not_mem_elementLines first line inside
      · exact newline_not_mem_forestLines others line later
      · exact newline_not_mem_closing root.tag

theorem newline_not_mem_forestLines : ∀ {depth key : Nat} {forest : List Element},
    ForestEverywhere IsUnbroken forest → ∀ line ∈ forestLines depth key forest, '\n' ∉ line.text
  | _, _, [], _, _, member => by cases member
  | depth, key, element :: rest, ⟨first, others⟩, line, member => by
      rcases List.mem_append.mp member with inside | later
      · exact newline_not_mem_elementLines first line inside
      · exact newline_not_mem_forestLines others line later
end

/-- The depth of each mark, indented by a layout, is within the capacity of a text. -/
def HasRoom (layout : Layout) (marks : List Mark) : Prop :=
  ∀ mark ∈ marks,
    layout.indentWidth.toNat * (layout.baseDepth.toNat + mark.depth) ≤ Layout.capacity

instance (layout : Layout) (marks : List Mark) : Decidable (HasRoom layout marks) :=
  inferInstanceAs (Decidable (∀ mark ∈ marks,
    layout.indentWidth.toNat * (layout.baseDepth.toNat + mark.depth) ≤ Layout.capacity))

example : elementsText? ⟨4611686018427387904, 4⟩ [⟨"g", OrderedMap.empty, []⟩] =
    some "<g key=\x7b0\x7d  />".toList := by
  rfl

end VectorIcon.Component
