import VectorIcon.Proofs.Xml.Tree

/-!
Documents that are one well-formed tree. Nothing stands before it or behind it, so the reader gives
the node of the tree and no fault.
-/

namespace VectorIcon.Xml

theorem readContent_levels (entities : Entities) (cursor : Cursor) (builder : Builder) :
    ∃ inner, readContent entities maximumDepth cursor builder =
      readLevels entities maximumDepth inner (cursor.rest.length + 1) 1 cursor builder :=
  ⟨_, rfl⟩

theorem Builder.empty_isReady {all : List Binding} (room : all.length ≤ namespaceLimit)
    (within : Builder.reserved ∈ all) : Builder.empty.IsReady all :=
  ⟨rfl, rfl, rfl, room, by simp [Builder.empty], List.cons_subset.mpr ⟨within, List.nil_subset _⟩⟩

variable {all : List Binding}

theorem readContent_markup (entities : Entities) {name : QualifiedName}
    {attributes : List NamedValue} {children : List Markup}
    (wellFormed : (⟨name, attributes, children⟩ : Markup).WellFormed [])
    (within : forestBindings children ⊆ all) (start : StartTag) {known : List Binding}
    (fits : Builder.Fits all known) (position : Position) :
    ∃ final after, readContent entities maximumDepth
        ⟨Markup.forestText children ++ (Markup.closingText name ++ []), position⟩
        { Builder.empty.enter start known with ancestors := [⟨tagOf [] name attributes, []⟩] } =
      .ok (⟨[], position.after (Markup.forestText children ++ Markup.closingText name)⟩,
        (Builder.empty.enter final after).append
          ((⟨name, attributes, children⟩ : Markup).node [])) := by
  obtain ⟨tag, below⟩ := wellFormed
  obtain ⟨inner, levels⟩ := readContent_levels entities
    ⟨Markup.forestText children ++ (Markup.closingText name ++ []), position⟩
    { Builder.empty.enter start known with ancestors := [⟨tagOf [] name attributes, []⟩] }
  have entered : (Builder.empty.enter start known).IsReady all := ⟨rfl, rfl, rfl, fits⟩
  have inside : Adds entities inner all 0 (Markup.forestText children)
      (forestNodes (tagOf [] name attributes).bindings children)
      { Builder.empty.enter start known with ancestors := [⟨tagOf [] name attributes, []⟩] } :=
    adds_forest entities inner 0 children _ ⟨rfl, rfl, rfl, fits⟩ rfl below within
  obtain ⟨left, final, after, _, _, closed⟩ := readLevels_content entities inner 0 entered
    tag.written inside [] position (Nat.lt_succ_self _)
  refine ⟨final, after, levels.trans (closed.trans ?_)⟩
  cases left <;> rfl

theorem readRoot_markup (entities : Entities) {name : QualifiedName}
    {attributes : List NamedValue} {children : List Markup} (nonempty : children ≠ [])
    (wellFormed : (⟨name, attributes, children⟩ : Markup).WellFormed [])
    (room : (⟨name, attributes, children⟩ : Markup).HasRoom) (position : Position) :
    ∃ final known, readRoot entities ⟨(⟨name, attributes, children⟩ : Markup).text, position⟩
        Builder.empty =
      .ok (⟨[], position.after (⟨name, attributes, children⟩ : Markup).text⟩,
        (Builder.empty.enter final known).append
          ((⟨name, attributes, children⟩ : Markup).node [])) := by
  let markup : Markup := ⟨name, attributes, children⟩
  have among : Builder.reserved :: markup.bindings ⊆
      (Builder.reserved :: markup.bindings).eraseDups :=
    fun _ member => List.mem_eraseDups.mpr member
  obtain ⟨first, declared⟩ := List.cons_subset.mp among
  obtain ⟨own, below⟩ := List.append_subset.mp declared
  let behind := Markup.forestText children ++ (Markup.closingText name ++ [])
  have text : (⟨name, attributes, children⟩ : Markup).text =
      Markup.openingText name attributes ++ '>' :: behind := by
    simp [Markup.text_of_children name attributes nonempty, behind]
  have fits : (Markup.openingText name attributes ++ '>' :: behind).length <
      (Markup.openingText name attributes ++ '>' :: behind).length + 1 := Nat.lt_succ_self _
  obtain ⟨more, fuel⟩ := exists_fuel fits
  obtain ⟨start, known, fitting, read⟩ := readStartTag_opened entities
    (Builder.empty_isReady room first) wellFormed.1 own behind more position
  obtain ⟨final, after, content⟩ := readContent_markup entities wellFormed below start fitting
    (position.after (Markup.openingText name attributes ++ ['>']))
  refine ⟨final, after, ?_⟩
  have begins : startsMarkup (Markup.openingText name attributes ++ '>' :: behind) = true := rfl
  rw [text]
  simp only [readRoot, begins, fuel, read, bind, Except.bind, if_true]
  refine content.trans ?_
  simp [behind]

section

variable {c : Char} (starts : isNameStart c = true) (rest : List Char) (position : Position)

include starts

theorem startsWith_mark (text : String) {mark : Char} {more : List Char}
    (spelled : text.toList = '<' :: mark :: more) (other : isNameStart mark = false) :
    (⟨'<' :: c :: rest, position⟩ : Cursor).startsWith text = false := by
  have different : (mark == c) = false := by
    refine beq_eq_false_iff_ne.mpr ?_
    rintro rfl
    exact Bool.false_ne_true (other.symm.trans starts)
  simp [Cursor.startsWith, spelled, List.isPrefixOf, different]

theorem skipMisc_start (builder : Builder) :
    (⟨'<' :: c :: rest, position⟩ : Cursor).skipMisc builder =
      .ok (⟨'<' :: c :: rest, position⟩, builder) := by
  have solid : (⟨'<' :: c :: rest, position⟩ : Cursor).skipSpaces =
      ⟨'<' :: c :: rest, position⟩ := Cursor.skipSpaces_solid rfl position
  have comment := startsWith_mark starts rest position "<!--" rfl (by decide)
  have instruction := startsWith_mark starts rest position "<?" rfl (by decide)
  simp [Cursor.skipMisc, Cursor.readMisc, solid, comment, instruction, pure, Except.pure]

end

theorem skipMisc_end (position : Position) (builder : Builder) :
    (⟨[], position⟩ : Cursor).skipMisc builder = .ok (⟨[], position⟩, builder) := rfl

/-- A document that is a well-formed tree with content and with room for its bindings is read as the
node of the tree. -/
theorem readDocument_markup {name : QualifiedName} {attributes : List NamedValue}
    {children : List Markup} (nonempty : children ≠ [])
    (wellFormed : (⟨name, attributes, children⟩ : Markup).WellFormed [])
    (room : (⟨name, attributes, children⟩ : Markup).HasRoom) {text : String}
    (same : text.toList = (⟨name, attributes, children⟩ : Markup).text) :
    readDocument text = .ok [(⟨name, attributes, children⟩ : Markup).node []] := by
  obtain ⟨final, known, root⟩ := readRoot_markup [] nonempty wellFormed room Position.first
  obtain ⟨c, more, spelled, starts⟩ := wellFormed.1.written.exists_cons
  obtain ⟨rest, begins⟩ : ∃ rest, (⟨name, attributes, children⟩ : Markup).text =
      '<' :: c :: rest := by
    rw [Markup.text_of_children name attributes nonempty, Markup.openingText, spelled]
    exact ⟨_, rfl⟩
  have declaration := startsWith_mark starts rest Position.first "<?xml " rfl (by decide)
  have doctype := startsWith_mark starts rest Position.first "<!DOCTYPE" rfl (by decide)
  have unmarked : skipByteOrderMark (Cursor.ofText ('<' :: c :: rest)) =
      ⟨'<' :: c :: rest, Position.first⟩ := rfl
  rw [begins] at root same
  simp only [readDocument, same, unmarked, declaration, skipMisc_start starts, doctype, root,
    skipMisc_end, bind, Except.bind, pure, Except.pure]
  rfl

end VectorIcon.Xml
