import VectorIcon.Proofs.Xml.Tag

/-!
Trees inside of open elements. Reading the text of a well-formed tree adds its node to the
innermost open element, whatever stands behind it.
-/

namespace VectorIcon.Xml

namespace Builder

/-- Nothing is left of a start tag, no reference counts, and there is room for the bindings of the
document. -/
structure IsReady (all : List Binding) (builder : Builder) : Prop where
  declared : builder.declared = []
  attributes : builder.attributes = []
  references : builder.references = 0
  fits : Fits all builder.known

def enter (builder : Builder) (start : StartTag) (known : List Binding) : Builder :=
  { builder with tag := some start, known := known }

def appendAll (builder : Builder) (nodes : List Node) : Builder :=
  nodes.foldl append builder

theorem append_parts (builder : Builder) (node : Node) :
    (builder.append node).tag = builder.tag ∧ (builder.append node).declared = builder.declared ∧
      (builder.append node).attributes = builder.attributes ∧
      (builder.append node).references = builder.references ∧
      (builder.append node).known = builder.known ∧
      (builder.append node).inherited = builder.inherited := by
  unfold append
  split
  · rename_i none
    exact ⟨rfl, rfl, rfl, rfl, rfl, by simp [inherited, none]⟩
  · rename_i top rest open_
    exact ⟨rfl, rfl, rfl, rfl, rfl, by simp [inherited, open_]⟩

theorem IsReady.append {all : List Binding} {builder : Builder} (ready : builder.IsReady all)
    (node : Node) : (builder.append node).IsReady all := by
  obtain ⟨_, declared, attributes, references, known, _⟩ := builder.append_parts node
  exact ⟨declared.trans ready.declared, attributes.trans ready.attributes,
    references.trans ready.references, known ▸ ready.fits⟩

theorem IsReady.enter {all known : List Binding} {builder : Builder} (ready : builder.IsReady all)
    (start : StartTag) (fits : Fits all known) : (builder.enter start known).IsReady all :=
  ⟨ready.declared, ready.attributes, ready.references, fits⟩

theorem enter_append (builder : Builder) (node : Node) (start : StartTag) (known : List Binding) :
    (builder.append node).enter start known = (builder.enter start known).append node := by
  obtain ⟨ancestors, _, _, _, _, _, _⟩ := builder
  cases ancestors <;> rfl

theorem enter_enter (builder : Builder) (first second : StartTag) (known after : List Binding) :
    (builder.enter first known).enter second after = builder.enter second after := rfl

theorem appendAll_open (builder : Builder) (top : OpenElement) (rest : List OpenElement)
    (nodes : List Node) :
    ({ builder with ancestors := top :: rest }).appendAll nodes =
      { builder with
        ancestors := { top with children := nodes.reverse ++ top.children } :: rest } := by
  induction nodes generalizing top with
  | nil => rfl
  | cons node nodes ih =>
      have later := ih { top with children := node :: top.children }
      simpa [appendAll, append] using later

end Builder

theorem stops_attributes (attributes : List NamedValue) {tail : List Char}
    (stop : Text.stops isNameChar tail = true) :
    Text.stops isNameChar (attributes.flatMap Markup.attributeText ++ tail) = true := by
  cases attributes with
  | nil => exact stop
  | cons given rest => rfl

variable {all : List Binding}

theorem readStartTag_text (entities : Entities) {builder : Builder} (ready : builder.IsReady all)
    {name : QualifiedName} {attributes : List NamedValue}
    (wellFormed : IsTag builder.inherited name attributes)
    (within : declaredBy (attributes.map readValue) ⊆ all) {tail : List Char}
    (stop : Text.stops isNameChar tail = true) (fuel : Nat) (position : Position) :
    ∃ start pending known,
      pending.map PendingAttribute.named = undeclaring (attributes.map readValue) ∧
      Builder.Fits all known ∧
      readStartTag entities maximumDepth (attributes.length + fuel)
          ⟨Markup.openingText name attributes ++ tail, position⟩ builder =
        readTagRest entities maximumDepth fuel
          ⟨tail, position.after (Markup.openingText name attributes)⟩
          ((builder.enter ⟨name, start⟩ builder.known).collect
            (declaredBy (attributes.map readValue)) pending known) := by
  have named := Cursor.readQualifiedName_written wellFormed.written
    (stops_attributes attributes stop) (position.next '<')
  have fresh : ∀ given ∈ attributes, given.1.qualifier = "xmlns" →
      (builder.enter ⟨name, position.next '<'⟩ builder.known).declared.any
        (Binding.bindsSame (some given.1.localName)) = false := by
    intro given _ _
    simp [Builder.enter, ready.declared]
  obtain ⟨pending, known, collected, fits, read⟩ := readTagRest_attributes entities attributes
    wellFormed.readable wellFormed.named within
    (builder.enter ⟨name, position.next '<'⟩ builder.known) ready.references ready.fits fresh tail
    fuel ((position.next '<').after name.text.toList)
  refine ⟨position.next '<', pending, known, collected, fits, ?_⟩
  simp only [readStartTag, Markup.openingText, List.cons_append, List.append_assoc, Cursor.advance,
    List.drop_succ_cons, List.drop_zero, List.take_succ_cons, List.take_zero, Position.after_cons,
    Position.after_nil, named, Builder.startTag, wellFormed.unreserved, if_false, bind, Except.bind,
    Position.after_append]
  exact read

theorem readTagRest_closed (entities : Entities) (room fuel : Nat) (rest : List Char)
    (position : Position) {builder finished : Builder}
    (finish : ∀ position, builder.finishTag true position = .ok finished) :
    readTagRest entities room (fuel + 1) ⟨'/' :: '>' :: rest, position⟩ builder =
      .ok (.closed, ⟨rest, position.after ['/', '>']⟩, finished) := by
  have solid : (⟨'/' :: '>' :: rest, position⟩ : Cursor).skipSpaces =
      ⟨'/' :: '>' :: rest, position⟩ := Cursor.skipSpaces_solid rfl position
  simp [readTagRest, Cursor.atEnd, solid, Cursor.advance, Cursor.expectChar, finish, bind,
    Except.bind, pure, Except.pure]

theorem readTagRest_opened (entities : Entities) (room fuel : Nat) (rest : List Char)
    (position : Position) {builder finished : Builder}
    (finish : ∀ position, builder.finishTag false position = .ok finished) :
    readTagRest entities room (fuel + 1) ⟨'>' :: rest, position⟩ builder =
      .ok (.opened, ⟨rest, position.next '>'⟩, finished) := by
  have solid : (⟨'>' :: rest, position⟩ : Cursor).skipSpaces = ⟨'>' :: rest, position⟩ :=
    Cursor.skipSpaces_solid rfl position
  simp [readTagRest, Cursor.atEnd, solid, Cursor.advance, finish, bind, Except.bind, pure,
    Except.pure]

theorem collects_of_ready {builder : Builder} (ready : builder.IsReady all) (start : StartTag)
    (known : List Binding) {attributes : List NamedValue} {pending : List PendingAttribute}
    (collected : pending.map PendingAttribute.named = undeclaring (attributes.map readValue)) :
    ((builder.enter start builder.known).collect (declaredBy (attributes.map readValue)) pending
        known).Collects attributes ∧
      ((builder.enter start builder.known).collect (declaredBy (attributes.map readValue)) pending
        known).settle = builder.enter start known := by
  refine ⟨⟨?_, ?_⟩, ?_⟩
  · simp [Builder.collect, Builder.enter, ready.declared]
  · simp [Builder.collect, Builder.enter, ready.attributes, collected]
  · simp [Builder.collect, Builder.enter, Builder.settle, ready.declared, ready.attributes]

theorem readStartTag_closed (entities : Entities) {builder : Builder} (ready : builder.IsReady all)
    {name : QualifiedName} {attributes : List NamedValue}
    (wellFormed : IsTag builder.inherited name attributes)
    (within : declaredBy (attributes.map readValue) ⊆ all) (rest : List Char) (fuel : Nat)
    (position : Position) :
    ∃ start known, Builder.Fits all known ∧
      readStartTag entities maximumDepth (attributes.length + (fuel + 1))
        ⟨Markup.openingText name attributes ++ '/' :: '>' :: rest, position⟩ builder =
      .ok (.closed, ⟨rest, position.after (Markup.openingText name attributes ++ ['/', '>'])⟩,
        (builder.enter start known).append
          (.element (tagOf builder.inherited name attributes) [])) := by
  obtain ⟨start, pending, known, collected, fits, read⟩ := readStartTag_text entities ready
    wellFormed within (show Text.stops isNameChar ('/' :: '>' :: rest) = true from rfl) (fuel + 1)
    position
  obtain ⟨collects, settled⟩ := collects_of_ready ready ⟨name, start⟩ known collected
  have finish := Builder.finishTag_closed rfl collects wellFormed
  rw [settled] at finish
  refine ⟨⟨name, start⟩, known, fits, ?_⟩
  rw [read, readTagRest_closed entities maximumDepth fuel rest _ finish, Position.after_append]
  rfl

theorem readStartTag_opened (entities : Entities) {builder : Builder} (ready : builder.IsReady all)
    {name : QualifiedName} {attributes : List NamedValue}
    (wellFormed : IsTag builder.inherited name attributes)
    (within : declaredBy (attributes.map readValue) ⊆ all) (rest : List Char) (fuel : Nat)
    (position : Position) :
    ∃ start known, Builder.Fits all known ∧
      readStartTag entities maximumDepth (attributes.length + (fuel + 1))
        ⟨Markup.openingText name attributes ++ '>' :: rest, position⟩ builder =
      .ok (.opened, ⟨rest, position.after (Markup.openingText name attributes ++ ['>'])⟩,
        { builder.enter start known with
          ancestors := ⟨tagOf builder.inherited name attributes, []⟩ :: builder.ancestors }) := by
  obtain ⟨start, pending, known, collected, fits, read⟩ := readStartTag_text entities ready
    wellFormed within (show Text.stops isNameChar ('>' :: rest) = true from rfl) (fuel + 1) position
  obtain ⟨collects, settled⟩ := collects_of_ready ready ⟨name, start⟩ known collected
  have finish := Builder.finishTag_opened rfl collects wellFormed
  rw [settled] at finish
  refine ⟨⟨name, start⟩, known, fits, ?_⟩
  rw [read, readTagRest_opened entities maximumDepth fuel rest _ finish, Position.after_append]
  rfl

theorem closeTag_innermost {builder : Builder} (ready : builder.IsReady all) {tag : Tag}
    {children : List Node} {outer : List OpenElement}
    (inside : builder.ancestors = ⟨tag, children⟩ :: outer) (started : builder.tag.isSome = true)
    (position : Position) :
    builder.closeTag tag.name position =
      .ok ({ builder with ancestors := outer }.append (.element tag children.reverse)) := by
  obtain ⟨ancestors, nodes, start, declared, attributes, references, _⟩ := builder
  obtain ⟨none, empty, _, _⟩ := ready
  simp only at inside started none empty
  subst inside none empty
  have known : start.isNone = false := by simpa using started
  simp [Builder.closeTag, known, Builder.resolve, Builder.resolveAttributes, bind, Except.bind,
    pure, Except.pure]

theorem readClosingTag_text {builder : Builder} (ready : builder.IsReady all)
    {tag : Tag} {children : List Node} {outer : List OpenElement}
    (inside : builder.ancestors = ⟨tag, children⟩ :: outer) (started : builder.tag.isSome = true)
    (written : tag.name.IsWritten) (rest : List Char) (position : Position) :
    readClosingTag ⟨Markup.closingText tag.name ++ rest, position⟩ builder =
      .ok (⟨rest, position.after (Markup.closingText tag.name)⟩,
        { builder with ancestors := outer }.append (.element tag children.reverse)) := by
  have named := Cursor.readQualifiedName_written written
    (show Text.stops isNameChar ('>' :: rest) = true from rfl) (position.after ['<', '/'])
  have solid (position : Position) : (⟨'>' :: rest, position⟩ : Cursor).skipSpaces =
      ⟨'>' :: rest, position⟩ := Cursor.skipSpaces_solid rfl position
  have closed := closeTag_innermost ready inside started position
  simp only [readClosingTag, Markup.closingText, Cursor.advance, List.cons_append,
    List.append_assoc, List.nil_append, List.drop_succ_cons, List.drop_zero, List.take_succ_cons,
    List.take_zero, named, solid, Cursor.expectChar_cons, closed, bind, Except.bind, pure,
    Except.pure]
  simp

namespace Markup

theorem length_lt_openingText (name : QualifiedName) (attributes : List NamedValue) :
    attributes.length < (openingText name attributes).length := by
  have count := Text.length_le_flatMap attributeText attributes
    fun given _ => by simp [attributeText]
  simp only [openingText, List.length_cons, List.length_append]
  omega

end Markup

theorem Construct.ofText_start {c : Char} (starts : isNameStart c = true) (rest : List Char) :
    Construct.ofText ('<' :: c :: rest) = .start := by
  have mark : c ≠ '!' := ne_of_isNameStart starts (by decide)
  have question : c ≠ '?' := ne_of_isNameStart starts (by decide)
  have slash : c ≠ '/' := ne_of_isNameStart starts (by decide)
  unfold Construct.ofText
  split <;> simp_all

section

variable (entities : Entities) (room : Nat)
  (inner : Option (Cursor → Builder → Except Fault Builder)) (fuel level : Nat)

theorem readLevels_start {cursor behind : Cursor} {builder after : Builder} {tagEnd : TagEnd}
    (begins : Construct.ofText cursor.rest = .start)
    (read : readStartTag entities room fuel cursor builder = .ok (tagEnd, behind, after)) :
    readLevels entities room inner (fuel + 1) (level + 1) cursor builder =
      readLevels entities room inner fuel (if tagEnd = .opened then level + 2 else level + 1)
        behind after := by
  rw [readLevels]
  simp only [begins, read, bind, Except.bind]

theorem readLevels_closing {cursor behind : Cursor} {builder after : Builder}
    (begins : Construct.ofText cursor.rest = .closing)
    (read : readClosingTag cursor builder = .ok (behind, after)) :
    readLevels entities room inner (fuel + 1) (level + 1) cursor builder =
      readLevels entities room inner fuel level behind after := by
  rw [readLevels]
  simp only [begins, read, bind, Except.bind]

end

theorem exists_fuel {name : QualifiedName} {attributes : List NamedValue} {tail : List Char}
    {fuel : Nat} (enough : (Markup.openingText name attributes ++ tail).length < fuel + 1) :
    ∃ more, fuel = attributes.length + (more + 1) := by
  have shorter := Markup.length_lt_openingText name attributes
  simp only [List.length_append] at enough
  exact ⟨fuel - attributes.length - 1, by omega⟩

theorem ofText_openingText {name : QualifiedName} (written : name.IsWritten)
    (attributes : List NamedValue) (tail : List Char) :
    Construct.ofText (Markup.openingText name attributes ++ tail) = .start := by
  obtain ⟨c, more, spelled, starts⟩ := written.exists_cons
  rw [Markup.openingText, spelled]
  exact Construct.ofText_start starts _

section

variable (entities : Entities) (inner : Option (Cursor → Builder → Except Fault Builder))

/-- Reading a text inside of `level` elements uses it up and adds nodes to the innermost one. There
still is room for all bindings then. -/
def Adds (all : List Binding) (level : Nat) (text : List Char) (nodes : List Node)
    (builder : Builder) : Prop :=
  ∀ (rest : List Char) (fuel : Nat) (position : Position), (text ++ rest).length < fuel →
    ∃ more start known, rest.length < more ∧ Builder.Fits all known ∧
      readLevels entities maximumDepth inner fuel (level + 1) ⟨text ++ rest, position⟩ builder =
        readLevels entities maximumDepth inner more (level + 1) ⟨rest, position.after text⟩
          ((builder.enter start known).appendAll nodes)

theorem adds_nil (level : Nat) {builder : Builder} (fits : Builder.Fits all builder.known)
    (started : builder.tag.isSome = true) : Adds entities inner all level [] [] builder := by
  intro rest fuel position enough
  obtain ⟨start, known⟩ := Option.isSome_iff_exists.mp started
  have same : builder.enter start builder.known = builder := by rw [Builder.enter, ← known]
  refine ⟨fuel, start, builder.known, enough, fits, ?_⟩
  rw [same]
  rfl

theorem adds_append (level : Nat) {text more : List Char} {node : Node} {nodes : List Node}
    {builder : Builder} (first : Adds entities inner all level text [node] builder)
    (others : ∀ start known, Builder.Fits all known →
      Adds entities inner all level more nodes ((builder.enter start known).append node)) :
    Adds entities inner all level (text ++ more) (node :: nodes) builder := by
  intro rest fuel position enough
  rw [List.append_assoc] at enough ⊢
  obtain ⟨left, start, known, shorter, fits, read⟩ := first (more ++ rest) fuel position enough
  obtain ⟨last, final, after, less, grown, later⟩ :=
    others start known fits rest left (position.after text) shorter
  refine ⟨last, final, after, less, grown, ?_⟩
  rw [Builder.enter_append, Builder.enter_enter] at later
  rw [read, Position.after_append]
  exact later

theorem readLevels_content (level : Nat) {builder : Builder} (ready : builder.IsReady all)
    {tag : Tag} (written : tag.name.IsWritten) {outer : List OpenElement} {content : List Char}
    {nodes : List Node}
    (inside : Adds entities inner all level content nodes
      { builder with ancestors := ⟨tag, []⟩ :: outer })
    (rest : List Char) {fuel : Nat} (position : Position)
    (enough : (content ++ (Markup.closingText tag.name ++ rest)).length < fuel) :
    ∃ more start known, rest.length < more ∧ Builder.Fits all known ∧
      readLevels entities maximumDepth inner fuel (level + 1)
          ⟨content ++ (Markup.closingText tag.name ++ rest), position⟩
          { builder with ancestors := ⟨tag, []⟩ :: outer } =
        readLevels entities maximumDepth inner more level
          ⟨rest, position.after (content ++ Markup.closingText tag.name)⟩
          (({ builder with ancestors := outer }.enter start known).append
            (.element tag nodes)) := by
  obtain ⟨left, last, known, shorter, fits, used⟩ := inside _ _ position enough
  obtain ⟨left, rfl⟩ : ∃ less, left = less + 1 := ⟨left - 1, by omega⟩
  let full : Builder :=
    { builder.enter last known with ancestors := ⟨tag, nodes.reverse⟩ :: outer }
  have filled : ({ builder.enter last known with
      ancestors := ⟨tag, []⟩ :: outer } : Builder).appendAll nodes = full := by
    have appended := (builder.enter last known).appendAll_open ⟨tag, []⟩ outer nodes
    rw [List.append_nil] at appended
    exact appended
  have fullReady : full.IsReady all :=
    ⟨ready.declared, ready.attributes, ready.references, fits⟩
  have closed := readClosingTag_text fullReady rfl rfl written rest (position.after content)
  have begins : Construct.ofText (Markup.closingText tag.name ++ rest) = .closing := rfl
  have ends := readLevels_closing entities maximumDepth inner left level begins closed
  refine ⟨left, last, known, ?_, fits, ?_⟩
  · simp only [Markup.closingText, List.length_append, List.length_cons] at shorter
    omega
  · rw [List.reverse_reverse] at ends
    rw [Position.after_append]
    exact used.trans ((congrArg _ filled).trans ends)

variable (level : Nat) {builder : Builder} (ready : builder.IsReady all) {name : QualifiedName}
  {attributes : List NamedValue} (wellFormed : IsTag builder.inherited name attributes)
  (within : declaredBy (attributes.map readValue) ⊆ all)

include ready wellFormed within

theorem adds_childless :
    Adds entities inner all level (Markup.openingText name attributes ++ ['/', '>'])
      [.element (tagOf builder.inherited name attributes) []] builder := by
  intro rest fuel position enough
  obtain ⟨fuel, rfl⟩ : ∃ less, fuel = less + 1 := ⟨fuel - 1, by omega⟩
  rw [List.append_assoc] at enough ⊢
  obtain ⟨more, rfl⟩ := exists_fuel enough
  obtain ⟨start, known, fits, read⟩ :=
    readStartTag_closed entities ready wellFormed within rest more position
  have begins := ofText_openingText wellFormed.written attributes ('/' :: '>' :: rest)
  refine ⟨attributes.length + (more + 1), start, known, ?_, fits, ?_⟩
  · simp only [List.length_append, List.length_cons, List.length_nil] at enough
    omega
  · exact readLevels_start entities maximumDepth inner _ level begins read

theorem adds_element {content : List Char} {nodes : List Node}
    (inside : ∀ opened : Builder, opened.IsReady all → opened.tag.isSome = true →
      opened.inherited = (tagOf builder.inherited name attributes).bindings →
        Adds entities inner all (level + 1) content nodes opened) :
    Adds entities inner all level
      (Markup.openingText name attributes ++ '>' :: (content ++ Markup.closingText name))
      [.element (tagOf builder.inherited name attributes) nodes] builder := by
  intro rest fuel position enough
  let tail := Markup.closingText name ++ rest
  have text : Markup.openingText name attributes ++ '>' :: (content ++ Markup.closingText name) ++
      rest = Markup.openingText name attributes ++ '>' :: (content ++ tail) := by
    simp [tail]
  obtain ⟨fuel, rfl⟩ : ∃ less, fuel = less + 1 := ⟨fuel - 1, by omega⟩
  rw [text] at enough ⊢
  obtain ⟨more, rfl⟩ := exists_fuel enough
  obtain ⟨start, known, fits, read⟩ := readStartTag_opened entities ready wellFormed within
    (content ++ tail) more position
  have begins := ofText_openingText wellFormed.written attributes ('>' :: (content ++ tail))
  have entered := readLevels_start entities maximumDepth inner _ level begins read
  have room : (content ++ tail).length < attributes.length + (more + 1) := by
    simp only [Markup.openingText, List.length_append, List.length_cons] at enough ⊢
    omega
  have opened := ready.enter start fits
  obtain ⟨left, last, after, shorter, grown, used⟩ := readLevels_content entities inner (level + 1)
    opened wellFormed.written
    (inside _ ⟨ready.declared, ready.attributes, ready.references, fits⟩ rfl rfl) rest
    (position.after (Markup.openingText name attributes ++ ['>'])) room
  have place : (position.after (Markup.openingText name attributes ++ ['>'])).after
      (content ++ Markup.closingText name) = position.after
        (Markup.openingText name attributes ++ '>' :: (content ++ Markup.closingText name)) := by
    simp
  refine ⟨left, last, after, shorter, grown, entered.trans (used.trans ?_)⟩
  exact congrArg (fun position => readLevels entities maximumDepth inner left (level + 1)
    ⟨rest, position⟩ _) place

end

mutual
theorem adds_markup (entities : Entities)
    (inner : Option (Cursor → Builder → Except Fault Builder)) :
    ∀ (level : Nat) (markup : Markup) (builder : Builder), builder.IsReady all →
      markup.WellFormed builder.inherited → markup.bindings ⊆ all →
        Adds entities inner all level markup.text [markup.node builder.inherited] builder
  | level, ⟨name, attributes, children⟩, builder, ready, ⟨wellFormed, below⟩, within => by
      obtain ⟨own, inside⟩ := List.append_subset.mp within
      by_cases childless : children = []
      · subst childless
        rw [Markup.text_childless]
        exact adds_childless entities inner level ready wellFormed own
      · rw [Markup.text_of_children name attributes childless]
        refine adds_element entities inner level ready wellFormed own ?_
        intro opened openedReady started same
        rw [← same] at below ⊢
        exact adds_forest entities inner (level + 1) children opened openedReady started below
          inside

theorem adds_forest (entities : Entities)
    (inner : Option (Cursor → Builder → Except Fault Builder)) :
    ∀ (level : Nat) (forest : List Markup) (builder : Builder), builder.IsReady all →
      builder.tag.isSome = true → ForestWellFormed builder.inherited forest →
        forestBindings forest ⊆ all →
          Adds entities inner all level (Markup.forestText forest)
            (forestNodes builder.inherited forest) builder
  | level, [], _, ready, started, _, _ => adds_nil entities inner level ready.fits started
  | level, markup :: forest, builder, ready, _, ⟨first, others⟩, within => by
      obtain ⟨own, more⟩ := List.append_subset.mp within
      refine adds_append entities inner level
        (adds_markup entities inner level markup builder ready first own) fun start known fits => ?_
      let behind := (builder.enter start known).append (markup.node builder.inherited)
      obtain ⟨tag, _, _, _, _, inherited⟩ :=
        (builder.enter start known).append_parts (markup.node builder.inherited)
      have same : behind.inherited = builder.inherited := inherited
      have entered := ready.enter start fits
      have started : behind.tag.isSome = true := by
        rw [tag]
        rfl
      rw [← same] at others
      have later :=
        adds_forest entities inner level forest behind (entered.append _) started others more
      rwa [same] at later
end

end VectorIcon.Xml
