import VectorIcon.Proofs.Xml.Value
import VectorIcon.Xml.Reader

/-!
Start tags. The reader collects the declarations and the attributes of a well-formed tag one by
one, and the tag that it builds of them is the one that the markup stands for.
-/

namespace VectorIcon.Xml

def PendingAttribute.named (pending : PendingAttribute) : NamedValue :=
  (pending.name, pending.value)

namespace Builder

/-- There is room for all bindings of a document, and those that are known are among them. -/
structure Fits (all known : List Binding) : Prop where
  room : all.length ≤ namespaceLimit
  distinct : known.Nodup
  within : known ⊆ all

def collect (builder : Builder) (declared : List Binding) (pending : List PendingAttribute)
    (known : List Binding) : Builder :=
  { builder with
    declared := builder.declared ++ declared
    attributes := builder.attributes ++ pending
    known := known }

theorem collect_nil (builder : Builder) : builder.collect [] [] builder.known = builder := by
  simp [collect]

theorem collect_collect (builder : Builder) (first second : List Binding)
    (pending more : List PendingAttribute) (known after : List Binding) :
    (builder.collect first pending known).collect second more after =
      builder.collect (first ++ second) (pending ++ more) after := by
  simp [collect]

variable {all : List Binding}

theorem declare_new {builder : Builder} (fits : Fits all builder.known) {binding : Binding}
    (member : binding ∈ all) :
    ∃ known, Fits all known ∧
      builder.declare binding = .ok (builder.collect [binding] [] known) := by
  obtain ⟨room, distinct, within⟩ := fits
  by_cases old : binding ∈ builder.known
  · exact ⟨builder.known, ⟨room, distinct, within⟩, by simp [declare, old, collect]⟩
  · have grown : Fits all (binding :: builder.known) :=
      ⟨room, List.nodup_cons.mpr ⟨old, distinct⟩, List.cons_subset.mpr ⟨member, within⟩⟩
    have shorter : builder.known.length < namespaceLimit :=
      Nat.lt_of_lt_of_le (grown.distinct.length_le_of_subset grown.within) room
    exact ⟨_, grown, by simp [declare, old, Nat.not_le_of_lt shorter, collect]⟩

theorem declareQualifier_new {builder : Builder} (fits : Fits all builder.known)
    {name : QualifiedName} {value : String} (declares : name.qualifier = "xmlns")
    (declarable : IsDeclarable (name, value))
    (fresh : builder.declared.any (Binding.bindsSame (some name.localName)) = false)
    (within : declaredBy [(name, value)] ⊆ all) (position : Position) :
    ∃ known, Fits all known ∧ builder.declareQualifier name.localName value position =
      .ok (builder.collect (declaredBy [(name, value)]) [] known) := by
  obtain ⟨unreserved, xml⟩ := declarable.qualified declares
  by_cases standard : value = xmlNamespace
  · have named : name.localName = "xml" := xml.mpr standard
    rw [named] at fresh
    refine ⟨builder.known, fits, ?_⟩
    simp only [declareQualifier, named, standard]
    simp [fresh, collect, declaredBy, binding?, declares, xmlNamespace, xmlnsNamespace]
  · have other : name.localName ≠ "xml" := fun named => standard (xml.mp named)
    have declared : declaredBy [(name, value)] = [⟨some name.localName, value⟩] := by
      simp [declaredBy, binding?, declares, standard]
    rw [declared] at within ⊢
    obtain ⟨known, grown, step⟩ := declare_new fits (within List.mem_cons_self)
    refine ⟨known, grown, ?_⟩
    rw [← step]
    simp [declareQualifier, unreserved, other, standard, fresh]

theorem declareDefault_new {builder : Builder} (fits : Fits all builder.known)
    {name : QualifiedName} {value : String} (unqualified : name.qualifier ≠ "xmlns")
    (declares : name.localName = "xmlns") (declarable : IsDeclarable (name, value))
    (within : declaredBy [(name, value)] ⊆ all) (position : Position) :
    ∃ known, Fits all known ∧ builder.declareDefault value position =
      .ok (builder.collect (declaredBy [(name, value)]) [] known) := by
  obtain ⟨plain, unreserved⟩ := declarable.unqualified unqualified declares
  have declared : declaredBy [(name, value)] = [⟨none, value⟩] := by
    simp [declaredBy, binding?, unqualified, declares]
  rw [declared] at within ⊢
  obtain ⟨known, grown, step⟩ := declare_new fits (within List.mem_cons_self)
  exact ⟨known, grown, by simp [declareDefault, plain, unreserved, step]⟩

theorem addAttribute_escaped {builder : Builder} (settled : builder.references = 0)
    (fits : Fits all builder.known) {given : NamedValue}
    (declarable : IsDeclarable (readValue given))
    (fresh : given.1.qualifier = "xmlns" →
      builder.declared.any (Binding.bindsSame (some given.1.localName)) = false)
    (within : declaredBy [readValue given] ⊆ all) (entities : Entities)
    (start position : Position) :
    ∃ pending known, pending.map PendingAttribute.named = undeclaring [readValue given] ∧
      Fits all known ∧
      builder.addAttribute entities maximumDepth
          ⟨given.1, ⟨Text.escape given.2.toList, start⟩, position⟩ =
        .ok (builder.collect (declaredBy [readValue given]) pending known) := by
  obtain ⟨name, value⟩ := given
  let read := String.ofList (normalizeRun value.toList)
  have expanded := valueText_escape entities value.toList builder.references start
  have counted : countBehind maximumDepth builder.references = builder.references := by
    rw [settled]
    rfl
  simp only [addAttribute, expanded, bind, Except.bind, counted]
  by_cases qualified : name.qualifier = "xmlns"
  · obtain ⟨known, grown, step⟩ :=
      declareQualifier_new fits qualified declarable (fresh qualified) within position
    refine ⟨[], known, ?_, grown, ?_⟩
    · simp [undeclaring, isDeclaration, readValue, qualified]
    · rw [if_pos qualified]
      exact step
  · by_cases default : name.localName = "xmlns"
    · obtain ⟨known, grown, step⟩ :=
        declareDefault_new fits qualified default declarable within position
      refine ⟨[], known, ?_, grown, ?_⟩
      · simp [undeclaring, isDeclaration, readValue, default]
      · rw [if_neg qualified, if_pos default]
        exact step
    · refine ⟨[⟨name, read, position⟩], builder.known, ?_, fits, ?_⟩
      · simp [undeclaring, isDeclaration, readValue, qualified, default, PendingAttribute.named,
          read]
      · rw [if_neg qualified, if_neg default]
        simp [declaredBy, binding?, readValue, qualified, default, collect, read, pure,
          Except.pure]

end Builder

theorem qualifier_of_binding? {given : NamedValue} {binding : Binding}
    (declared : binding? given = some binding) :
    binding.qualifier = if given.1.qualifier = "xmlns" then some given.1.localName else none := by
  unfold binding? at declared
  split at declared
  · rename_i qualified
    simp only [Option.ite_none_left_eq_some, Option.some.injEq] at declared
    rw [← declared.2, if_pos qualified]
  · rename_i unqualified
    simp only [Option.ite_none_right_eq_some, Option.some.injEq] at declared
    rw [← declared.2, if_neg unqualified]

/-- A qualifier is declared by the attribute of its name alone. -/
theorem bindsSame_declaredBy {given : NamedValue} {attributes : List NamedValue}
    (declares : given.1.qualifier = "xmlns") (absent : given.1 ∉ attributes.map Prod.fst) :
    (declaredBy (attributes.map readValue)).any (Binding.bindsSame (some given.1.localName)) =
      false := by
  refine Bool.eq_false_iff.mpr fun found => ?_
  obtain ⟨binding, member, same⟩ := List.any_eq_true.mp found
  obtain ⟨read, readMember, declared⟩ := List.mem_filterMap.mp member
  obtain ⟨written, writtenMember, rfl⟩ := List.mem_map.mp readMember
  have qualifier := qualifier_of_binding? declared
  rw [beq_iff_eq.mp same] at qualifier
  by_cases qualified : written.1.qualifier = "xmlns"
  · rw [if_pos (show (readValue written).1.qualifier = "xmlns" from qualified)] at qualifier
    have named : given.1.localName = written.1.localName := Option.some.inj qualifier
    refine absent (List.mem_map.mpr ⟨written, writtenMember, ?_⟩)
    rw [QualifiedName.mk.injEq]
    exact ⟨qualified.trans declares.symm, named.symm⟩
  · rw [if_neg (show ¬(readValue written).1.qualifier = "xmlns" from qualified)] at qualifier
    exact absurd qualifier (by simp)

theorem endsValue_escape {value : List Char} (valid : ∀ c ∈ value, isXmlChar c = true) {c : Char}
    (member : c ∈ Text.escape value) :
    isXmlChar c = true ∧ Cursor.endsValue '"' [c] = false := by
  obtain ⟨source, inside, found⟩ := List.mem_flatMap.mp member
  obtain ⟨quote, less, kept⟩ := mem_escapeChar found
  exact ⟨kept (valid source inside), by simp [Cursor.endsValue, quote, less]⟩

theorem readTagRest_attribute (entities : Entities) (room fuel : Nat) {given : NamedValue}
    (readable : IsAttribute given) (tail : List Char) (position : Position) (builder : Builder) :
    ∃ start place,
      readTagRest entities room (fuel + 1) ⟨Markup.attributeText given ++ tail, position⟩ builder =
        (builder.addAttribute entities room
          ⟨given.1, ⟨Text.escape given.2.toList, start⟩, place⟩).bind fun builder =>
            readTagRest entities room fuel
              ⟨tail, position.after (Markup.attributeText given)⟩ builder := by
  obtain ⟨name, value⟩ := given
  obtain ⟨c, more, spelled, starts⟩ := readable.name.exists_cons
  let behind := '=' :: '"' :: (Text.escape value.toList ++ '"' :: tail)
  have read := Cursor.readAttribute_written readable.name
    (fun c member => endsValue_escape readable.value member) tail (position.next ' ')
  simp only [spelled, List.cons_append] at read
  have solid : Text.stops isSpace (c :: (more ++ behind)) = true := by
    simp [isSpace_of_isNameStart starts]
  have blank : [' '].all isSpace = true := by decide
  have skipped : (⟨' ' :: c :: (more ++ behind), position⟩ : Cursor).skipSpaces =
      ⟨c :: (more ++ behind), position.next ' '⟩ := Cursor.skipSpaces_run blank solid position
  have slash : c ≠ '/' := ne_of_isNameStart starts (by decide)
  have greater : c ≠ '>' := ne_of_isNameStart starts (by decide)
  have text : Markup.attributeText (name, value) ++ tail = ' ' :: c :: (more ++ behind) := by
    simp only at spelled
    simp [Markup.attributeText, spelled, behind]
  have place : position.after (Markup.attributeText (name, value)) = (position.next ' ').after
      (c :: (more ++ '=' :: '"' :: (Text.escape value.toList ++ ['"']))) := by
    simp only at spelled
    simp [Markup.attributeText, spelled]
  refine ⟨(position.next ' ').after (c :: (more ++ ['=', '"'])), position.next ' ', ?_⟩
  rw [text]
  simp only [readTagRest, Cursor.atEnd, List.isEmpty_cons, Bool.false_eq_true, if_false, skipped,
    slash, greater, Cursor.startsWithSpace, read, bind, Except.bind, behind]
  rw [if_neg (by decide), place]

theorem readTagRest_attributes (entities : Entities) {all : List Binding} :
    ∀ (attributes : List NamedValue), (∀ given ∈ attributes, IsAttribute given) →
      (attributes.map Prod.fst).Nodup → declaredBy (attributes.map readValue) ⊆ all →
      ∀ (builder : Builder), builder.references = 0 → Builder.Fits all builder.known →
      (∀ given ∈ attributes, given.1.qualifier = "xmlns" →
        builder.declared.any (Binding.bindsSame (some given.1.localName)) = false) →
      ∀ (tail : List Char) (fuel : Nat) (position : Position),
        ∃ pending known, pending.map PendingAttribute.named =
            undeclaring (attributes.map readValue) ∧ Builder.Fits all known ∧
          readTagRest entities maximumDepth (attributes.length + fuel)
              ⟨attributes.flatMap Markup.attributeText ++ tail, position⟩ builder =
            readTagRest entities maximumDepth fuel
              ⟨tail, position.after (attributes.flatMap Markup.attributeText)⟩
              (builder.collect (declaredBy (attributes.map readValue)) pending known) := by
  intro attributes
  induction attributes with
  | nil =>
      intro _ _ _ builder _ fits _ tail fuel position
      refine ⟨[], builder.known, rfl, fits, ?_⟩
      simp [declaredBy, Builder.collect_nil]
  | cons given rest ih =>
      intro readable distinct within builder settled fits fresh tail fuel position
      simp only [List.map_cons, List.nodup_cons] at distinct
      obtain ⟨absent, others⟩ := distinct
      have split : declaredBy ((given :: rest).map readValue) =
          declaredBy [readValue given] ++ declaredBy (rest.map readValue) :=
        declaredBy_append [readValue given] _
      obtain ⟨own, below⟩ := List.append_subset.mp (split ▸ within)
      have first := readable given (by simp)
      obtain ⟨start, place, step⟩ := readTagRest_attribute entities maximumDepth
        (rest.length + fuel) first (rest.flatMap Markup.attributeText ++ tail) position builder
      obtain ⟨pending, known, named, grown, added⟩ := Builder.addAttribute_escaped settled fits
        first.declarable (fresh given (by simp)) own entities start place
      let behind := builder.collect (declaredBy [readValue given]) pending known
      have unbound : ∀ other ∈ rest, other.1.qualifier = "xmlns" →
          behind.declared.any (Binding.bindsSame (some other.1.localName)) = false := by
        intro other member declares
        have apart : other.1 ∉ [given].map Prod.fst := by
          simp only [List.map_cons, List.map_nil, List.mem_singleton]
          intro same
          exact absent (List.mem_map.mpr ⟨other, member, same⟩)
        simp only [behind, Builder.collect, List.any_append, Bool.or_eq_false_iff]
        exact ⟨fresh other (by simp [member]) declares, bindsSame_declaredBy declares apart⟩
      obtain ⟨more, after, moreNamed, fitting, later⟩ :=
        ih (fun other member => readable other (by simp [member])) others below behind settled grown
          unbound tail fuel (position.after (Markup.attributeText given))
      refine ⟨pending ++ more, after, ?_, fitting, ?_⟩
      · rw [List.map_append, named, moreNamed, List.map_cons, ← undeclaring_append,
          List.singleton_append]
      · rw [List.flatMap_cons, List.append_assoc, List.length_cons, Nat.add_right_comm, step, added,
          split, Position.after_append, ← Builder.collect_collect]
        exact later

namespace Builder

theorem resolveName_bound {bindings : List Binding} {name : QualifiedName}
    (bound : IsBound bindings name) (unqualified : Option String) (position : Position) :
    resolveName bindings unqualified name position =
      .ok (if name.qualifier = "" then unqualified
        else Binding.uriOf? bindings (some name.qualifier)) := by
  unfold resolveName
  by_cases plain : name.qualifier = ""
  · rw [if_pos plain, if_pos plain]
  · rw [if_neg plain, if_neg plain]
    rcases bound with none | bound
    · exact absurd none plain
    · obtain ⟨uri, found⟩ := Option.isSome_iff_exists.mp bound
      simp [found]

theorem resolveAttribute_bound {bindings : List Binding} {pending : PendingAttribute}
    (bound : pending.name.qualifier = "xml" ∨ IsBound bindings pending.name) :
    resolveAttribute bindings pending = .ok (resolved bindings pending.named) := by
  unfold resolveAttribute
  by_cases standard : pending.name.qualifier = "xml"
  · simp [standard, resolved, uriOfAttribute, PendingAttribute.named, bind, Except.bind, pure,
      Except.pure]
  · have found := resolveName_bound (bound.resolve_left standard) none pending.position
    have uri : uriOfAttribute bindings pending.name = _ := if_neg standard
    simp only [if_neg standard, found, bind, Except.bind, pure, Except.pure]
    rw [← uri]
    rfl

theorem resolveAttributes_bound {bindings : List Binding} {pending : List PendingAttribute} :
    ∀ {known : List Attribute}, (∀ given ∈ pending.map PendingAttribute.named,
        given.1.qualifier = "xml" ∨ IsBound bindings given.1) →
      AreDistinct (known ++ (pending.map PendingAttribute.named).map (resolved bindings)) →
        resolveAttributes bindings known pending =
          .ok (known ++ (pending.map PendingAttribute.named).map (resolved bindings)) := by
  induction pending with
  | nil =>
      intro known _ _
      simp [resolveAttributes]
  | cons first rest ih =>
      intro known bound distinct
      have found := resolveAttribute_bound (bound first.named (by simp))
      have fresh : known.any (sameName (resolved bindings first.named)) = false := by
        refine Bool.eq_false_iff.mpr fun repeated => ?_
        obtain ⟨earlier, member, same⟩ := List.any_eq_true.mp repeated
        have apart := (List.pairwise_append.mp distinct).2.2 earlier member
          (resolved bindings first.named) (by simp)
        rw [apart] at same
        exact absurd same (by decide)
      have shifted : known ++ ((first :: rest).map PendingAttribute.named).map (resolved bindings) =
          (known ++ [resolved bindings first.named]) ++
            (rest.map PendingAttribute.named).map (resolved bindings) := by
        simp
      rw [shifted] at distinct ⊢
      have later := ih (fun given member => bound given (by simp [member])) distinct
      simp only [resolveAttributes, found, fresh, bind, Except.bind, Bool.false_eq_true, if_false,
        later]

structure Collects (builder : Builder) (attributes : List NamedValue) : Prop where
  declared : builder.declared = declaredBy (attributes.map readValue)
  pending : builder.attributes.map PendingAttribute.named = undeclaring (attributes.map readValue)

def settle (builder : Builder) : Builder :=
  { builder with declared := [], attributes := [] }

theorem resolveTag_collected {builder : Builder} {name : QualifiedName}
    {attributes : List NamedValue} (collected : builder.Collects attributes)
    (wellFormed : IsTag builder.inherited name attributes) (position : Position) :
    builder.resolveTag ⟨name, position⟩ =
      .ok (tagOf builder.inherited name attributes, builder.settle) := by
  let bindings := (tagOf builder.inherited name attributes).bindings
  have scope : Binding.inScope builder.declared builder.inherited = bindings := by
    rw [collected.declared]
    rfl
  have bound : ∀ given ∈ builder.attributes.map PendingAttribute.named,
      given.1.qualifier = "xml" ∨ IsBound bindings given.1 := by
    rw [collected.pending]
    exact wellFormed.qualified
  have distinct : AreDistinct
      ([] ++ (builder.attributes.map PendingAttribute.named).map (resolved bindings)) := by
    rw [collected.pending]
    exact wellFormed.distinct
  have found := resolveAttributes_bound bound distinct
  have resolves : IsBound bindings name := wellFormed.bound
  have uri := resolveName_bound resolves (Binding.uriOf? bindings none) position
  rw [collected.pending, List.nil_append] at found
  simp only [resolveTag, resolve, scope, found, uri, bind, Except.bind, pure, Except.pure]
  rfl

theorem finishTag_closed {builder : Builder} {name : QualifiedName}
    {attributes : List NamedValue} {start : Position}
    (started : builder.tag = some ⟨name, start⟩) (collected : builder.Collects attributes)
    (wellFormed : IsTag builder.inherited name attributes) (position : Position) :
    builder.finishTag true position =
      .ok (builder.settle.append (.element (tagOf builder.inherited name attributes) [])) := by
  have tag := resolveTag_collected collected wellFormed start
  simp [finishTag, started, tag, bind, Except.bind, pure, Except.pure]

theorem finishTag_opened {builder : Builder} {name : QualifiedName}
    {attributes : List NamedValue} {start : Position}
    (started : builder.tag = some ⟨name, start⟩) (collected : builder.Collects attributes)
    (wellFormed : IsTag builder.inherited name attributes) (position : Position) :
    builder.finishTag false position =
      .ok { builder.settle with
        ancestors := ⟨tagOf builder.inherited name attributes, []⟩ :: builder.ancestors } := by
  have tag := resolveTag_collected collected wellFormed start
  simp [finishTag, started, tag, settle, bind, Except.bind, pure, Except.pure]

end Builder

end VectorIcon.Xml
