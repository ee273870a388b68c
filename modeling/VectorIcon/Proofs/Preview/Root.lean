import VectorIcon.Proofs.Number.Printed
import VectorIcon.Proofs.Preview.Reversible
import VectorIcon.Proofs.Xml.Unqualified

/-!
The root of the markup. It declares the default namespace, that of links and a placeholder for each
qualifier that is left, and it has the attributes of the wrapper.
-/

namespace VectorIcon.Preview

def rootBindings : List Xml.Binding :=
  [⟨none, svgNamespace⟩, ⟨some "xlink", xlinkNamespace⟩]

def placeholderBinding (qualifier : List Char) : Xml.Binding :=
  ⟨some (String.ofList qualifier), "urn:svgicon:" ++ String.ofList qualifier⟩

def bindingsWith (qualifiers : List (List Char)) : List Xml.Binding :=
  rootBindings ++ qualifiers.map placeholderBinding

def wrapperAttributes (viewBox : String) : List Xml.NamedValue :=
  [(⟨"", "class"⟩, wrapperClass), (⟨"", "focusable"⟩, "false"), (⟨"", "aria-hidden"⟩, "true"),
    (⟨"", "viewBox"⟩, viewBox)]

def declarationAttributes (qualifiers : List (List Char)) : List Xml.NamedValue :=
  (⟨"", "xmlns"⟩, svgNamespace) :: (⟨"xmlns", "xlink"⟩, xlinkNamespace) ::
    qualifiers.map placeholder

def rootScope (preview : Preview) : List Xml.Binding :=
  bindingsWith preview.placeholders

theorem rootAttributes_eq (preview : Preview) :
    rootAttributes preview =
      wrapperAttributes preview.viewBox ++ declarationAttributes preview.placeholders := rfl

/-- Qualifiers that the root can declare beside the standard ones, each once. -/
structure ArePlaceholders (qualifiers : List (List Char)) : Prop where
  distinct : qualifiers.Nodup
  written : ∀ qualifier ∈ qualifiers,
    (⟨"xmlns", String.ofList qualifier⟩ : Xml.QualifiedName).IsWritten
  other : ∀ qualifier ∈ qualifiers, qualifier ∉ standardQualifiers

theorem arePlaceholders_nil : ArePlaceholders [] := by
  constructor <;> simp

theorem isKeptChar_of_isNameChar {c : Char} (accepted : Xml.isNameChar c = true) :
    isKeptChar c = true ∧ Text.isEscaped c = false := by
  by_cases ascii : c.toNat < 128
  · exact Text.forall_ascii (fun c => Xml.isNameChar c = true →
      isKeptChar c = true ∧ Text.isEscaped c = false) (by decide) ascii accepted
  · have other (mark : Char) (small : mark.toNat < 128) : c ≠ mark := by
      rintro rfl
      exact ascii small
    have code : c.toNat ≠ 0xfffe ∧ c.toNat ≠ 0xffff := by
      simp only [Xml.isNameChar, Xml.isWideNameStart, ascii, if_false, Bool.or_eq_true,
        Bool.and_eq_true, decide_eq_true_eq, beq_iff_eq] at accepted
      omega
    have printable : ¬c.toNat < 0x20 := by omega
    constructor
    · simp [isKeptChar, Xml.isXmlChar, printable, code, other '\t' (by decide),
        other '\n' (by decide), other '\r' (by decide)]
    · simp [Text.isEscaped, other '&' (by decide), other '<' (by decide), other '>' (by decide),
        other '"' (by decide)]

section

variable {qualifiers : List (List Char)} (legal : ArePlaceholders qualifiers)

include legal

theorem all_isNameChar_placeholder {qualifier : List Char} (member : qualifier ∈ qualifiers) :
    qualifier.all Xml.isNameChar = true := by
  have accepted := (legal.written qualifier member).accepted
  have spelled : (⟨"xmlns", String.ofList qualifier⟩ : Xml.QualifiedName).text.toList =
      "xmlns:".toList ++ qualifier := by
    simp [Xml.QualifiedName.text]
  rw [spelled, List.all_append, Bool.and_eq_true] at accepted
  exact accepted.2

theorem escape_placeholder {qualifier : List Char} (member : qualifier ∈ qualifiers) :
    Text.escape qualifier = qualifier := by
  apply Text.escape_plain
  rw [List.all_eq_true]
  intro c inside
  have accepted := List.all_eq_true.mp (all_isNameChar_placeholder legal member) c inside
  simp [(isKeptChar_of_isNameChar accepted).2]

theorem all_placeholder_kept {qualifier : List Char} (member : qualifier ∈ qualifiers) :
    (placeholder qualifier).2.toList.all isKeptChar = true := by
  have prefix_ : "urn:svgicon:".toList.all isKeptChar = true := by decide
  have kept : qualifier.all isKeptChar = true := by
    rw [List.all_eq_true]
    intro c inside
    have accepted := List.all_eq_true.mp (all_isNameChar_placeholder legal member) c inside
    exact (isKeptChar_of_isNameChar accepted).1
  simp only [placeholder, String.toList_append, String.toList_ofList, List.all_append, prefix_,
    kept, Bool.and_self]

end

theorem isKeptChar_of_isPrintedChar {c : Char} (printed : Number.isPrintedChar c = true) :
    isKeptChar c = true :=
  Text.forall_ascii (fun c => Number.isPrintedChar c = true → isKeptChar c = true) (by decide)
    (Number.ascii_of_isPrintedChar printed) printed

theorem all_text_kept (frame : Frame) : frame.text.toList.all isKeptChar = true := by
  refine List.all_eq_true.mpr fun c member => ?_
  rcases frame.text_printed member with printed | rfl
  · exact isKeptChar_of_isPrintedChar printed
  · decide

theorem all_root_kept (frame : Frame) {qualifiers : List (List Char)}
    (legal : ArePlaceholders qualifiers) {given : Xml.NamedValue}
    (member : given ∈ wrapperAttributes frame.text ++ declarationAttributes qualifiers) :
    given.2.toList.all isKeptChar = true := by
  simp only [wrapperAttributes, declarationAttributes, List.cons_append, List.nil_append,
    List.mem_cons, List.mem_map] at member
  rcases member with rfl | rfl | rfl | rfl | rfl | rfl | ⟨qualifier, inside, rfl⟩
  · decide
  · decide
  · decide
  · exact all_text_kept frame
  · decide
  · decide
  · exact all_placeholder_kept legal inside

theorem readValue_root (frame : Frame) {qualifiers : List (List Char)}
    (legal : ArePlaceholders qualifiers) :
    (wrapperAttributes frame.text ++ declarationAttributes qualifiers).map Xml.readValue =
      wrapperAttributes frame.text ++ declarationAttributes qualifiers :=
  (List.map_congr_left fun _ member => readValue_of_kept (all_root_kept frame legal member)).trans
    (List.map_id _)

theorem areUnqualified_wrapperAttributes (viewBox : String) :
    Xml.AreUnqualified (wrapperAttributes viewBox) := by
  intro given member
  simp only [wrapperAttributes, List.mem_cons, List.not_mem_nil, or_false] at member
  rcases member with rfl | rfl | rfl | rfl
  · exact ⟨rfl, by decide⟩
  · exact ⟨rfl, by decide⟩
  · exact ⟨rfl, by decide⟩
  · exact ⟨rfl, by simp⟩

theorem placeholder_ne (qualifier : List Char) {uri : String}
    (other : uri.toList.head? ≠ some 'u') : (placeholder qualifier).2 ≠ uri := by
  rintro rfl
  apply other
  simp [placeholder]

theorem binding?_placeholder (qualifier : List Char) :
    Xml.binding? (placeholder qualifier) = some (placeholderBinding qualifier) := by
  have declares : (placeholder qualifier).1.qualifier = "xmlns" := rfl
  have other := placeholder_ne qualifier
    (show Xml.xmlNamespace.toList.head? ≠ some 'u' by decide +kernel)
  rw [Xml.binding?, if_pos declares, if_neg other]
  rfl

theorem declaredBy_root (viewBox : String) (qualifiers : List (List Char)) :
    Xml.declaredBy (wrapperAttributes viewBox ++ declarationAttributes qualifiers) =
      bindingsWith qualifiers := by
  have wrapper := Xml.declaredBy_unqualified (areUnqualified_wrapperAttributes viewBox)
  have standard : Xml.declaredBy [(⟨"", "xmlns"⟩, svgNamespace),
      (⟨"xmlns", "xlink"⟩, xlinkNamespace)] = rootBindings := by decide
  have others : Xml.declaredBy (qualifiers.map placeholder) =
      qualifiers.map placeholderBinding := by
    have each : Xml.binding? ∘ placeholder = some ∘ placeholderBinding :=
      funext binding?_placeholder
    rw [Xml.declaredBy, List.filterMap_map, each, List.filterMap_eq_map]
  have split : declarationAttributes qualifiers = [(⟨"", "xmlns"⟩, svgNamespace),
      (⟨"xmlns", "xlink"⟩, xlinkNamespace)] ++ qualifiers.map placeholder := rfl
  rw [split, Xml.declaredBy_append, Xml.declaredBy_append, wrapper, standard, others]
  rfl

theorem bindings_rootTree (frame : Frame) {elements : List Element}
    (legal : ArePlaceholders (ofElements elements frame).placeholders) :
    (rootTree (ofElements elements frame)).bindings =
      rootScope (ofElements elements frame) ++
        Xml.forestBindings (forestOf (forestWithKeys 0 elements)) := by
  have own := declaredBy_root frame.text (ofElements elements frame).placeholders
  rw [← readValue_root frame legal] at own
  rw [rootScope, ← own]
  rfl

theorem undeclaring_root (viewBox : String) (qualifiers : List (List Char)) :
    Xml.undeclaring (wrapperAttributes viewBox ++ declarationAttributes qualifiers) =
      wrapperAttributes viewBox := by
  have every := Xml.undeclaring_unqualified (areUnqualified_wrapperAttributes viewBox)
  have none : Xml.undeclaring (declarationAttributes qualifiers) = [] := by
    rw [Xml.undeclaring, List.filter_eq_nil_iff]
    intro given member
    simp only [declarationAttributes, List.mem_cons, List.mem_map] at member
    rcases member with rfl | rfl | ⟨qualifier, _, rfl⟩
    · decide
    · decide
    · simp [Xml.isDeclaration, placeholder]
  rw [Xml.undeclaring_append, every, none, List.append_nil]

theorem tagOf_root (frame : Frame) {qualifiers : List (List Char)}
    (legal : ArePlaceholders qualifiers) :
    Xml.tagOf [] ⟨"", "svg"⟩ (wrapperAttributes frame.text ++ declarationAttributes qualifiers) =
      ⟨⟨"", "svg"⟩, some svgNamespace, bindingsWith qualifiers,
        (wrapperAttributes frame.text).map (Xml.resolved (bindingsWith qualifiers))⟩ := by
  rw [Xml.tagOf, readValue_root frame legal, declaredBy_root, undeclaring_root]
  rfl

theorem isWritten_root (viewBox : String) {qualifiers : List (List Char)}
    (legal : ArePlaceholders qualifiers) {given : Xml.NamedValue}
    (member : given ∈ wrapperAttributes viewBox ++ declarationAttributes qualifiers) :
    given.1.IsWritten := by
  simp only [wrapperAttributes, declarationAttributes, List.cons_append, List.nil_append,
    List.mem_cons, List.mem_map] at member
  rcases member with rfl | rfl | rfl | rfl | rfl | rfl | ⟨qualifier, inside, rfl⟩
  · exact isWritten_of_isSmallName (by decide)
  · exact isWritten_of_isSmallName (by decide)
  · exact isWritten_of_isSmallName (by decide)
  · exact isWritten_of_isSmallName (by decide)
  · exact isWritten_of_isSmallName (by decide)
  · exact ⟨by decide, by decide⟩
  · exact legal.written qualifier inside

theorem isDeclarable_placeholder {qualifier : List Char}
    (other : qualifier ∉ standardQualifiers) : Xml.IsDeclarable (placeholder qualifier) := by
  have reserved := placeholder_ne qualifier
    (show Xml.xmlnsNamespace.toList.head? ≠ some 'u' by decide +kernel)
  have standard := placeholder_ne qualifier
    (show Xml.xmlNamespace.toList.head? ≠ some 'u' by decide +kernel)
  have named : (placeholder qualifier).1.localName ≠ "xml" := by
    intro same
    apply other
    have spelled : qualifier = "xml".toList := by
      simpa [placeholder] using congrArg String.toList same
    simp [spelled, standardQualifiers]
  exact ⟨fun _ => ⟨reserved, fun same => absurd same named, fun same => absurd same standard⟩,
    fun unqualified => absurd rfl unqualified⟩

theorem isDeclarable_root (viewBox : String) {qualifiers : List (List Char)}
    (legal : ArePlaceholders qualifiers) {given : Xml.NamedValue}
    (member : given ∈ wrapperAttributes viewBox ++ declarationAttributes qualifiers) :
    Xml.IsDeclarable given := by
  rcases List.mem_append.mp member with wrapper | declaration
  · obtain ⟨qualifier, localName⟩ := areUnqualified_wrapperAttributes viewBox given wrapper
    exact ⟨fun declared => absurd (qualifier.symm.trans declared) (by decide),
      fun _ declared => absurd declared localName⟩
  · simp only [declarationAttributes, List.mem_cons, List.mem_map] at declaration
    rcases declaration with rfl | rfl | ⟨qualifier, inside, rfl⟩
    · exact ⟨fun declared => absurd declared (by decide), fun _ _ => by decide⟩
    · exact ⟨fun _ => by decide, fun other => absurd rfl other⟩
    · exact isDeclarable_placeholder (legal.other qualifier inside)

theorem nodup_root (viewBox : String) {qualifiers : List (List Char)}
    (legal : ArePlaceholders qualifiers) :
    ((wrapperAttributes viewBox ++ declarationAttributes qualifiers).map Prod.fst).Nodup := by
  let standard : List Xml.QualifiedName := [⟨"", "class"⟩, ⟨"", "focusable"⟩, ⟨"", "aria-hidden"⟩,
    ⟨"", "viewBox"⟩, ⟨"", "xmlns"⟩, ⟨"xmlns", "xlink"⟩]
  have names : (wrapperAttributes viewBox ++ declarationAttributes qualifiers).map Prod.fst =
      standard ++ qualifiers.map fun qualifier => (placeholder qualifier).1 := by
    simp [wrapperAttributes, declarationAttributes, standard, Function.comp_def]
  rw [names, List.nodup_append]
  refine ⟨by decide, ?_, ?_⟩
  · rw [List.Nodup, List.pairwise_map]
    refine legal.distinct.imp fun different same => different ?_
    simpa [placeholder] using congrArg (fun name => name.localName.toList) same
  · intro name first other second same
    obtain ⟨qualifier, inside, rfl⟩ := List.mem_map.mp second
    subst same
    have linked : String.ofList qualifier = "xlink" := by simpa [standard, placeholder] using first
    have link : qualifier = "xlink".toList := by simpa using congrArg String.toList linked
    apply legal.other qualifier inside
    simp [link, standardQualifiers]

theorem isTag_root (frame : Frame) {qualifiers : List (List Char)}
    (legal : ArePlaceholders qualifiers) :
    Xml.IsTag [] ⟨"", "svg"⟩
      (wrapperAttributes frame.text ++ declarationAttributes qualifiers) := by
  have unqualified := areUnqualified_wrapperAttributes frame.text
  have named := nodup_root frame.text legal
  refine ⟨isWritten_of_isSmallName (by decide), by decide, Or.inl rfl, ?_, named, ?_, ?_⟩
  · intro given member
    refine ⟨isWritten_root frame.text legal member, fun c inside => ?_, ?_⟩
    · have kept := all_root_kept frame legal member
      exact isXmlChar_of_isKeptChar (List.all_eq_true.mp kept c inside)
    · rw [readValue_of_kept (all_root_kept frame legal member)]
      exact isDeclarable_root frame.text legal member
  · intro given member
    rw [readValue_root frame legal, undeclaring_root] at member
    exact Or.inr (Or.inl (unqualified given member).1)
  · rw [tagOf_root frame legal]
    rw [List.map_append] at named
    exact Xml.areDistinct_unqualified _
      (fun given member => (unqualified given member).1) (List.nodup_append.mp named).1

section

variable {elements : List Element} (frame : Frame)
  (legal : ArePlaceholders (ofElements elements frame).placeholders)

include legal

theorem node_rootTree :
    (rootTree (ofElements elements frame)).node [] =
      .element ⟨⟨"", "svg"⟩, some svgNamespace, rootScope (ofElements elements frame),
          (wrapperAttributes frame.text).map (Xml.resolved (rootScope (ofElements elements frame)))⟩
        (Xml.forestNodes (rootScope (ofElements elements frame))
          (forestOf (forestWithKeys 0 elements))) := by
  have tag := tagOf_root frame legal
  rw [rootTree, rootAttributes_eq, Xml.Markup.node]
  simp only [ofElements, rootScope] at tag ⊢
  rw [tag]

theorem wellFormed_rootTree
    (below : Xml.ForestWellFormed (rootScope (ofElements elements frame))
      (forestOf (forestWithKeys 0 elements))) :
    (rootTree (ofElements elements frame)).WellFormed [] := by
  have tag := tagOf_root frame legal
  rw [rootTree, rootAttributes_eq, Xml.Markup.WellFormed]
  refine ⟨isTag_root frame legal, ?_⟩
  simp only [ofElements, rootScope] at tag below ⊢
  rw [tag]
  exact below

end

theorem children_ofElements_ne_nil (frame : Frame) {elements : List Element}
    (nonempty : elements ≠ []) : (ofElements elements frame).children ≠ [] := by
  cases elements with
  | nil => exact absurd rfl nonempty
  | cons element rest => simp [ofElements, forestWithKeys]

end VectorIcon.Preview
