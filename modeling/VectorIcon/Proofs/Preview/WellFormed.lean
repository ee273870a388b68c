import VectorIcon.Proofs.Preview.Reversible
import VectorIcon.Proofs.Xml.Unqualified

/-!
The markup of a reversible tree is well formed below every set of bindings. No tag and no attribute
has a qualifier, so the root declares no placeholder, and no two attributes of an element have the
same name.
-/

namespace VectorIcon.Preview

variable {tag : String} {properties : Properties} (reversible : IsReversible tag properties)

include reversible

theorem writtenAttributes_of_reversible :
    writtenAttributes properties = properties.entries.map fun entry =>
      (⟨"", Attribute.markupName entry.1⟩, String.ofList (valueText entry.2)) := by
  have every : (properties.entries.filter fun entry => !declaredOnRoot entry) =
      properties.entries := by
    refine List.filter_eq_self.mpr fun entry member => ?_
    rw [declaredOnRoot_of_reversible (reversible.properties entry member)]
    rfl
  rw [writtenAttributes, every]
  exact List.map_congr_left fun entry member =>
    namedValue_of_reversible (reversible.properties entry member)

theorem areUnqualified_writtenAttributes : Xml.AreUnqualified (writtenAttributes properties) := by
  rw [writtenAttributes_of_reversible reversible]
  intro given member
  obtain ⟨entry, inside, rfl⟩ := List.mem_map.mp member
  have plain := plainName_of_reversible (reversible.properties entry inside)
  exact ⟨rfl, Attribute.markupName_ne_xmlns plain⟩

theorem nodup_writtenAttributes : ((writtenAttributes properties).map Prod.fst).Nodup := by
  rw [writtenAttributes_of_reversible reversible, List.map_map, List.Nodup, List.pairwise_map]
  have distinct := properties.distinct
  rw [List.Nodup, List.pairwise_map] at distinct
  refine distinct.imp_of_mem fun {earlier later} first second different same => different ?_
  have front := plainName_of_reversible (reversible.properties earlier first)
  have back := plainName_of_reversible (reversible.properties later second)
  simp only [Function.comp_apply, Xml.QualifiedName.mk.injEq, true_and] at same
  exact Attribute.markupName_injective front back same

theorem readValue_writtenAttributes :
    (writtenAttributes properties).map Xml.readValue = writtenAttributes properties := by
  rw [writtenAttributes_of_reversible reversible, List.map_map]
  refine List.map_congr_left fun entry member => readValue_of_kept ?_
  rw [String.toList_ofList]
  exact all_valueText_kept (reversible.properties entry member)

theorem isSmallName_of_reversible : isSmallName isPropertyChar tag.toList = true :=
  isSmallName_imp reversible.tag fun _ => isPropertyChar_of_isTagChar

theorem nameOf_of_reversible : nameOf tag.toList = ⟨"", tag⟩ := by
  have small := isSmallName_of_reversible reversible
  rw [nameOf_of_not_mem (colon_not_mem_of_isSmallName small), String.ofList_toList]

theorem isTag_of_reversible (inherited : List Xml.Binding) :
    Xml.IsTag inherited (nameOf tag.toList) (writtenAttributes properties) := by
  have small := isSmallName_of_reversible reversible
  rw [nameOf_of_reversible reversible]
  refine Xml.isTag_unqualified inherited (areUnqualified_writtenAttributes reversible)
    (isWritten_of_isSmallName small) ?_ ?_ (nodup_writtenAttributes reversible)
  · intro given member
    rw [writtenAttributes_of_reversible reversible] at member
    obtain ⟨entry, inside, rfl⟩ := List.mem_map.mp member
    have plain := plainName_of_reversible (reversible.properties entry inside)
    exact isWritten_of_isSmallName (Attribute.isSmallName_markupName plain)
  · intro given member c inside
    rw [writtenAttributes_of_reversible reversible] at member
    obtain ⟨entry, known, rfl⟩ := List.mem_map.mp member
    rw [String.toList_ofList] at inside
    have kept := all_valueText_kept (reversible.properties entry known)
    exact isXmlChar_of_isKeptChar (List.all_eq_true.mp kept c inside)

omit reversible

mutual
theorem wellFormed_treeOf (inherited : List Xml.Binding) (key : Nat) :
    ∀ element : Element, element.Everywhere IsReversible →
      (treeOf (elementWithKey key element)).WellFormed inherited
  | ⟨_, _, children⟩, ⟨reversible, below⟩ =>
      ⟨isTag_of_reversible reversible inherited, wellFormed_forestOf _ 0 children below⟩

theorem wellFormed_forestOf (inherited : List Xml.Binding) (key : Nat) :
    ∀ elements : List Element, ForestEverywhere IsReversible elements →
      Xml.ForestWellFormed inherited (forestOf (forestWithKeys key elements))
  | [], _ => trivial
  | element :: rest, ⟨first, others⟩ =>
      ⟨wellFormed_treeOf inherited key element first,
        wellFormed_forestOf inherited (key + 1) rest others⟩
end

mutual
theorem bindings_treeOf (key : Nat) : ∀ element : Element, element.Everywhere IsReversible →
    (treeOf (elementWithKey key element)).bindings = []
  | ⟨tag, properties, children⟩, ⟨reversible, below⟩ => by
      have own := Xml.declaredBy_unqualified
        (Xml.unqualified_readValue (areUnqualified_writtenAttributes reversible))
      rw [elementWithKey, treeOf, Xml.Markup.bindings, own, bindings_forestOf 0 children below,
        List.nil_append]

theorem bindings_forestOf (key : Nat) : ∀ elements : List Element,
    ForestEverywhere IsReversible elements →
      Xml.forestBindings (forestOf (forestWithKeys key elements)) = []
  | [], _ => rfl
  | element :: rest, ⟨first, others⟩ => by
      rw [forestWithKeys, forestOf, Xml.forestBindings, bindings_treeOf key element first,
        bindings_forestOf (key + 1) rest others, List.nil_append]
end

theorem qualifier?_of_isSmallName {text : List Char}
    (small : isSmallName isPropertyChar text = true) : qualifier? text = none := by
  rw [qualifier?, Text.splitFirst_eq_none (colon_not_mem_of_isSmallName small), Option.map_none]

mutual
theorem qualifiersOf_of_reversible (key : Nat) : ∀ element : Element,
    element.Everywhere IsReversible → qualifiersOf (elementWithKey key element) = []
  | ⟨tag, properties, children⟩, ⟨reversible, below⟩ => by
      have tagged := qualifier?_of_isSmallName (isSmallName_of_reversible reversible)
      have named : ∀ name ∈ properties.keys,
          qualifier? (Attribute.markupName name).toList = none := by
        intro name member
        obtain ⟨entry, inside, rfl⟩ := List.mem_map.mp member
        have plain := plainName_of_reversible (reversible.properties entry inside)
        exact qualifier?_of_isSmallName (Attribute.isSmallName_markupName plain)
      have inside := qualifiersIn_of_reversible 0 children below
      simp only [elementWithKey, qualifiersOf, inside, List.append_nil, List.filterMap_cons, tagged]
      simpa [List.filterMap_eq_nil_iff] using named

theorem qualifiersIn_of_reversible (key : Nat) : ∀ elements : List Element,
    ForestEverywhere IsReversible elements → qualifiersIn (forestWithKeys key elements) = []
  | [], _ => rfl
  | element :: rest, ⟨first, others⟩ => by
      rw [forestWithKeys, qualifiersIn, qualifiersOf_of_reversible key element first,
        qualifiersIn_of_reversible (key + 1) rest others, List.nil_append]
end

theorem placeholders_of_reversible (frame : Frame) {elements : List Element}
    (reversible : ForestEverywhere IsReversible elements) :
    (ofElements elements frame).placeholders = [] := by
  have unqualified : qualifiersIn (ofElements elements frame).children = [] :=
    qualifiersIn_of_reversible 0 elements reversible
  rw [placeholders, unqualified]
  rfl

end VectorIcon.Preview
