import VectorIcon.Proofs.Xml.Markup

/-!
Tags without qualifiers. Attributes that have none and declare nothing leave the bindings as they
are, and such a tag is well formed below every set of bindings.
-/

namespace VectorIcon.Xml

def AreUnqualified (attributes : List NamedValue) : Prop :=
  ∀ given ∈ attributes, given.1.qualifier = "" ∧ given.1.localName ≠ "xmlns"

theorem declaredBy_unqualified {attributes : List NamedValue}
    (unqualified : AreUnqualified attributes) : declaredBy attributes = [] := by
  refine List.filterMap_eq_nil_iff.mpr fun given member => ?_
  obtain ⟨qualifier, localName⟩ := unqualified given member
  simp [binding?, qualifier, localName]

theorem undeclaring_unqualified {attributes : List NamedValue}
    (unqualified : AreUnqualified attributes) : undeclaring attributes = attributes := by
  refine List.filter_eq_self.mpr fun given member => ?_
  obtain ⟨qualifier, localName⟩ := unqualified given member
  simp [isDeclaration, qualifier, localName]

theorem resolved_unqualified (bindings : List Binding) {given : NamedValue}
    (unqualified : given.1.qualifier = "") :
    resolved bindings given = ⟨given.1, none, given.2⟩ := by
  simp [resolved, uriOfAttribute, unqualified]

theorem areDistinct_unqualified (bindings : List Binding) {attributes : List NamedValue}
    (unqualified : ∀ given ∈ attributes, given.1.qualifier = "")
    (named : (attributes.map Prod.fst).Nodup) :
    AreDistinct (attributes.map (resolved bindings)) := by
  rw [AreDistinct, List.pairwise_map]
  rw [List.Nodup, List.pairwise_map] at named
  refine named.imp_of_mem fun {earlier later} first second different => ?_
  have front := unqualified earlier first
  have back := unqualified later second
  rw [resolved_unqualified bindings front, resolved_unqualified bindings back]
  refine Bool.eq_false_iff.mpr fun same => different ?_
  simp only [Builder.sameName, Bool.and_eq_true, beq_iff_eq] at same
  obtain ⟨⟨qualifier, localName⟩, _⟩ := earlier
  obtain ⟨⟨otherQualifier, otherName⟩, _⟩ := later
  simp only at front back same
  rw [front, back, same.2]

section

variable (inherited : List Binding) {tag : String} {attributes : List NamedValue}
  (unqualified : AreUnqualified attributes)

include unqualified

theorem unqualified_readValue : AreUnqualified (attributes.map readValue) := by
  intro given member
  obtain ⟨written, inside, rfl⟩ := List.mem_map.mp member
  exact unqualified written inside

theorem tagOf_unqualified :
    tagOf inherited ⟨"", tag⟩ attributes =
      ⟨⟨"", tag⟩, Binding.uriOf? inherited none, inherited,
        (attributes.map readValue).map fun given => ⟨given.1, none, given.2⟩⟩ := by
  have read := unqualified_readValue unqualified
  have named : (attributes.map readValue).map (resolved inherited) =
      (attributes.map readValue).map fun given => ⟨given.1, none, given.2⟩ :=
    List.map_congr_left fun given member => resolved_unqualified inherited (read given member).1
  rw [← named, tagOf]
  simp [declaredBy_unqualified read, undeclaring_unqualified read, Binding.inScope, uriOfElement]

theorem isTag_unqualified (written : QualifiedName.IsWritten ⟨"", tag⟩)
    (names : ∀ given ∈ attributes, given.1.IsWritten)
    (values : ∀ given ∈ attributes, ∀ c ∈ given.2.toList, isXmlChar c = true)
    (named : (attributes.map Prod.fst).Nodup) : IsTag inherited ⟨"", tag⟩ attributes := by
  have read := unqualified_readValue unqualified
  refine ⟨written, by simp, Or.inl rfl, ?_, named, ?_, ?_⟩
  · intro given member
    obtain ⟨qualifier, localName⟩ := unqualified given member
    refine ⟨names given member, values given member, ⟨fun declared => ?_, fun _ declared => ?_⟩⟩
    · exact absurd (qualifier.symm.trans declared) (by simp)
    · exact absurd declared localName
  · intro given member
    rw [undeclaring_unqualified read] at member
    exact Or.inr (Or.inl (read given member).1)
  · rw [tagOf_unqualified inherited unqualified]
    have same : ((attributes.map readValue).map Prod.fst).Nodup := by
      rwa [List.map_map]
    have distinct := areDistinct_unqualified inherited (fun given member => (read given member).1)
      same
    rwa [List.map_congr_left fun given member =>
      resolved_unqualified inherited (read given member).1] at distinct

end

end VectorIcon.Xml
