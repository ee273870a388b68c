import VectorIcon.Document
import VectorIcon.Proofs.Xml.ResolvedDocument

/-!
The qualifier that a name has in a document. It is that of the first binding to the namespace of the
name, whatever the name is written with.
-/

namespace VectorIcon

namespace Xml

/-- The first binding to the namespace of a name has the qualifier of the name. -/
def KeepsQualifier (bindings : List Binding) (uri : Option String) (name : QualifiedName) : Prop :=
  ∀ binding, bindings.find? (some ·.uri == uri) = some binding →
    binding.qualifier = name.qualifier?

theorem keepsQualifier_none (bindings : List Binding) (name : QualifiedName) :
    KeepsQualifier bindings none name := by
  intro binding first
  cases List.find?_some first

theorem keepsQualifier_reserved {bindings : List Binding} (scope : IsScope bindings)
    (name : QualifiedName) : KeepsQualifier bindings (some xmlNamespace) name := by
  intro binding first
  have same : binding.uri = xmlNamespace := by simpa using List.find?_some first
  exact absurd same (scope binding (List.mem_of_find?_eq_some first))

theorem Attribute.IsResolved.keepsQualifier {bindings : List Binding} {written : Attribute}
    (resolved : written.IsResolved bindings) (scope : IsScope bindings)
    (plain : written.name.qualifier = "" ∨ written.name.qualifier = "xml") :
    KeepsQualifier bindings written.uri written.name := by
  rcases plain with unqualified | reserved
  · rw [resolved.unqualified unqualified]
    exact keepsQualifier_none bindings written.name
  · rw [resolved.reserved reserved]
    exact keepsQualifier_reserved scope written.name

theorem Binding.exists_mem_of_uriOf? {bindings : List Binding} {qualifier : Option String}
    {uri : String} (found : uriOf? bindings qualifier = some uri) :
    ∃ binding ∈ bindings, binding.uri = uri := by
  obtain ⟨binding, first, rfl⟩ := Option.map_eq_some_iff.mp found
  exact ⟨binding, List.mem_of_find?_eq_some first, rfl⟩

end Xml

theorem qualified_ne (qualifier localName : String) : qualifier ++ ":" ++ localName ≠ localName := by
  intro same
  have length := congrArg String.length same
  simp only [String.length_append] at length
  have colon : ":".length = 1 := rfl
  omega

namespace Document

open Xml (KeepsQualifier)

variable {bindings : List Xml.Binding} {uri : Option String} {name : Xml.QualifiedName}

theorem qualifiedName_eq_text_iff_qualifier :
    qualifiedName bindings uri name.localName = name.text ↔
      uri.bind (Xml.Binding.qualifierOf? bindings) = name.qualifier? := by
  unfold qualifiedName Xml.QualifiedName.text Xml.QualifiedName.qualifier?
  by_cases plain : name.qualifier = ""
  · rw [if_pos plain, if_pos plain]
    cases uri.bind (Xml.Binding.qualifierOf? bindings) with
    | none => exact iff_of_true rfl rfl
    | some qualifier =>
        exact iff_of_false (qualified_ne qualifier name.localName) (Option.some_ne_none qualifier)
  · rw [if_neg plain, if_neg plain]
    cases uri.bind (Xml.Binding.qualifierOf? bindings) with
    | none =>
        exact iff_of_false (qualified_ne name.qualifier name.localName).symm
          (Option.some_ne_none name.qualifier).symm
    | some qualifier => simp [← String.toList_inj]

theorem qualifiedName_eq_text_iff (scope : Xml.IsScope bindings)
    (denotes : Xml.Denotes bindings name uri) :
    qualifiedName bindings uri name.localName = name.text ↔ KeepsQualifier bindings uri name := by
  rw [qualifiedName_eq_text_iff_qualifier]
  cases denotes with
  | nothing unqualified =>
      refine iff_of_true ?_ (Xml.keepsQualifier_none bindings name)
      simp [Xml.QualifiedName.qualifier?, unqualified]
  | reserved qualified =>
      refine iff_of_true ?_ (Xml.keepsQualifier_reserved scope name)
      simp [Xml.QualifiedName.qualifier?, Xml.Binding.qualifierOf?, qualified]
  | @bound uri found =>
      obtain ⟨bound, member, same⟩ := Xml.Binding.exists_mem_of_uriOf? found
      have ordinary : uri ≠ Xml.xmlNamespace := same ▸ scope bound member
      have known : (bindings.find? fun binding => binding.uri == uri).isSome = true :=
        List.find?_isSome.mpr ⟨bound, member, beq_iff_eq.mpr same⟩
      obtain ⟨first, given⟩ := Option.isSome_iff_exists.mp known
      simp [KeepsQualifier, Xml.Binding.qualifierOf?, ordinary, given]

def behindQualifier (qualifier : Option String) (localName : String) : String :=
  match qualifier with
  | some qualifier => qualifier ++ ":" ++ localName
  | none => localName

/-- The lower-case name of a tag: as it is written if it keeps its qualifier, else with that of the
first binding to its namespace. -/
inductive IsTagName (tag : Xml.Tag) : String → Prop
  | asWritten (kept : KeepsQualifier tag.bindings tag.uri tag.name) :
      IsTagName tag (String.ofList (Text.lowercase tag.name.text.toList))
  | byFirst {binding : Xml.Binding}
      (first : tag.bindings.find? (some ·.uri == tag.uri) = some binding)
      (other : binding.qualifier ≠ tag.name.qualifier?) :
      IsTagName tag (String.ofList
        (Text.lowercase (behindQualifier binding.qualifier tag.name.localName).toList))

theorem qualifiedName_of_first {binding : Xml.Binding} (scope : Xml.IsScope bindings)
    (first : bindings.find? (some ·.uri == uri) = some binding) (localName : String) :
    qualifiedName bindings uri localName = behindQualifier binding.qualifier localName := by
  have same : some binding.uri = uri := by simpa using List.find?_some first
  subst uri
  have ordinary : binding.uri ≠ Xml.xmlNamespace := scope binding (List.mem_of_find?_eq_some first)
  have found : bindings.find? (fun other => other.uri == binding.uri) = some binding := by
    simpa using first
  simp only [qualifiedName, Option.bind_some, Xml.Binding.qualifierOf?, if_neg ordinary, found]
  rfl

theorem isTagName_tagName {tag : Xml.Tag} (resolved : tag.IsResolved) :
    IsTagName tag (tagName tag) := by
  by_cases kept : KeepsQualifier tag.bindings tag.uri tag.name
  · rw [tagName, (qualifiedName_eq_text_iff resolved.scope resolved.name).mpr kept]
    exact .asWritten kept
  · obtain ⟨binding, lost⟩ := Classical.not_forall.mp kept
    obtain ⟨first, other⟩ := Classical.not_imp.mp lost
    rw [tagName, qualifiedName_of_first resolved.scope first]
    exact .byFirst first other

end Document

end VectorIcon
