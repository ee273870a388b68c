import VectorIcon.Proofs.Xml.Markup

/-! Bindings in scope on an element: its own hide what it inherits, and nothing else is lost. -/

namespace VectorIcon.Xml

namespace Binding

@[simp] theorem uriOf?_nil (qualifier : Option String) : uriOf? [] qualifier = none := rfl

theorem uriOf?_cons (binding : Binding) (bindings : List Binding) (qualifier : Option String) :
    uriOf? (binding :: bindings) qualifier =
      if binding.qualifier = qualifier then some binding.uri else uriOf? bindings qualifier := by
  by_cases same : binding.qualifier = qualifier <;> simp [uriOf?, bindsSame, same]

theorem uriOf?_append (first second : List Binding) (qualifier : Option String) :
    uriOf? (first ++ second) qualifier =
      (uriOf? first qualifier).or (uriOf? second qualifier) := by
  rw [uriOf?, List.find?_append, Option.map_or, uriOf?, uriOf?]

theorem uriOf?_isSome_iff (bindings : List Binding) (qualifier : Option String) :
    (uriOf? bindings qualifier).isSome = bindings.any (bindsSame qualifier) := by
  rw [Bool.eq_iff_iff]
  simp [uriOf?, List.find?_isSome]

theorem uriOf?_foldl (known inherited : List Binding) (qualifier : Option String) :
    uriOf? (inherited.foldl (fun known binding =>
        if known.any (bindsSame binding.qualifier) then known else known ++ [binding]) known)
      qualifier = (uriOf? known qualifier).or (uriOf? inherited qualifier) := by
  induction inherited generalizing known with
  | nil => simp [uriOf?]
  | cons binding rest ih =>
      rw [List.foldl_cons, ih, uriOf?_cons]
      by_cases bound : known.any (bindsSame binding.qualifier) = true
      · rw [if_pos bound]
        by_cases same : binding.qualifier = qualifier
        · rw [same, ← uriOf?_isSome_iff] at bound
          obtain ⟨uri, found⟩ := Option.isSome_iff_exists.mp bound
          simp [found]
        · rw [if_neg same]
      · rw [if_neg bound, uriOf?_append, uriOf?_cons, Option.or_assoc]
        by_cases same : binding.qualifier = qualifier <;> simp [same, uriOf?]

theorem uriOf?_inScope (own inherited : List Binding) (qualifier : Option String) :
    uriOf? (inScope own inherited) qualifier =
      (uriOf? own qualifier).or (uriOf? inherited qualifier) := by
  unfold inScope
  split
  · rename_i empty
    rw [List.isEmpty_iff.mp empty]
    simp [uriOf?]
  · exact uriOf?_foldl own inherited qualifier

end Binding

theorem uriOf?_tagOf (inherited : List Binding) (name : QualifiedName)
    (attributes : List NamedValue) (qualifier : Option String) :
    Binding.uriOf? (tagOf inherited name attributes).bindings qualifier =
      (Binding.uriOf? (declaredBy (attributes.map readValue)) qualifier).or
        (Binding.uriOf? inherited qualifier) :=
  Binding.uriOf?_inScope _ inherited qualifier

theorem isSome_uriOf?_tagOf {inherited : List Binding} {qualifier : Option String}
    (bound : (Binding.uriOf? inherited qualifier).isSome = true) (name : QualifiedName)
    (attributes : List NamedValue) :
    (Binding.uriOf? (tagOf inherited name attributes).bindings qualifier).isSome = true := by
  rw [uriOf?_tagOf, Option.isSome_or, bound, Bool.or_true]

end VectorIcon.Xml
