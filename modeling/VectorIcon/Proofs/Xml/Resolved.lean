import VectorIcon.Proofs.Xml.Scope

/-!
What every tag of an XML tree has in common: its name and the names of its attributes stand in the
namespaces that the bindings in scope give to their qualifiers. The reader resolves names when a tag
ends, and nothing that it does later changes a tag.
-/

namespace VectorIcon.Xml

def QualifiedName.qualifier? (name : QualifiedName) : Option String :=
  if name.qualifier = "" then none else some name.qualifier

/-- The namespaces that a name may stand in. -/
inductive Denotes (bindings : List Binding) (name : QualifiedName) : Option String → Prop
  | nothing (unqualified : name.qualifier = "") : Denotes bindings name none
  | reserved (qualified : name.qualifier = "xml") : Denotes bindings name (some xmlNamespace)
  | bound {uri : String} (found : Binding.uriOf? bindings name.qualifier? = some uri) :
      Denotes bindings name (some uri)

structure Attribute.IsResolved (bindings : List Binding) (written : Attribute) : Prop where
  denotes : Denotes bindings written.name written.uri
  unqualified : written.name.qualifier = "" → written.uri = none
  reserved : written.name.qualifier = "xml" → written.uri = some xmlNamespace

/-- The reserved namespace has no binding; its one qualifier is always known. -/
def IsScope (bindings : List Binding) : Prop :=
  ∀ binding ∈ bindings, binding.uri ≠ xmlNamespace

structure Tag.IsResolved (tag : Tag) : Prop where
  scope : IsScope tag.bindings
  name : Denotes tag.bindings tag.name tag.uri
  attributes : ∀ written ∈ tag.attributes, written.IsResolved tag.bindings

mutual
def Node.IsResolved : Node → Prop
  | .element tag children => tag.IsResolved ∧ AreResolved children
  | _ => True

def AreResolved : List Node → Prop
  | [] => True
  | node :: rest => node.IsResolved ∧ AreResolved rest
end

theorem areResolved_iff {nodes : List Node} :
    AreResolved nodes ↔ ∀ node ∈ nodes, node.IsResolved := by
  induction nodes with
  | nil => simp [AreResolved]
  | cons node rest ih => simp [AreResolved, ih]

theorem AreResolved.reverse {nodes : List Node} (resolved : AreResolved nodes) :
    AreResolved nodes.reverse := by
  rw [areResolved_iff] at resolved ⊢
  intro node member
  exact resolved node (List.mem_reverse.mp member)

def Yields {α : Type} (holds : α → Prop) (result : Except Fault α) : Prop :=
  ∀ value, result = .ok value → holds value

namespace Yields

variable {α β : Type} {known : α → Prop} {holds : β → Prop}

theorem ok {value : β} (held : holds value) : Yields holds (.ok value) := by
  rintro _ ⟨⟩
  exact held

theorem error {fault : Fault} : Yields holds (.error fault) := by
  rintro _ ⟨⟩

theorem anything (result : Except Fault β) : Yields (fun _ => True) result :=
  fun _ _ => trivial

theorem bind {first : Except Fault α} {next : α → Except Fault β} (given : Yields known first)
    (later : ∀ value, known value → Yields holds (next value)) :
    Yields holds (first >>= next) := by
  cases first with
  | error fault => exact error
  | ok value => exact later value (given value rfl)

theorem skip {first : Except Fault α} {next : α → Except Fault β}
    (later : ∀ value, Yields holds (next value)) : Yields holds (first >>= next) :=
  bind (anything first) fun value _ => later value

end Yields

theorem Binding.mem_of_mem_foldl {known inherited : List Binding} {binding : Binding}
    (member : binding ∈ inherited.foldl (fun known binding =>
      if known.any (bindsSame binding.qualifier) then known else known ++ [binding]) known) :
    binding ∈ known ∨ binding ∈ inherited := by
  induction inherited generalizing known with
  | nil => exact Or.inl member
  | cons first rest ih =>
      rw [List.foldl_cons] at member
      rcases ih member with before | later
      · split at before
        · exact Or.inl before
        · rcases List.mem_append.mp before with old | new
          · exact Or.inl old
          · exact Or.inr (List.mem_cons.mpr (Or.inl (List.mem_singleton.mp new)))
      · exact Or.inr (List.mem_cons_of_mem _ later)

theorem Binding.mem_inScope {own inherited : List Binding} {binding : Binding}
    (member : binding ∈ inScope own inherited) : binding ∈ own ∨ binding ∈ inherited := by
  unfold inScope at member
  split at member
  · exact Or.inr member
  · exact mem_of_mem_foldl member

namespace Builder

structure IsResolved (builder : Builder) : Prop where
  declared : IsScope builder.declared
  ancestors : ∀ element ∈ builder.ancestors,
    element.tag.IsResolved ∧ AreResolved element.children
  nodes : AreResolved builder.nodes

theorem empty_isResolved : empty.IsResolved :=
  ⟨by simp [IsScope, empty], by simp [empty], trivial⟩

variable {builder : Builder}

theorem isScope_inherited (resolved : builder.IsResolved) : IsScope builder.inherited := by
  unfold inherited
  split
  · simp [IsScope]
  · rename_i top rest found
    exact (resolved.ancestors top (by simp [found])).1.scope

namespace IsResolved

theorem append (resolved : builder.IsResolved) {node : Node} (added : node.IsResolved) :
    (builder.append node).IsResolved := by
  unfold Builder.append
  split
  · exact ⟨resolved.declared, resolved.ancestors, added, resolved.nodes⟩
  · rename_i top rest found
    obtain ⟨first, others⟩ := List.forall_mem_cons.mp (found ▸ resolved.ancestors)
    exact ⟨resolved.declared, List.forall_mem_cons.mpr ⟨⟨first.1, added, first.2⟩, others⟩,
      resolved.nodes⟩

theorem extendText {nodes : List Node} (resolved : AreResolved nodes) (content : String) :
    AreResolved (Builder.extendText content nodes) := by
  unfold Builder.extendText
  split
  · exact ⟨trivial, resolved.2⟩
  · exact ⟨trivial, resolved⟩

theorem appendText (resolved : builder.IsResolved) (content : List Char) :
    (builder.appendText content).IsResolved := by
  unfold Builder.appendText
  dsimp only
  split
  · exact ⟨resolved.declared, resolved.ancestors, extendText resolved.nodes _⟩
  · rename_i top rest found
    obtain ⟨first, others⟩ := List.forall_mem_cons.mp (found ▸ resolved.ancestors)
    exact ⟨resolved.declared,
      List.forall_mem_cons.mpr ⟨⟨first.1, extendText first.2 _⟩, others⟩, resolved.nodes⟩

theorem startTag (resolved : builder.IsResolved) (name : QualifiedName) (position : Position) :
    Yields IsResolved (builder.startTag name position) := by
  unfold Builder.startTag
  split
  · exact .error
  · exact .ok ⟨resolved.declared, resolved.ancestors, resolved.nodes⟩

theorem declare (resolved : builder.IsResolved) {binding : Binding}
    (free : binding.uri ≠ xmlNamespace) : Yields IsResolved (builder.declare binding) := by
  have scope : IsScope (builder.declared ++ [binding]) := by
    intro other member
    rcases List.mem_append.mp member with old | new
    · exact resolved.declared other old
    · exact List.mem_singleton.mp new ▸ free
  unfold Builder.declare
  dsimp only
  split
  · exact .ok ⟨scope, resolved.ancestors, resolved.nodes⟩
  · split
    · exact .error
    · exact .ok ⟨scope, resolved.ancestors, resolved.nodes⟩

theorem declareQualifier (resolved : builder.IsResolved) (qualifier uri : String)
    (position : Position) : Yields IsResolved (builder.declareQualifier qualifier uri position) := by
  unfold Builder.declareQualifier
  split
  · exact .error
  · split
    · exact .error
    · split
      · exact .error
      · split
        · exact .error
        · split
          · exact .ok resolved
          · rename_i free
            exact resolved.declare free

theorem declareDefault (resolved : builder.IsResolved) (uri : String) (position : Position) :
    Yields IsResolved (builder.declareDefault uri position) := by
  unfold Builder.declareDefault
  split
  · exact .error
  · rename_i free
    split
    · exact .error
    · exact resolved.declare free

theorem addAttribute (resolved : builder.IsResolved) (entities : Entities) (room : Nat)
    (written : WrittenAttribute) :
    Yields IsResolved (builder.addAttribute entities room written) := by
  unfold Builder.addAttribute
  refine .skip ?_
  rintro ⟨value, references⟩
  dsimp only
  have counted : IsResolved { builder with references := countBehind room references } :=
    ⟨resolved.declared, resolved.ancestors, resolved.nodes⟩
  split
  · exact counted.declareQualifier _ _ _
  · split
    · exact counted.declareDefault _ _
    · exact .ok ⟨resolved.declared, resolved.ancestors, resolved.nodes⟩

end IsResolved

section

variable {bindings : List Binding} {name : QualifiedName} {position : Position}

theorem resolveName_denotes (unqualified : Option String) :
    Yields (fun uri => uri = unqualified ∧ name.qualifier = "" ∨
        name.qualifier ≠ "" ∧ Denotes bindings name uri)
      (resolveName bindings unqualified name position) := by
  unfold resolveName
  split
  · rename_i plain
    exact .ok (Or.inl ⟨rfl, plain⟩)
  · rename_i qualified
    split
    · rename_i uri found
      refine .ok (Or.inr ⟨qualified, .bound ?_⟩)
      rw [QualifiedName.qualifier?, if_neg qualified, found]
    · exact .error

theorem resolveAttribute_isResolved (pending : PendingAttribute) :
    Yields (Attribute.IsResolved bindings) (resolveAttribute bindings pending) := by
  unfold resolveAttribute
  split
  · rename_i reserved
    exact .ok ⟨.reserved reserved, fun plain => absurd (plain.symm.trans reserved) (by decide),
      fun _ => rfl⟩
  · rename_i other
    refine .bind (resolveName_denotes none) ?_
    rintro uri (⟨rfl, plain⟩ | ⟨qualified, denotes⟩)
    · exact .ok ⟨.nothing plain, fun _ => rfl, fun reserved => absurd reserved other⟩
    · exact .ok ⟨denotes, fun plain => absurd plain qualified, fun reserved => absurd reserved other⟩

theorem resolveAttributes_areResolved (pendings : List PendingAttribute) :
    ∀ {resolved : List Attribute}, (∀ written ∈ resolved, written.IsResolved bindings) →
      Yields (fun attributes => ∀ written ∈ attributes, written.IsResolved bindings)
        (resolveAttributes bindings resolved pendings) := by
  induction pendings with
  | nil => exact fun every => .ok every
  | cons pending rest ih =>
      intro resolved every
      rw [resolveAttributes]
      refine .bind (resolveAttribute_isResolved pending) ?_
      intro found foundResolved
      dsimp only
      split
      · exact .error
      · refine ih fun written member => ?_
        rcases List.mem_append.mp member with old | new
        · exact every written old
        · exact List.mem_singleton.mp new ▸ foundResolved

end

namespace IsResolved

theorem resolve (resolved : builder.IsResolved) :
    Yields (fun (bindings, attributes, left) => IsScope bindings ∧
        (∀ written ∈ attributes, written.IsResolved bindings) ∧ left.IsResolved)
      builder.resolve := by
  unfold Builder.resolve
  refine .bind (resolveAttributes_areResolved _ (by simp)) ?_
  intro attributes every
  refine .ok ⟨?_, every, ⟨by simp [IsScope], resolved.ancestors, resolved.nodes⟩⟩
  intro binding member
  rcases Binding.mem_inScope member with own | outer
  · exact resolved.declared binding own
  · exact isScope_inherited resolved binding outer

theorem resolveTag (resolved : builder.IsResolved) (start : StartTag) :
    Yields (fun (tag, left) => tag.IsResolved ∧ left.IsResolved) (builder.resolveTag start) := by
  unfold Builder.resolveTag
  refine .bind resolved.resolve ?_
  rintro ⟨bindings, attributes, left⟩ ⟨scope, every, kept⟩
  refine .bind (resolveName_denotes (Binding.uriOf? bindings none)) ?_
  rintro uri (⟨rfl, plain⟩ | ⟨_, denotes⟩)
  · refine .ok ⟨⟨scope, ?_, every⟩, kept⟩
    dsimp only
    cases found : Binding.uriOf? bindings none with
    | none => exact .nothing plain
    | some uri =>
        apply Denotes.bound
        rw [QualifiedName.qualifier?, if_pos plain, found]
  · exact .ok ⟨⟨scope, denotes, every⟩, kept⟩

theorem finishTag (resolved : builder.IsResolved) (closed : Bool) (position : Position) :
    Yields IsResolved (builder.finishTag closed position) := by
  unfold Builder.finishTag
  split
  · exact .error
  · rename_i start _
    refine .bind (resolved.resolveTag start) ?_
    rintro ⟨tag, left⟩ ⟨tagResolved, kept⟩
    dsimp only
    split
    · exact .ok (kept.append ⟨tagResolved, trivial⟩)
    · exact .ok ⟨kept.declared,
        List.forall_mem_cons.mpr ⟨⟨tagResolved, trivial⟩, kept.ancestors⟩, kept.nodes⟩

theorem closeTag (resolved : builder.IsResolved) (name : QualifiedName) (position : Position) :
    Yields IsResolved (builder.closeTag name position) := by
  unfold Builder.closeTag
  split
  · exact .error
  · refine .bind resolved.resolve ?_
    rintro ⟨_, _, left⟩ ⟨_, _, kept⟩
    dsimp only
    split
    · exact .error
    · rename_i top rest found
      obtain ⟨innermost, outer⟩ := List.forall_mem_cons.mp (found ▸ kept.ancestors)
      split
      · exact .error
      · have closed : IsResolved { left with ancestors := rest } :=
          ⟨kept.declared, outer, kept.nodes⟩
        exact .ok (closed.append ⟨innermost.1, innermost.2.reverse⟩)

theorem finish (resolved : builder.IsResolved) : Yields AreResolved builder.finish := by
  unfold Builder.finish
  split
  · exact .error
  · split
    · exact .ok resolved.nodes.reverse
    · exact .error

end IsResolved

end Builder

end VectorIcon.Xml
