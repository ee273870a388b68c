import VectorIcon.Xml.Entity
import VectorIcon.Xml.Node

/-!
The tree while it is being read: open elements, innermost first, and what the tag at hand has
collected so far. Namespaces are resolved when the tag ends.
-/

namespace VectorIcon.Xml

structure OpenElement where
  tag : Tag
  /-- Finished children, the latest first. -/
  children : List Node

structure StartTag where
  name : QualifiedName
  position : Position

structure WrittenAttribute where
  name : QualifiedName
  value : Cursor
  position : Position

structure PendingAttribute where
  name : QualifiedName
  value : String
  position : Position

structure Builder where
  ancestors : List OpenElement
  /-- Finished nodes outside of every element, the latest first. -/
  nodes : List Node
  /-- The last start tag, unless an entity has begun since. -/
  tag : Option StartTag
  declared : List Binding
  attributes : List PendingAttribute
  references : Nat
  /-- All bindings of the document so far, each of them once. -/
  known : List Binding

def namespaceLimit : Nat :=
  Nat.pow 2 16

namespace Builder

def reserved : Binding :=
  ⟨some "xml", xmlNamespace⟩

def empty : Builder :=
  ⟨[], [], none, [], [], 0, [reserved]⟩

def append (builder : Builder) (node : Node) : Builder :=
  match builder.ancestors with
  | [] => { builder with nodes := node :: builder.nodes }
  | top :: rest =>
      { builder with ancestors := { top with children := node :: top.children } :: rest }

/-- Text that goes on where text has ended makes one node with it. -/
def extendText (content : String) : List Node → List Node
  | .text before :: rest => .text (before ++ content) :: rest
  | nodes => .text content :: nodes

def appendText (builder : Builder) (content : List Char) : Builder :=
  let content := String.ofList content
  match builder.ancestors with
  | [] => { builder with nodes := extendText content builder.nodes }
  | top :: rest =>
      { builder with ancestors := { top with children := extendText content top.children } :: rest }

def inherited (builder : Builder) : List Binding :=
  match builder.ancestors with
  | [] => []
  | top :: _ => top.tag.bindings

def startTag (builder : Builder) (name : QualifiedName) (position : Position) :
    Except Fault Builder :=
  if name.qualifier = "xmlns" then .error ⟨.xmlnsQualifier, position⟩
  else .ok { builder with tag := some ⟨name, position⟩ }

def declare (builder : Builder) (binding : Binding) : Except Fault Builder :=
  let declared := builder.declared ++ [binding]
  if builder.known.contains binding then .ok { builder with declared := declared }
  else if namespaceLimit ≤ builder.known.length then .error (Fault.ofText .namespaceLimit)
  else .ok { builder with declared := declared, known := binding :: builder.known }

/-- Binds a qualifier on the tag at hand. The `xml` qualifier and its namespace belong together,
and that binding is not kept. -/
def declareQualifier (builder : Builder) (qualifier uri : String) (position : Position) :
    Except Fault Builder :=
  if uri = xmlnsNamespace then .error ⟨.xmlnsUri, position⟩
  else if qualifier = "xml" && uri ≠ xmlNamespace then .error ⟨.xmlQualifierUri, position⟩
  else if qualifier ≠ "xml" && uri = xmlNamespace then .error ⟨.xmlUri, position⟩
  else if builder.declared.any (Binding.bindsSame (some qualifier)) then
    .error ⟨.repeatedNamespace qualifier, position⟩
  else if uri = xmlNamespace then .ok builder
  else builder.declare ⟨some qualifier, uri⟩

def declareDefault (builder : Builder) (uri : String) (position : Position) :
    Except Fault Builder :=
  if uri = xmlNamespace then .error ⟨.xmlUri, position⟩
  else if uri = xmlnsNamespace then .error ⟨.xmlnsUri, position⟩
  else builder.declare ⟨none, uri⟩

def addAttribute (builder : Builder) (entities : Entities) (room : Nat)
    (written : WrittenAttribute) : Except Fault Builder := do
  let (value, references) ← valueText entities room builder.references written.value
  let value := String.ofList value
  let builder := { builder with references := countBehind room references }
  if written.name.qualifier = "xmlns" then
    builder.declareQualifier written.name.localName value written.position
  else if written.name.localName = "xmlns" then
    builder.declareDefault value written.position
  else
    return { builder with
      attributes := builder.attributes ++ [⟨written.name, value, written.position⟩] }

def resolveName (bindings : List Binding) (unqualified : Option String) (name : QualifiedName)
    (position : Position) : Except Fault (Option String) :=
  if name.qualifier = "" then .ok unqualified
  else match Binding.uriOf? bindings (some name.qualifier) with
    | some uri => .ok (some uri)
    | none => .error ⟨.unknownQualifier name.qualifier, position⟩

def resolveAttribute (bindings : List Binding) (pending : PendingAttribute) :
    Except Fault Attribute := do
  let uri ←
    if pending.name.qualifier = "xml" then pure (some xmlNamespace)
    else resolveName bindings none pending.name pending.position
  return ⟨pending.name, uri, pending.value⟩

def sameName (left right : Attribute) : Bool :=
  left.uri == right.uri && left.name.localName == right.name.localName

def resolveAttributes (bindings : List Binding) (resolved : List Attribute) :
    List PendingAttribute → Except Fault (List Attribute)
  | [] => .ok resolved
  | pending :: rest => do
      let found ← resolveAttribute bindings pending
      if resolved.any (sameName found) then
        throw ⟨.repeatedAttribute pending.name.localName, pending.position⟩
      resolveAttributes bindings (resolved ++ [found]) rest

/-- The attributes of the tag at hand and the bindings in scope on it; both are handed over. -/
def resolve (builder : Builder) : Except Fault (List Binding × List Attribute × Builder) := do
  let bindings := Binding.inScope builder.declared builder.inherited
  let attributes ← resolveAttributes bindings [] builder.attributes
  return (bindings, attributes, { builder with declared := [], attributes := [] })

def resolveTag (builder : Builder) (start : StartTag) : Except Fault (Tag × Builder) := do
  let (bindings, attributes, builder) ← builder.resolve
  let uri ← resolveName bindings (Binding.uriOf? bindings none) start.name start.position
  return (⟨start.name, uri, bindings, attributes⟩, builder)

def finishTag (builder : Builder) (closed : Bool) (position : Position) :
    Except Fault Builder :=
  match builder.tag with
  | none => .error ⟨.closeWithoutOpen, position⟩
  | some start => do
      let (tag, builder) ← builder.resolveTag start
      if closed then return builder.append (.element tag [])
      else return { builder with ancestors := ⟨tag, []⟩ :: builder.ancestors }

def closeTag (builder : Builder) (name : QualifiedName) (position : Position) :
    Except Fault Builder :=
  if builder.tag.isNone then .error ⟨.closeWithoutOpen, position⟩
  else do
    let (_, _, builder) ← builder.resolve
    match builder.ancestors with
    | [] => throw ⟨.closeWithoutOpen, position⟩
    | top :: rest =>
        if top.tag.name ≠ name then
          throw ⟨.closingTag top.tag.name.text name.text, position⟩
        else
          return { builder with ancestors := rest }.append
            (.element top.tag top.children.reverse)

def isElement : Node → Bool
  | .element _ _ => true
  | _ => false

def finish (builder : Builder) : Except Fault (List Node) :=
  match builder.ancestors with
  | _ :: _ => .error (Fault.ofText .unclosedRoot)
  | [] =>
      if builder.nodes.any isElement then .ok builder.nodes.reverse
      else .error (Fault.ofText .noRoot)

end Builder

end VectorIcon.Xml
