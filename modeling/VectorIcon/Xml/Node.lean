import VectorIcon.Xml.Name

/-!
The tree of an XML document. Names are kept as they are written, beside the namespace they stand
in, and each element has the bindings in scope on it: its own in order, then those it inherits.
-/

namespace VectorIcon.Xml

/-- A qualifier bound to a namespace; without a qualifier it is the default namespace. -/
structure Binding where
  qualifier : Option String
  uri : String
  deriving DecidableEq

structure Attribute where
  name : QualifiedName
  uri : Option String
  value : String
  deriving DecidableEq

structure Tag where
  name : QualifiedName
  uri : Option String
  bindings : List Binding
  attributes : List Attribute
  deriving DecidableEq

inductive Node where
  | element (tag : Tag) (children : List Node)
  | text (content : String)
  | comment (content : String)
  | instruction (target content : String)

def xmlNamespace : String :=
  "http://www.w3.org/XML/1998/namespace"

def xmlnsNamespace : String :=
  "http://www.w3.org/2000/xmlns/"

namespace Binding

def bindsSame (qualifier : Option String) (binding : Binding) : Bool :=
  binding.qualifier == qualifier

/-- Own bindings, then the inherited ones whose qualifiers are not bound before. -/
def inScope (own inherited : List Binding) : List Binding :=
  if own.isEmpty then inherited
  else inherited.foldl
    (fun known binding =>
      if known.any (bindsSame binding.qualifier) then known else known ++ [binding])
    own

def uriOf? (bindings : List Binding) (qualifier : Option String) : Option String :=
  (bindings.find? (bindsSame qualifier)).map Binding.uri

/-- The qualifier of the first binding to a namespace; the `xml` namespace has its own. -/
def qualifierOf? (bindings : List Binding) (uri : String) : Option String :=
  if uri = xmlNamespace then some "xml"
  else (bindings.find? fun binding => binding.uri == uri).bind Binding.qualifier

end Binding

namespace Tag

def attribute? (tag : Tag) (name : String) : Option String :=
  (tag.attributes.find? fun candidate =>
    candidate.uri == none && candidate.name.localName == name).map Attribute.value

end Tag

end VectorIcon.Xml
