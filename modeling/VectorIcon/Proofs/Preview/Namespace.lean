import VectorIcon.Proofs.Document.Drawable
import VectorIcon.Proofs.Document.Equality
import VectorIcon.Proofs.Document.Normal
import VectorIcon.Proofs.Preview.Parsed
import VectorIcon.Proofs.Preview.Writable

/-!
Namespaces in the markup. A declaration that the root has is left out wherever it stands, so what is
bound at a node is the last of the other declarations on the way to it. That is what the tree says
unless the tree goes back to a binding of the root below another one.
-/

namespace VectorIcon

def Xml.scopeAt (outer : List Xml.Binding) (nodes : List Xml.Node) :
    List Nat → Option (List Xml.Binding)
  | [] => some outer
  | index :: path =>
      match nodes[index]? with
      | some (.element tag children) => scopeAt tag.bindings children path
      | _ => none

namespace Preview

def branchAt (elements : List Element) : List Nat → Option (List Properties)
  | [] => some []
  | index :: path => do
      let element ← elements[index]?
      let below ← branchAt element.children path
      return element.properties :: below

/-- A binding of the root that a tree may change: the default namespace, and that of links. -/
inductive Standard where
  | default
  | link

namespace Standard

def qualifier : Standard → Option String
  | default => none
  | link => some "xlink"

def uri : Standard → String
  | default => svgNamespace
  | link => xlinkNamespace

def declaring : Standard → Xml.QualifiedName
  | default => ⟨"", "xmlns"⟩
  | link => ⟨"xmlns", "xlink"⟩

def names : Standard → List String
  | default => ["xmlns"]
  | link => ["xmlns:xlink", "xmlnsXlink"]

def uri? (standard : Standard) : String × PropertyValue → Option String
  | (name, .text uri) => if name ∈ standard.names then some uri else none
  | (_, .style _) => none

def declaredOn (standard : Standard) (properties : Properties) : List String :=
  properties.entries.filterMap standard.uri?

def declared (standard : Standard) (branch : List Properties) : List String :=
  branch.flatMap standard.declaredOn

def boundBy (standard : Standard) (branch : List Properties) : String :=
  (standard.declared branch).getLast?.getD standard.uri

def kept (standard : Standard) (branch : List Properties) : List String :=
  (standard.declared branch).filter (· ≠ standard.uri)

end Standard

def readUri (uri : String) : String :=
  String.ofList (Xml.normalizeRun uri.toList)

theorem readUri_standard (standard : Standard) : readUri standard.uri = standard.uri := by
  cases standard <;> decide +kernel

theorem eq_of_readUri {standard : Standard} {uri : String} (same : readUri uri = standard.uri) :
    uri = standard.uri := by
  have spelled : Xml.normalizeRun uri.toList = standard.uri.toList := by
    rw [← same, readUri, String.toList_ofList]
  have solid : ' ' ∉ standard.uri.toList := by
    cases standard <;> decide +kernel
  rw [← spelled] at solid
  rw [← same, readUri, Xml.normalizeRun_of_not_mem_space solid, String.ofList_toList]

theorem kept_eq_nil_iff {standard : Standard} {branch : List Properties} :
    standard.kept branch = [] ↔ ∀ uri ∈ standard.declared branch, uri = standard.uri := by
  simp [Standard.kept, List.filter_eq_nil_iff]

/-- Going by the written declarations alone gives what the tree binds, unless the tree binds what
the root does below something else. -/
theorem last_kept_iff (standard : Standard) (branch : List Properties) :
    ((standard.kept branch).getLast?.map readUri).getD standard.uri =
        readUri (standard.boundBy branch) ↔
      (standard.boundBy branch = standard.uri →
        ∀ uri ∈ standard.declared branch, uri = standard.uri) := by
  by_cases back : standard.boundBy branch = standard.uri
  · rw [back, readUri_standard, ← kept_eq_nil_iff]
    constructor
    · intro same _
      cases last : (standard.kept branch).getLast? with
      | none => exact List.getLast?_eq_none_iff.mp last
      | some uri =>
          have other := (List.mem_filter.mp (List.mem_of_getLast? last)).2
          rw [last] at same
          simp [eq_of_readUri (show readUri uri = standard.uri from same)] at other
    · intro all
      rw [all rfl]
      rfl
  · constructor
    · intro _ same
      exact absurd same back
    · intro _
      -- The last declaration is none of the root's, so it is written.
      cases last : (standard.declared branch).getLast? with
      | none => simp [Standard.boundBy, last] at back
      | some uri =>
          have bound : standard.boundBy branch = uri := by rw [Standard.boundBy, last]; rfl
          obtain ⟨front, split⟩ := List.getLast?_eq_some_iff.mp last
          rw [bound] at back ⊢
          simp [Standard.kept, split, back]

/-- A qualified name with the local part `xmlns` is read as a declaration of the default
namespace. -/
def DeclaresPlainly (_ : String) (properties : Properties) : Prop :=
  ∀ given ∈ writtenAttributes properties,
    given.1.localName = "xmlns" → given.1.qualifier = "" ∨ given.1.qualifier = "xmlns"

instance (tag : String) (properties : Properties) : Decidable (DeclaresPlainly tag properties) :=
  inferInstanceAs (Decidable (∀ given ∈ writtenAttributes properties,
    given.1.localName = "xmlns" → given.1.qualifier = "" ∨ given.1.qualifier = "xmlns"))

theorem mem_names_of_uri? {standard : Standard} {entry : String × PropertyValue} {uri : String}
    (declares : standard.uri? entry = some uri) :
    entry.1 ∈ standard.names ∧ entry.2 = .text uri := by
  obtain ⟨name, text | style⟩ := entry
  · simpa [Standard.uri?] using declares
  · simp [Standard.uri?] at declares

theorem declaredOnRoot_iff {standard : Standard} {entry : String × PropertyValue} {uri : String}
    (declares : standard.uri? entry = some uri) :
    declaredOnRoot entry = true ↔ uri = standard.uri := by
  obtain ⟨name, value⟩ := entry
  obtain ⟨known, rfl⟩ := mem_names_of_uri? declares
  cases standard with
  | default =>
      obtain rfl : name = "xmlns" := by simpa [Standard.names] using known
      simp [declaredOnRoot, Standard.uri]
  | link =>
      obtain rfl | rfl : name = "xmlns:xlink" ∨ name = "xmlnsXlink" := by
        simpa [Standard.names] using known
      · simp [declaredOnRoot, Standard.uri]
      · simp [declaredOnRoot, Standard.uri]

theorem nameOf_eq_declaring_iff {standard : Standard} {text : List Char} :
    nameOf text = standard.declaring ↔ text = standard.declaring.text.toList := by
  constructor
  · intro same
    rw [← same, nameOf_text]
  · rintro rfl
    cases standard <;> decide +kernel

theorem name_eq_declaring_iff {standard : Standard} {entry : String × PropertyValue} :
    (namedValue entry).1 = standard.declaring ↔ entry.1 ∈ standard.names := by
  rw [namedValue, nameOf_eq_declaring_iff, String.toList_inj]
  cases standard with
  | default =>
      have spelled : Standard.default.declaring.text = "xmlns" := by decide +kernel
      rw [spelled, Attribute.markupName_eq_xmlns_iff]
      simp [Standard.names]
  | link =>
      have spelled : Standard.link.declaring.text = "xmlns:xlink" := by decide +kernel
      rw [spelled, Attribute.markupName_eq_xlink_iff]
      simp [Standard.names]

theorem uriOf?_binding (standard : Standard) {given : Xml.NamedValue}
    (declarable : Xml.IsDeclarable given)
    (plain : given.1.localName = "xmlns" → given.1.qualifier = "" ∨ given.1.qualifier = "xmlns") :
    Xml.Binding.uriOf? (Xml.binding? given).toList standard.qualifier =
      if given.1 = standard.declaring then some given.2 else none := by
  obtain ⟨⟨qualifier, localName⟩, value⟩ := given
  by_cases qualified : qualifier = "xmlns"
  · subst qualifier
    -- The reserved namespace binds nothing, and no name but `xml` may have it.
    by_cases reserved : value = Xml.xmlNamespace
    · have named : localName = "xml" := (declarable.qualified rfl).2.mpr reserved
      cases standard <;> simp [Xml.binding?, reserved, named, Standard.declaring]
    · cases standard <;>
        simp [Xml.binding?, reserved, Standard.declaring, Standard.qualifier,
          Xml.Binding.uriOf?_cons]
  · by_cases default : localName = "xmlns"
    · have unqualified : qualifier = "" := (plain default).resolve_right qualified
      cases standard <;>
        simp [Xml.binding?, default, unqualified, Standard.declaring, Standard.qualifier,
          Xml.Binding.uriOf?_cons]
    · cases standard <;> simp [Xml.binding?, qualified, default, Standard.declaring]

theorem uriOf?_namedValue (standard : Standard) {entry : String × PropertyValue}
    (normal : Attribute.IsNormal entry) (legal : Xml.IsAttribute (namedValue entry))
    (plain : (namedValue entry).1.localName = "xmlns" →
      (namedValue entry).1.qualifier = "" ∨ (namedValue entry).1.qualifier = "xmlns") :
    Xml.Binding.uriOf? (Xml.binding? (Xml.readValue (namedValue entry))).toList
        standard.qualifier = (standard.uri? entry).map readUri := by
  rw [uriOf?_binding standard legal.declarable plain]
  have known : (Xml.readValue (namedValue entry)).1 = standard.declaring ↔
      entry.1 ∈ standard.names := name_eq_declaring_iff
  cases normal with
  | text name uri =>
      by_cases declares : name ∈ standard.names
      · rw [if_pos (known.mpr declares)]
        simp [Standard.uri?, declares, Xml.readValue, namedValue, valueText, readUri]
      · rw [if_neg (mt known.mp declares)]
        simp [Standard.uri?, declares]
  | style _ =>
      have other : "style" ∉ standard.names := by cases standard <;> decide
      rw [if_neg (mt known.mp other)]
      rfl

theorem filterMap_written (standard : Standard) (properties : Properties) :
    (properties.entries.filter fun entry => !declaredOnRoot entry).filterMap standard.uri? =
      (standard.declaredOn properties).filter (· ≠ standard.uri) := by
  rw [List.filterMap_filter, Standard.declaredOn, List.filter_filterMap]
  congr 1
  funext entry
  cases declares : standard.uri? entry with
  | none => simp
  | some uri =>
      have same := declaredOnRoot_iff declares
      by_cases root : uri = standard.uri
      · simp [root, same.mpr root, Option.filter_some]
      · simp [root, mt same.mp root, Option.filter_some]

def BindsKept (_ : String) (properties : Properties) : Prop :=
  ∀ standard : Standard,
    Xml.Binding.uriOf? (Xml.declaredBy ((writtenAttributes properties).map Xml.readValue))
        standard.qualifier =
      ((standard.declaredOn properties).filter (· ≠ standard.uri)).getLast?.map readUri

theorem uriOf?_declaredBy (standard : Standard) {entries : List (String × PropertyValue)}
    (bound : ∀ entry ∈ entries, Xml.Binding.uriOf?
      (Xml.binding? (Xml.readValue (namedValue entry))).toList standard.qualifier =
        (standard.uri? entry).map readUri)
    (named : (entries.map fun entry => (namedValue entry).1).Nodup) :
    Xml.Binding.uriOf? (Xml.declaredBy ((entries.map namedValue).map Xml.readValue))
        standard.qualifier = (entries.filterMap standard.uri?).getLast?.map readUri := by
  induction entries with
  | nil => rfl
  | cons entry rest ih =>
      obtain ⟨first, others⟩ := List.forall_mem_cons.mp bound
      rw [List.map_cons, List.nodup_cons] at named
      have split : Xml.declaredBy (((entry :: rest).map namedValue).map Xml.readValue) =
          (Xml.binding? (Xml.readValue (namedValue entry))).toList ++
            Xml.declaredBy ((rest.map namedValue).map Xml.readValue) := by
        simp only [Xml.declaredBy, List.map_cons, List.filterMap_cons]
        cases Xml.binding? (Xml.readValue (namedValue entry)) <;> rfl
      rw [split, Xml.Binding.uriOf?_append, ih others named.2, first]
      cases declares : standard.uri? entry with
      | none => simp [List.filterMap_cons_none declares]
      | some uri =>
          have name := name_eq_declaring_iff.mpr (mem_names_of_uri? declares).1
          -- Names are written once, so nothing behind declares it again.
          have alone : rest.filterMap standard.uri? = [] := by
            rw [List.filterMap_eq_nil_iff]
            intro other member
            rw [Option.eq_none_iff_forall_ne_some]
            intro uri again
            have same := name_eq_declaring_iff.mpr (mem_names_of_uri? again).1
            apply named.1
            rw [name, ← same]
            exact List.mem_map_of_mem member
          simp [List.filterMap_cons_some declares, alone]

theorem bindsKept_of_writable {tag : String} {properties : Properties}
    (normal : Document.IsNormal tag properties) (writable : IsWritable tag properties)
    (plain : DeclaresPlainly tag properties) : BindsKept tag properties := by
  intro standard
  rw [← filterMap_written]
  apply uriOf?_declaredBy
  · intro entry member
    have written : namedValue entry ∈ writtenAttributes properties := List.mem_map_of_mem member
    apply uriOf?_namedValue
    · exact normal entry (List.mem_filter.mp member).1
    · exact writable.attributes _ written
    · exact plain _ written
  · have named := writable.named
    rwa [writtenAttributes, List.map_map] at named

theorem getElem?_forestNodes (inherited : List Xml.Binding) {elements : List Element}
    {index : Nat} {element : Element} (found : elements[index]? = some element) (key : Nat) :
    (Xml.forestNodes inherited (forestOf (forestWithKeys key elements)))[index]? =
      some ((treeOf (elementWithKey (key + index) element)).node inherited) := by
  induction elements generalizing index key with
  | nil => simp at found
  | cons first rest ih =>
      cases index with
      | zero =>
          obtain rfl : first = element := by simpa using found
          rfl
      | succ index =>
          have later := ih (by simpa using found) (key + 1)
          simpa [forestWithKeys, forestOf, Xml.forestNodes, Nat.add_assoc, Nat.add_comm 1]
            using later

theorem scopeAt_forestNodes {elements : List Element} (kept : ForestEverywhere BindsKept elements)
    {path : List Nat} {branch : List Properties} (found : branchAt elements path = some branch)
    (inherited : List Xml.Binding) (key : Nat) :
    ∃ bindings,
      Xml.scopeAt inherited (Xml.forestNodes inherited (forestOf (forestWithKeys key elements)))
          path = some bindings ∧
        ∀ standard : Standard, Xml.Binding.uriOf? bindings standard.qualifier =
          ((standard.kept branch).getLast?.map readUri).or
            (Xml.Binding.uriOf? inherited standard.qualifier) := by
  -- Down the path the tag of each element is the scope of the next one.
  induction path generalizing elements branch inherited key with
  | nil =>
      obtain rfl : [] = branch := by simpa [branchAt] using found
      exact ⟨inherited, rfl, fun standard => by simp [Standard.kept, Standard.declared]⟩
  | cons index path ih =>
      simp only [branchAt, Option.bind_eq_bind, Option.bind_eq_some_iff, Option.pure_def,
        Option.some.injEq] at found
      obtain ⟨⟨tag, properties, children⟩, inside, below, deeper, rfl⟩ := found
      obtain ⟨own, others⟩ := kept.getElem? inside
      have tagged := fun standard : Standard => Xml.uriOf?_tagOf inherited (nameOf tag.toList)
        (writtenAttributes properties) standard.qualifier
      obtain ⟨bindings, scope, bound⟩ := ih others deeper (Xml.tagOf inherited (nameOf tag.toList)
        (writtenAttributes properties)).bindings 0
      refine ⟨bindings, ?_, ?_⟩
      · rw [Xml.scopeAt, getElem?_forestNodes inherited inside key]
        exact scope
      · intro standard
        rw [bound, tagged, own standard]
        have split : standard.kept (properties :: below) =
            (standard.declaredOn properties).filter (· ≠ standard.uri) ++ standard.kept below := by
          simp [Standard.kept, Standard.declared]
        rw [split, List.getLast?_append, Option.map_or, Option.or_assoc]

theorem uriOf?_rootScope (preview : Preview) (standard : Standard) :
    Xml.Binding.uriOf? (rootScope preview) standard.qualifier = some standard.uri := by
  rw [rootScope, bindingsWith, Xml.Binding.uriOf?_append]
  cases standard <;> rfl

theorem scope_of_parse {source : Source} {document : Document} (frame : Frame)
    (parsed : Document.parse source = .ok document)
    (writable : ForestEverywhere IsWritable document.elements)
    (distinct : AreDistinct (rootScope (ofElements document.elements frame)) document.elements)
    (room : (rootTree (ofElements document.elements frame)).HasRoom)
    (plain : ForestEverywhere DeclaresPlainly document.elements) {path : List Nat}
    {branch : List Properties} (found : branchAt document.elements path = some branch) :
    ∃ root children bindings,
      Xml.readDocument (ofElements document.elements frame).markup =
          .ok [.element root children] ∧
        Xml.scopeAt root.bindings children path = some bindings ∧
        ∀ standard : Standard, Xml.Binding.uriOf? bindings standard.qualifier =
          some (((standard.kept branch).getLast?.map readUri).getD standard.uri) := by
  have nonempty := (Document.isDrawable_of_parse parsed).elements
  have normal := Document.parse_normal parsed
  have kept : ForestEverywhere BindsKept document.elements :=
    ((normal.and writable).and plain).imp fun _ _ ⟨⟨normal, writable⟩, plain⟩ =>
      bindsKept_of_writable normal writable plain
  have legal := arePlaceholders_of_writable frame writable
  have below := forestWellFormed_rootScope frame writable distinct
  have read := readDocument_markup frame nonempty legal below room
  obtain ⟨bindings, scope, bound⟩ :=
    scopeAt_forestNodes kept found (rootScope (ofElements document.elements frame)) 0
  rw [node_rootTree frame legal] at read
  refine ⟨_, _, bindings, read, scope, ?_⟩
  intro standard
  rw [bound, uriOf?_rootScope, Option.or_some]

/-- In the markup of a tree that has been read, a node has the bindings that the tree gives it just
when the way to it does not come back to a binding of the root from another one. -/
theorem scope_of_parse_iff {source : Source} {document : Document} (frame : Frame)
    (parsed : Document.parse source = .ok document)
    (writable : ForestEverywhere IsWritable document.elements)
    (distinct : AreDistinct (rootScope (ofElements document.elements frame)) document.elements)
    (room : (rootTree (ofElements document.elements frame)).HasRoom)
    (plain : ForestEverywhere DeclaresPlainly document.elements) {path : List Nat}
    {branch : List Properties} (found : branchAt document.elements path = some branch)
    (standard : Standard) :
    ∃ root children bindings,
      Xml.readDocument (ofElements document.elements frame).markup =
          .ok [.element root children] ∧
        Xml.scopeAt root.bindings children path = some bindings ∧
        (Xml.Binding.uriOf? bindings standard.qualifier =
            some (readUri (standard.boundBy branch)) ↔
          (standard.boundBy branch = standard.uri →
            ∀ uri ∈ standard.declared branch, uri = standard.uri)) := by
  obtain ⟨root, children, bindings, read, scope, bound⟩ :=
    scope_of_parse frame parsed writable distinct room plain found
  refine ⟨root, children, bindings, read, scope, ?_⟩
  rw [bound, Option.some.injEq]
  exact last_kept_iff standard branch

theorem parseText_nested :
    Document.parseText "<svg><g xmlns='urn:x'><a xmlns='urn:y' xmlns:xlink='urn:z'/></g></svg>" =
      .ok ⟨[⟨"g", OrderedMap.ofList [("xmlns", .text "urn:x")],
        [⟨"a", OrderedMap.ofList [("xmlns", .text "urn:y"), ("xmlns:xlink", .text "urn:z")], []⟩]⟩],
          "0 0 24 24"⟩ := by
  decide +kernel

theorem scope_of_parse_nested :
    let inner : Properties :=
      OrderedMap.ofList [("xmlns", .text "urn:y"), ("xmlns:xlink", .text "urn:z")]
    let outer : Properties := OrderedMap.ofList [("xmlns", .text "urn:x")]
    let frame : Frame := ⟨Number.zero, Number.zero, Number.zero, Number.zero⟩
    ∃ root children bindings,
      Xml.readDocument (ofElements [⟨"g", outer, [⟨"a", inner, []⟩]⟩] frame).markup =
          .ok [.element root children] ∧
        Xml.scopeAt root.bindings children [0, 0] = some bindings ∧
        Xml.Binding.uriOf? bindings none = some "urn:y" := by
  intro inner outer frame
  have found : branchAt [⟨"g", outer, [⟨"a", inner, []⟩]⟩] [0, 0] = some [outer, inner] := rfl
  obtain ⟨root, children, bindings, read, scope, bound⟩ :=
    scope_of_parse_iff frame parseText_nested (by decide +kernel) (by decide +kernel)
      (by decide +kernel) (by decide +kernel) found .default
  have binds : readUri (Standard.default.boundBy [outer, inner]) = "urn:y" := by decide +kernel
  rw [binds] at bound
  refine ⟨root, children, bindings, read, scope, bound.mpr ?_⟩
  intro back
  exact absurd back (by decide +kernel)

theorem parseText_rebound :
    Document.parseText ("<svg><foreignObject xmlns='http://www.w3.org/1999/xhtml'>" ++
        "<g xmlns='http://www.w3.org/2000/svg'/></foreignObject></svg>") =
      .ok ⟨[⟨"foreignobject",
        OrderedMap.ofList [("xmlns", .text "http://www.w3.org/1999/xhtml")],
        [⟨"g", OrderedMap.ofList [("xmlns", .text svgNamespace)], []⟩]⟩], "0 0 24 24"⟩ := by
  decide +kernel

theorem scope_rebound :
    ¬∀ (text : String) (document : Document) (frame : Frame) (path : List Nat)
      (branch : List Properties) (standard : Standard),
      Document.parseText text = .ok document →
        branchAt document.elements path = some branch →
          ∃ root children bindings,
            Xml.readDocument (ofElements document.elements frame).markup =
                .ok [.element root children] ∧
              Xml.scopeAt root.bindings children path = some bindings ∧
              Xml.Binding.uriOf? bindings standard.qualifier =
                some (readUri (standard.boundBy branch)) := by
  intro claimed
  let inner : Properties := OrderedMap.ofList [("xmlns", .text svgNamespace)]
  let outer : Properties := OrderedMap.ofList [("xmlns", .text "http://www.w3.org/1999/xhtml")]
  let frame : Frame := ⟨Number.zero, Number.zero, Number.zero, Number.zero⟩
  have found : branchAt [⟨"foreignobject", outer, [⟨"g", inner, []⟩]⟩] [0, 0] =
      some [outer, inner] := rfl
  obtain ⟨root, children, bindings, read, scope, bound⟩ :=
    scope_of_parse frame parseText_rebound (by decide +kernel) (by decide +kernel)
      (by decide +kernel) (by decide +kernel) found
  obtain ⟨_, _, _, again, sameScope, expected⟩ :=
    claimed _ _ frame _ _ .default parseText_rebound found
  obtain ⟨rfl, rfl⟩ : root = _ ∧ children = _ := by simpa [read] using again
  obtain rfl : bindings = _ := by simpa [scope] using sameScope
  rw [bound] at expected
  exact absurd expected (by decide +kernel)

end Preview

end VectorIcon
