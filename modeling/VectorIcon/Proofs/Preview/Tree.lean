import VectorIcon.Preview.Markup
import VectorIcon.Proofs.Text.Split
import VectorIcon.Proofs.Xml.Value

/-!
The preview as a tree of markup: its text is that of a root with the standard declarations and, for
each element, the tag and the attributes that are written.
-/

namespace VectorIcon.Preview

def nameOf (text : List Char) : Xml.QualifiedName :=
  match Text.splitFirst ':' text with
  | some (c :: qualifier, localName) =>
      ⟨String.ofList (c :: qualifier), String.ofList localName⟩
  | _ => ⟨"", String.ofList text⟩

theorem nameOf_text (text : List Char) : (nameOf text).text.toList = text := by
  unfold nameOf
  split
  · rename_i c qualifier localName apart
    obtain ⟨spelled, _⟩ := Text.splitFirst_eq_some apart
    have qualified : String.ofList (c :: qualifier) ≠ "" := by
      intro empty
      simpa using congrArg String.toList empty
    rw [Xml.QualifiedName.text, if_neg qualified, spelled]
    simp
  · simp [Xml.QualifiedName.text]

theorem nameOf_of_not_mem {text : List Char} (plain : ':' ∉ text) :
    nameOf text = ⟨"", String.ofList text⟩ := by
  rw [nameOf, Text.splitFirst_eq_none plain]

def namedValue (entry : String × PropertyValue) : Xml.NamedValue :=
  (nameOf (Attribute.markupName entry.1).toList, String.ofList (valueText entry.2))

theorem attributeText_namedValue (entry : String × PropertyValue) :
    Xml.Markup.attributeText (namedValue entry) = propertyText entry := by
  simp [Xml.Markup.attributeText, namedValue, propertyText, attributeText, nameOf_text]

def writtenAttributes (properties : Properties) : List Xml.NamedValue :=
  (properties.entries.filter fun entry => !declaredOnRoot entry).map namedValue

theorem flatMap_writtenAttributes (properties : Properties) :
    (writtenAttributes properties).flatMap Xml.Markup.attributeText =
      attributesText properties := by
  simp [writtenAttributes, attributesText, List.flatMap_map, attributeText_namedValue]

mutual
def treeOf : PreviewElement → Xml.Markup
  | ⟨tag, _, properties, children⟩ =>
      ⟨nameOf tag.toList, writtenAttributes properties, forestOf children⟩

def forestOf : List PreviewElement → List Xml.Markup
  | [] => []
  | element :: rest => treeOf element :: forestOf rest
end

theorem length_forestOf (key : Nat) (elements : List Element) :
    (forestOf (forestWithKeys key elements)).length = elements.length := by
  induction elements generalizing key with
  | nil => rfl
  | cons element rest ih => simp [forestWithKeys, forestOf, ih]

theorem forestOf_ne_nil {forest : List PreviewElement} (nonempty : forest ≠ []) :
    forestOf forest ≠ [] := by
  cases forest with
  | nil => exact absurd rfl nonempty
  | cons element rest => simp [forestOf]

mutual
theorem text_treeOf : ∀ element, (treeOf element).text = elementMarkup element
  | ⟨tag, _, properties, []⟩ => by
      rw [treeOf, forestOf, Xml.Markup.text_childless, Xml.Markup.openingText,
        flatMap_writtenAttributes, nameOf_text]
      rfl
  | ⟨tag, _, properties, child :: children⟩ => by
      have content := forestText_forestOf (child :: children)
      rw [treeOf, Xml.Markup.text_of_children _ _ (by simp [forestOf]), content,
        Xml.Markup.openingText, Xml.Markup.closingText, flatMap_writtenAttributes, nameOf_text,
        elementMarkup]
      simp

theorem forestText_forestOf : ∀ forest, Xml.Markup.forestText (forestOf forest) = forestMarkup forest
  | [] => rfl
  | element :: rest => by
      rw [forestOf, Xml.Markup.forestText, forestMarkup, text_treeOf element,
        forestText_forestOf rest]
end

def placeholder (qualifier : List Char) : Xml.NamedValue :=
  (⟨"xmlns", String.ofList qualifier⟩, "urn:svgicon:" ++ String.ofList qualifier)

def rootAttributes (preview : Preview) : List Xml.NamedValue :=
  [(⟨"", "class"⟩, wrapperClass), (⟨"", "focusable"⟩, "false"), (⟨"", "aria-hidden"⟩, "true"),
    (⟨"", "viewBox"⟩, preview.viewBox), (⟨"", "xmlns"⟩, svgNamespace),
    (⟨"xmlns", "xlink"⟩, xlinkNamespace)] ++ preview.placeholders.map placeholder

def rootTree (preview : Preview) : Xml.Markup :=
  ⟨⟨"", "svg"⟩, rootAttributes preview, forestOf preview.children⟩

theorem attributeText_placeholder {qualifier : List Char}
    (plain : Text.escape qualifier = qualifier) :
    Xml.Markup.attributeText (placeholder qualifier) = placeholderText qualifier := by
  have value : Text.escape ("urn:svgicon:" ++ String.ofList qualifier).toList =
      "urn:svgicon:".toList ++ qualifier := by
    have words : Text.escape "urn:svgicon:".toList = "urn:svgicon:".toList := rfl
    simp only [String.toList_append, String.toList_ofList, Text.escape_append, words, plain]
  have name : (⟨"xmlns", String.ofList qualifier⟩ : Xml.QualifiedName).text.toList =
      "xmlns:".toList ++ qualifier := by
    simp [Xml.QualifiedName.text]
  have front : " xmlns:".toList = ' ' :: "xmlns:".toList := rfl
  have middle : "=\"urn:svgicon:".toList = '=' :: '"' :: "urn:svgicon:".toList := rfl
  unfold placeholderText
  simp only [placeholder, Xml.Markup.attributeText, value, name, front, middle, List.append_assoc,
    List.cons_append]

theorem openingText_rootTree (preview : Preview)
    (plain : ∀ qualifier ∈ preview.placeholders, Text.escape qualifier = qualifier) :
    Xml.Markup.openingText ⟨"", "svg"⟩ (rootAttributes preview) ++ ['>'] = rootText preview := by
  have others : (preview.placeholders.map placeholder).flatMap Xml.Markup.attributeText =
      preview.placeholders.flatMap placeholderText := by
    rw [List.flatMap_def, List.flatMap_def, List.map_map]
    exact congrArg List.flatten (List.map_congr_left fun qualifier member =>
      attributeText_placeholder (plain qualifier member))
  have svg : Text.escape svgNamespace.toList = svgNamespace.toList := by decide +kernel
  have xlink : Text.escape xlinkNamespace.toList = xlinkNamespace.toList := by decide +kernel
  have wrapper : Text.escape wrapperClass.toList = wrapperClass.toList := by decide +kernel
  have no : Text.escape "false".toList = "false".toList := by decide +kernel
  have yes : Text.escape "true".toList = "true".toList := by decide +kernel
  have unqualified (name : String) : (⟨"", name⟩ : Xml.QualifiedName).text = name := rfl
  have qualified : (⟨"xmlns", "xlink"⟩ : Xml.QualifiedName).text = "xmlns:xlink" := by
    decide +kernel
  have first : "<svg class=\"".toList =
      '<' :: ("svg".toList ++ ' ' :: ("class".toList ++ ['=', '"'])) := by decide +kernel
  have second : "\" focusable=\"false\" aria-hidden=\"true\" viewBox=\"".toList =
      '"' :: ' ' :: ("focusable".toList ++ '=' :: '"' :: ("false".toList ++ '"' :: ' ' ::
        ("aria-hidden".toList ++ '=' :: '"' :: ("true".toList ++ '"' :: ' ' ::
          ("viewBox".toList ++ ['=', '"']))))) := by decide +kernel
  have third : "\" xmlns=\"".toList = '"' :: ' ' :: ("xmlns".toList ++ ['=', '"']) := by
    decide +kernel
  have fourth : "\" xmlns:xlink=\"".toList =
      '"' :: ' ' :: ("xmlns:xlink".toList ++ ['=', '"']) := by decide +kernel
  unfold rootText
  simp only [Xml.Markup.openingText, rootAttributes, others, List.flatMap_cons,
    Xml.Markup.attributeText, svg, xlink, wrapper, no, yes,
    unqualified, qualified, first, second, third, fourth, List.append_assoc, List.cons_append,
    List.nil_append]

theorem toList_markup {preview : Preview} (nonempty : preview.children ≠ [])
    (plain : ∀ qualifier ∈ preview.placeholders, Text.escape qualifier = qualifier) :
    preview.markup.toList = (rootTree preview).text := by
  have content := forestOf_ne_nil nonempty
  rw [rootTree, Xml.Markup.text_of_children _ _ content, forestText_forestOf, markup,
    String.toList_ofList, ← openingText_rootTree preview plain]
  simp [Xml.Markup.closingText, Xml.QualifiedName.text]

end VectorIcon.Preview
