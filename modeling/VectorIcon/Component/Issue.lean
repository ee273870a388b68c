/-!
What can be wrong with a component source: the grammar rules that were expected at a place, or one
part that contradicts another.
-/

namespace VectorIcon.Component

/-- The rules of the component grammar, in the order in which messages list them. -/
inductive Rule where
  | endOfInput
  | component
  | ident
  | icon
  | viewBox
  | element
  | tagName
  | closeTag
  | attrName
  | keyAttr
  | keyIndex
  | plainAttr
  | attrValue
  | quoted
  | styleAttr
  | styleEntry
  | styleName
  | styleValue
  | styleText
  deriving DecidableEq

def Rule.all : List Rule :=
  [.endOfInput, .component, .ident, .icon, .viewBox, .element, .tagName, .closeTag, .attrName,
    .keyAttr, .keyIndex, .plainAttr, .attrValue, .quoted, .styleAttr, .styleEntry, .styleName,
    .styleValue, .styleText]

def Rule.name : Rule → String
  | .endOfInput => "EOI"
  | .component => "component"
  | .ident => "ident"
  | .icon => "icon"
  | .viewBox => "view_box"
  | .element => "element"
  | .tagName => "tag_name"
  | .closeTag => "close_tag"
  | .attrName => "attr_name"
  | .keyAttr => "key_attr"
  | .keyIndex => "key_index"
  | .plainAttr => "plain_attr"
  | .attrValue => "attr_value"
  | .quoted => "quoted"
  | .styleAttr => "style_attr"
  | .styleEntry => "style_entry"
  | .styleName => "style_name"
  | .styleValue => "style_value"
  | .styleText => "style_text"

inductive Issue where
  | expected (rules : List Rule)
  | exportName (exported declared : String)
  | key (expected : Nat) (found : String)
  | closingTag (closing opening : String)
  deriving DecidableEq

def alternatives : List String → String
  | [] => ""
  | [only] => only
  | [first, second] => first ++ " or " ++ second
  | names => String.intercalate ", " (names.dropLast ++ ["or " ++ names.getLast?.getD ""])

def Issue.message : Issue → String
  | .expected rules =>
      "expected " ++ alternatives ((Rule.all.filter rules.contains).map Rule.name)
  | .exportName exported declared =>
      "default export '" ++ exported ++ "' does not match '" ++ declared ++ "'"
  | .key index found =>
      "expected key \x7b" ++ toString index ++ "\x7d, found \x7b" ++ found ++ "\x7d"
  | .closingTag closing opening =>
      "closing tag </" ++ closing ++ "> does not match <" ++ opening ++ ">"

end VectorIcon.Component
