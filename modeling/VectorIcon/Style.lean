import VectorIcon.OrderedMap
import VectorIcon.Text.Blank

/-!
Inline styles. `Style.parse` reads declarations as they stand in markup and `Style.cssText` writes
them; in between, names are in the camel-case form that `camelCase` makes and `hyphenate` undoes.
-/

namespace VectorIcon

def camelCase : List Char → List Char
  | [] => []
  | [c] => [c]
  | first :: second :: rest =>
      if first = '-' && second.isLower then second.toUpper :: camelCase rest
      else first :: camelCase (second :: rest)

def hyphenate (name : List Char) : List Char :=
  name.flatMap fun c => if c.isUpper then ['-', c.toLower] else [c]

def startsUpper : List Char → Bool
  | [] => false
  | c :: _ => c.isUpper

abbrev Style := OrderedMap String

namespace Style

/-- The name and the value of a declaration; one without a name or a value is dropped. -/
def declaration? (text : List Char) : Option (String × String) :=
  match Text.splitFirst ':' text with
  | none => none
  | some (before, after) =>
      let property := Text.trim before
      let value := Text.trim after
      if property.isEmpty || value.isEmpty then none
      else some (String.ofList (camelCase property), String.ofList value)

def declarations (text : List Char) : List (String × String) :=
  (Text.split (· == ';') text).filterMap declaration?

def parse (text : String) : Style :=
  OrderedMap.ofList (declarations text.toList)

/-- A vendor name that starts with `ms` takes a hyphen in front. -/
def cssName (property : List Char) : List Char :=
  match Text.dropLeading ['m', 's'] property with
  | some rest => if startsUpper rest then "-ms".toList ++ hyphenate rest else hyphenate property
  | none => hyphenate property

def cssDeclaration (entry : String × String) : List Char :=
  cssName entry.1.toList ++ ':' :: entry.2.toList

def cssText (style : Style) : List Char :=
  List.intercalate [';'] (style.entries.map cssDeclaration)

end Style

end VectorIcon
