import VectorIcon.Component.Parser
import VectorIcon.Attribute
import VectorIcon.Text.Blank

/-!
The grammar of component sources. White space may stand between any two parts, but not inside
names and quotes. What a source says twice, such as keys and closing tags, is kept as it is
written, with its place.
-/

namespace VectorIcon.Component

structure Written where
  text : String
  span : Span

structure WrittenElement where
  tag : String
  key : Written
  properties : List (String × PropertyValue)
  children : List WrittenElement
  closing : Option Written

structure WrittenIcon where
  viewBox : String
  elements : List WrittenElement

structure WrittenComponent where
  declared : Written
  icon : WrittenIcon
  exported : Written

def isIdentChar (c : Char) : Bool :=
  c.isAlphanum || c == '_' || c == '$'

def isNameChar (c : Char) : Bool :=
  c.isAlphanum || c == '-' || c == '_' || c == ':' || c == '.'

def isStyleNameChar (c : Char) : Bool :=
  c != ':' && c != ',' && c != '\x7d'

namespace Parser

def written (body : Parser (List Char)) : Parser Written := do
  let (text, span) ← located body
  return ⟨String.ofList text, span⟩

def ident : Parser Written :=
  written (rule .ident (takeSome isIdentChar))

/-- A text between two quotes of one kind, which has no escapes. -/
def between (outer inner : Rule) (mark : Char) : Parser String :=
  rule outer do
    literal mark.toString
    let text ← rule inner (takeWhile (· != mark))
    literal mark.toString
    return String.ofList text

def importStatement : Parser Unit := do
  literal "import"
  let _ ← takeWhile (· != ';')
  literal ";"

def keyIndex : Parser (List Char) :=
  rule .keyIndex (takeSome Char.isDigit)

def keyAttribute : Parser Written := do
  let (key, span) ← rule .keyAttr <| located do
    literal "key"
    tokens ["=", "\x7b"]
    let key ← spaced keyIndex
    token "\x7d"
    return key
  return ⟨String.ofList key, span⟩

def plainAttribute : Parser (String × PropertyValue) :=
  rule .plainAttr do
    let name ← rule .attrName (takeSome isNameChar)
    token "="
    let value ← spaced (between .attrValue .quoted '"')
    return (String.ofList name, .text value)

def styleEntry : Parser (String × String) :=
  rule .styleEntry do
    let name ← rule .styleName (takeSome isStyleNameChar)
    token ":"
    let value ← spaced (between .styleValue .styleText '\'')
    return (String.ofList (Text.trim name), value)

def styleEntries (bound : Nat) : Parser (List (String × String)) :=
  orElse
    (do
      let first ← spaced styleEntry
      let more ← repeated (do
        literal ","
        spaced styleEntry) bound
      return first :: more)
    (succeed [])

def styleAttribute (bound : Nat) : Parser (String × PropertyValue) :=
  rule .styleAttr do
    literal "style"
    tokens ["=", "\x7b\x7b"]
    let entries ← styleEntries bound
    token "\x7d\x7d"
    return ("style", .style (OrderedMap.ofList entries))

def property (bound : Nat) : Parser (String × PropertyValue) :=
  orElse (styleAttribute bound) plainAttribute

def closingName : Parser Written :=
  written (rule .closeTag (takeSome isNameChar))

def content (child : Parser WrittenElement) (bound : Nat) :
    Parser (List WrittenElement × Option Written) := do
  token ">"
  let children ← repeated child bound
  tokens ["<", "/"]
  let closing ← spaced closingName
  token ">"
  return (children, some closing)

def selfClosed : Parser (List WrittenElement × Option Written) := do
  token "/>"
  return ([], none)

/-- An element; the bound has to exceed its depth and the number of its parts. -/
def element : Nat → Parser WrittenElement
  | 0 => fail
  | bound + 1 =>
      rule .element do
        literal "<"
        let tag ← spaced (rule .tagName (takeSome isNameChar))
        let key ← spaced keyAttribute
        let properties ← repeated (property bound) bound
        let (children, closing) ← orElse selfClosed (content (element bound) bound)
        return ⟨String.ofList tag, key, properties, children, closing⟩

def icon (bound : Nat) : Parser WrittenIcon :=
  rule .icon do
    literal "<"
    tokens ["SvgIcon", "\x7b", "...", "props", "\x7d", "viewBox", "="]
    let viewBox ← spaced (between .viewBox .quoted '"')
    token ">"
    let elements ← repeated (element bound) bound
    tokens ["<", "/", "SvgIcon", ">"]
    return ⟨viewBox, elements⟩

def component (bound : Nat) : Parser WrittenComponent :=
  rule .component do
    let _ ← repeated importStatement bound
    token "const"
    let declared ← spaced ident
    tokens ["=", "(", "props", ")", "=>", "\x7b", "return", "("]
    let icon ← spaced (icon bound)
    tokens [")", ";", "\x7d", ";", "export", "default"]
    let exported ← spaced ident
    token ";"
    spaced (rule .endOfInput endOfInput)
    return ⟨declared, icon, exported⟩

end Parser

end VectorIcon.Component
