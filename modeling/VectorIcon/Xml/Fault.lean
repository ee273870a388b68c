import VectorIcon.Source
import VectorIcon.Text.Quoted

/-!
What can be wrong with an XML text, and where.
-/

namespace VectorIcon.Xml

inductive Cause where
  | xmlQualifierUri
  | xmlUri
  | xmlnsUri
  | xmlnsQualifier
  | repeatedNamespace (name : String)
  | namespaceLimit
  | unknownQualifier (name : String)
  | closingTag (expected actual : String)
  | closeWithoutOpen
  | unknownEntity (name : String)
  | malformedReference
  | entityLoop
  | unescapedDelimiter
  | repeatedAttribute (name : String)
  | noRoot
  | unclosedRoot
  | misplacedDeclaration
  | invalidName
  | invalidChar (c : Char)
  | expectedChar (expected actual : Char)
  | expectedKind (kind : String) (actual : Char)
  | expectedText (text : String)
  | invalidExternalId
  | invalidComment
  | invalidCharacterData
  | unknownToken
  | endOfText
  deriving DecidableEq

structure Fault where
  cause : Cause
  position : Position
  deriving DecidableEq

def Position.text (position : Position) : String :=
  toString position.row ++ ":" ++ toString position.column

def Cause.message (place : String) : Cause → String
  | .xmlQualifierUri => "'xml' namespace prefix mapped to wrong URI at " ++ place
  | .xmlUri => "the 'xml' namespace URI is used for not 'xml' prefix at " ++ place
  | .xmlnsUri => "the 'xmlns' URI is used at " ++ place ++ ", but it must not be declared"
  | .xmlnsQualifier => "the 'xmlns' prefix is used at " ++ place ++ ", but it must not be"
  | .repeatedNamespace name => "namespace '" ++ name ++ "' at " ++ place ++ " is already defined"
  | .namespaceLimit => "more than 2^16 unique namespaces were parsed"
  | .unknownQualifier name => "an unknown namespace prefix '" ++ name ++ "' at " ++ place
  | .closingTag expected actual =>
      "expected '" ++ expected ++ "' tag, not '" ++ actual ++ "' at " ++ place
  | .closeWithoutOpen => "unexpected close tag at " ++ place
  | .unknownEntity name => "unknown entity reference '" ++ name ++ "' at " ++ place
  | .malformedReference => "malformed entity reference at " ++ place
  | .entityLoop => "a possible entity reference loop is detected at " ++ place
  | .unescapedDelimiter => "unescaped '<' found at " ++ place
  | .repeatedAttribute name => "attribute '" ++ name ++ "' at " ++ place ++ " is already defined"
  | .noRoot => "the document does not have a root node"
  | .unclosedRoot => "the root node was opened but never closed"
  | .misplacedDeclaration => "unexpected XML declaration at " ++ place
  | .invalidName => "invalid name token at " ++ place
  | .invalidChar c =>
      "a non-XML character '" ++ String.ofList (Text.quoteChar c) ++ "' found at " ++ place
  | .expectedChar expected actual =>
      "expected '" ++ expected.toString ++ "' not '" ++ actual.toString ++ "' at " ++ place
  | .expectedKind kind actual =>
      "expected " ++ kind ++ " not '" ++ actual.toString ++ "' at " ++ place
  | .expectedText text => "expected '" ++ text ++ "' at " ++ place
  | .invalidExternalId => "invalid ExternalID at " ++ place
  | .invalidComment => "comment at " ++ place ++ " contains '--'"
  | .invalidCharacterData =>
      "']]>' at " ++ place ++ " is not allowed inside a character data"
  | .unknownToken => "unknown token at " ++ place
  | .endOfText => "unexpected end of stream"

def Fault.message (fault : Fault) : String :=
  fault.cause.message (Position.text fault.position)

def Fault.ofText (cause : Cause) : Fault :=
  ⟨cause, Position.first⟩

end VectorIcon.Xml
