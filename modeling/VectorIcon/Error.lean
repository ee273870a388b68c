import VectorIcon.Component.Issue
import VectorIcon.Xml.Fault

/-!
Everything that can go wrong between a text and a component, with the wording that users see.
-/

namespace VectorIcon

inductive ConvertError where
  | emptyInput
  | markup (fault : Xml.Fault) (source : Source)
  | missingRoot
  | noDrawableElements
  | unsupportedFileType (mimeType : String)
  | clipboardWrite (message : String)
  | componentSyntax (issue : Component.Issue) (span : Span) (source : Source)
  deriving DecidableEq

namespace ConvertError

def message : ConvertError → String
  | .emptyInput => "empty input: paste SVG markup or select an SVG file"
  | .markup fault _ => "invalid SVG markup: " ++ fault.message
  | .missingRoot => "invalid SVG markup: no <svg> element found"
  | .noDrawableElements => "no drawable elements found in the SVG"
  | .unsupportedFileType mimeType =>
      "unsupported file type '" ++ mimeType ++ "': select an SVG file"
  | .clipboardWrite message =>
      "could not copy the component code to the clipboard: " ++ message
  | .componentSyntax issue _ _ => "invalid component source: " ++ issue.message

def code : ConvertError → String
  | .emptyInput => "svgicon::parse::empty_input"
  | .markup _ _ => "svgicon::parse::markup"
  | .missingRoot => "svgicon::parse::missing_root"
  | .noDrawableElements => "svgicon::parse::no_drawable_elements"
  | .unsupportedFileType _ => "svgicon::file::unsupported_type"
  | .clipboardWrite _ => "svgicon::clipboard::write_failed"
  | .componentSyntax _ _ _ => "svgicon::jsx::syntax"

def help : ConvertError → Option String
  | .missingRoot => some "the document must contain an <svg> element"
  | .noDrawableElements =>
      some "the <svg> element needs at least one child element such as <path>"
  | .unsupportedFileType _ => some "only files declared as image/svg+xml are accepted"
  | _ => none

def source : ConvertError → Option Source
  | .markup _ source => some source
  | .componentSyntax _ _ source => some source
  | _ => none

def span : ConvertError → Option Span
  | .markup fault source => some (source.spanAt fault.position.row fault.position.column)
  | .componentSyntax _ span _ => some span
  | _ => none

def isParseError : ConvertError → Bool
  | .emptyInput => true
  | .markup _ _ => true
  | .missingRoot => true
  | .noDrawableElements => true
  | _ => false

end ConvertError

end VectorIcon
