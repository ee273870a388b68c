/-!
The tools that drive a session from outside: their names, what they are for, and the arguments
that they take.
-/

namespace VectorIcon

inductive Tool where
  | convert
  | loadFile
  | setName
  | setField
  | resetFrame
  | code
  | copy
  | preview
  | errors
  | dismiss
  | clear
  deriving DecidableEq

inductive ParameterKind where
  | text
  | size
  | flag
  deriving DecidableEq

structure Parameter where
  name : String
  kind : ParameterKind
  isRequired : Bool
  description : Option String

namespace Tool

def all : List Tool :=
  [.convert, .loadFile, .setName, .setField, .resetFrame, .code, .copy, .preview, .errors,
    .dismiss, .clear]

def name : Tool → String
  | .convert => "convert_svg"
  | .loadFile => "load_svg_file"
  | .setName => "set_component_name"
  | .setField => "set_viewbox_field"
  | .resetFrame => "reset_viewbox"
  | .code => "get_component_code"
  | .copy => "copy_component_code"
  | .preview => "render_preview"
  | .errors => "get_errors"
  | .dismiss => "dismiss_errors"
  | .clear => "clear_session"

def description : Tool → String
  | .convert =>
      "Set the SVG input text and convert it. Returns the session state; errors are reported in " ++
      "the error console."
  | .loadFile =>
      "Load an SVG file from disk as the input and convert it. Only files of type image/svg+xml " ++
      "are accepted; the type is guessed from the extension unless given."
  | .setName =>
      "Set the generated component's name. Characters outside [A-Za-z0-9_] are removed; an " ++
      "empty result falls back to CustomIcon."
  | .setField =>
      "Edit one field of the working viewBox (minX, minY, width or height) as if typed into its " ++
      "input. Blank means 0; otherwise the leading number is used. Ignored until something is " ++
      "converted."
  | .resetFrame => "Restore the working viewBox to the values resolved from the SVG."
  | .code =>
      "Return the generated React component source for the current SVG, name and viewBox."
  | .copy => "Copy the generated component source to the server clipboard and return it."
  | .preview =>
      "Render the live preview as PNG next to the original input, with an SSIM similarity score " ++
      "and the preview's SVG markup."
  | .errors =>
      "Show the error console: whether it is open, whether an error is unacknowledged, and the " ++
      "rendered error."
  | .dismiss => "Clear the current error message, optionally closing the error console."
  | .clear =>
      "Discard the input, converted tree, viewBox and error, and reset the component name to " ++
      "CustomIcon."

def parameters : Tool → List Parameter
  | .convert => [⟨"svg", .text, true, some "Raw SVG markup"⟩]
  | .loadFile =>
      [⟨"path", .text, true, some "Path of the file to load"⟩,
        ⟨"mime_type", .text, false, some "Declared MIME type, e.g. 'image/svg+xml'"⟩]
  | .setName => [⟨"name", .text, true, none⟩]
  | .setField =>
      [⟨"field", .text, true, some "One of 'minX', 'minY', 'width', 'height'"⟩,
        ⟨"value", .text, true, some "Raw text for the field"⟩]
  | .preview => [⟨"width", .size, false, some "Width in pixels of each image (default 300)"⟩]
  | .dismiss => [⟨"close", .flag, false, some "Also close the console"⟩]
  | _ => []

def isReadOnly : Tool → Bool
  | .code => true
  | .preview => true
  | .errors => true
  | _ => false

def ofName? (name : String) : Option Tool :=
  all.find? fun tool => tool.name == name

end Tool

end VectorIcon
