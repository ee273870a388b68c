import VectorIcon.Frame
import VectorIcon.Number.Scaled
import VectorIcon.Text.Quoted
import VectorIcon.Tool

/-!
Arguments of tool calls. They are checked against the parameters of the tool: first the kinds in
the order in which the arguments are given, then whether something is missing.
-/

namespace VectorIcon

/-- A value that a caller gives. What lists and objects hold does not matter. -/
inductive Argument where
  | null
  | flag (flag : Bool)
  | integer (value : Int)
  | real (value : Number)
  | text (text : String)
  | list
  | object

abbrev Arguments := List (String × Argument)

inductive Refusal where
  | noArguments (tool : String)
  | unknownTool (name : String)
  | wrongKind (found : Argument) (expected : ParameterKind)
  | outOfRange (value : Int)
  | missing (parameter : String)
  | unknownField (name : String)
  | unreadable (path reason : String)
  | nothingConverted

namespace Argument

/-- An integer that fits a 64-bit word, with a sign or without one, is kept as it is. -/
def ofInteger (value : Int) : Argument :=
  if -Int.pow 2 63 ≤ value ∧ value < Int.pow 2 64 then .integer value
  else .real (Number.ofScaled (value < 0) value.natAbs 0)

def ofDecimal (negative : Bool) (digits : Nat) (scale : Int) : Argument :=
  .real (Number.ofScaled negative digits scale)

/-- Magnitudes below 10¹⁶ are positional and show that they are no integers. -/
def realText (rank : Nat) : List Char :=
  if rank = 0 then "0.0".toList
  else
    let decimal := Number.shortest .even rank
    let digits := Nat.toDigits 10 decimal.digits
    let position := digits.length + decimal.scale
    if -5 < position && position ≤ 16 then
      let positional := Number.positional digits position
      if positional.contains '.' then positional else positional ++ ".0".toList
    else
      Number.scientific digits (position - 1)

def numberText : Number → List Char
  | .nan => "NaN".toList
  | .infinite negative => (if negative then "-inf" else "inf").toList
  | .finite negative rank => (if negative then ['-'] else []) ++ realText rank.val

def quotedIn (kind : String) (value : List Char) : String :=
  kind ++ " `" ++ String.ofList value ++ "`"

def describe : Argument → String
  | .null => "null"
  | .flag value => quotedIn "boolean" (toString value).toList
  | .integer value => quotedIn "integer" (toString value).toList
  | .real value => quotedIn "floating point" (numberText value)
  | .text value => "string " ++ String.ofList (Text.quoted value.toList)
  | .list => "sequence"
  | .object => "map"

end Argument

def ParameterKind.describe : ParameterKind → String
  | .text => "a string"
  | .size => "u32"
  | .flag => "a boolean"

def Refusal.message : Refusal → String
  | .noArguments tool =>
      let name := Text.trim tool.toList
      if name.isEmpty then "Invalid arguments: tool name cannot be empty"
      else "Invalid arguments for tool '" ++ String.ofList name ++
        "': Missing 'arguments' field in the request"
  | .unknownTool name => "Unknown tool: " ++ name
  | .wrongKind found expected =>
      "invalid type: " ++ found.describe ++ ", expected " ++ expected.describe
  | .outOfRange value =>
      "invalid value: " ++ (Argument.integer value).describe ++ ", expected " ++
        ParameterKind.size.describe
  | .missing parameter => "missing field `" ++ parameter ++ "`"
  | .unknownField name => Frame.Field.unknownMessage name
  | .unreadable path reason => "cannot read " ++ path ++ ": " ++ reason
  | .nothingConverted => "nothing converted yet: call convert_svg or load_svg_file first"

namespace Argument

def asText : Argument → Except Refusal String
  | .text value => .ok value
  | found => .error (.wrongKind found .text)

def asSize : Argument → Except Refusal Nat
  | .integer value =>
      if 0 ≤ value ∧ value < Int.pow 2 32 then .ok value.toNat else .error (.outOfRange value)
  | found => .error (.wrongKind found .size)

def asFlag : Argument → Except Refusal Bool
  | .flag value => .ok value
  | found => .error (.wrongKind found .flag)

def isLeftOut (parameter : Parameter) : Argument → Bool
  | .null => !parameter.isRequired
  | _ => false

def check (parameter : Parameter) (argument : Argument) : Except Refusal Unit :=
  if argument.isLeftOut parameter then .ok ()
  else match parameter.kind with
    | .text => argument.asText.map fun _ => ()
    | .size => argument.asSize.map fun _ => ()
    | .flag => argument.asFlag.map fun _ => ()

end Argument

namespace Arguments

/-- The kinds of all arguments that the tool knows; others are ignored. -/
def checkKinds (parameters : List Parameter) : Arguments → Except Refusal Unit
  | [] => .ok ()
  | (name, argument) :: rest =>
      match parameters.find? fun parameter => parameter.name == name with
      | none => checkKinds parameters rest
      | some parameter =>
          match argument.check parameter with
          | .error refusal => .error refusal
          | .ok () => checkKinds parameters rest

def required {α : Type} (arguments : Arguments) (name : String)
    (read : Argument → Except Refusal α) : Except Refusal α :=
  match arguments.lookup name with
  | some argument => read argument
  | none => .error (.missing name)

def optional {α : Type} (arguments : Arguments) (name : String)
    (read : Argument → Except Refusal α) : Except Refusal (Option α) :=
  match arguments.lookup name with
  | some .null => .ok none
  | some argument => (read argument).map some
  | none => .ok none

end Arguments

inductive Request where
  | convert (svg : String)
  | loadFile (path : String) (mimeType : Option String)
  | setName (name : String)
  | setField (field value : String)
  | resetFrame
  | code
  | copy
  | preview (width : Option Nat)
  | errors
  | dismiss (close : Option Bool)
  | clear

namespace Request

def ofArguments (tool : Tool) (arguments : Arguments) : Except Refusal Request := do
  arguments.checkKinds tool.parameters
  match tool with
  | .convert => return .convert (← arguments.required "svg" Argument.asText)
  | .loadFile =>
      let path ← arguments.required "path" Argument.asText
      return .loadFile path (← arguments.optional "mime_type" Argument.asText)
  | .setName => return .setName (← arguments.required "name" Argument.asText)
  | .setField =>
      let field ← arguments.required "field" Argument.asText
      return .setField field (← arguments.required "value" Argument.asText)
  | .resetFrame => return .resetFrame
  | .code => return .code
  | .copy => return .copy
  | .preview => return .preview (← arguments.optional "width" Argument.asSize)
  | .errors => return .errors
  | .dismiss => return .dismiss (← arguments.optional "close" Argument.asFlag)
  | .clear => return .clear

def ofCall (name : String) (arguments : Option Arguments) : Except Refusal Request :=
  match arguments with
  | none => .error (.noArguments name)
  | some arguments =>
      match Tool.ofName? name with
      | none => .error (.unknownTool name)
      | some tool => ofArguments tool arguments

end Request

end VectorIcon
