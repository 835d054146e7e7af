import BundleInspect.Decimal.Notation
import BundleInspect.Text.Quoted

/-!
# Faults of a JSON document

Why reading a document stops, in which of three categories the reason falls, what is said about it,
and the line and column it is reported at.
-/

namespace BundleInspect.Json

/-! ## What was found and what was wanted -/

inductive Number where
  | integer (value : Int)
  | real (value : Float)

inductive Found where
  | null
  | boolean (value : Bool)
  | number (value : Number)
  | string (text : String)
  | sequence
  | map

inductive Wanted where
  | record (name : String)
  | sequence
  | string
  | unsigned32
  | signed32
  | boolean
  deriving DecidableEq

/-- Doubles are positional from a hundred-thousandth up to sixteen places before the point. -/
def realNotation : Decimal.Notation :=
  ⟨-5, 15⟩

def Found.message : Found → String
  | .null => "null"
  | .boolean b => s!"boolean `{b}`"
  | .number (.integer i) => s!"integer `{i}`"
  | .number (.real x) => s!"floating point `{realNotation.double x}`"
  | .string text => "string " ++ Text.quote text
  | .sequence => "sequence"
  | .map => "map"

def Wanted.message : Wanted → String
  | .record name => "struct " ++ name
  | .sequence => "a sequence"
  | .string => "a string"
  | .unsigned32 => "u32"
  | .signed32 => "i32"
  | .boolean => "a boolean"

/-! ## Causes -/

inductive IntegerFault where
  | empty
  | badDigit
  | tooLarge
  | tooSmall
  deriving DecidableEq

def IntegerFault.message : IntegerFault → String
  | .empty => "cannot parse integer from empty string"
  | .badDigit => "invalid digit found in string"
  | .tooLarge => "number too large to fit in target type"
  | .tooSmall => "number too small to fit in target type"

inductive Cause where
  | endInValue
  | endInString
  | endInList
  | endInObject
  | badIdent
  | badNumber
  | numberOutOfRange
  | controlCharacter
  | badEscape
  | loneSurrogate
  | unfinishedSurrogate
  | listCommaWanted
  | objectCommaWanted
  | colonWanted
  | keyWanted
  | valueWanted
  | trailingComma
  | trailingCharacters
  | tooDeep
  | wrongType (found : Found) (wanted : Wanted)
  | outOfRange (value : Int) (wanted : Wanted)
  | unknownField (key : String) (accepted : List String)
  | repeatedField (name : String)
  | badInteger (fault : IntegerFault)
  | noVariant (name : String)

/-- A document ends too early, is no JSON, or is JSON of another shape. -/
inductive Category where
  | ending
  | grammar
  | data
  deriving DecidableEq

def Cause.category : Cause → Category
  | .endInValue | .endInString | .endInList | .endInObject => .ending
  | .wrongType .. | .outOfRange .. | .unknownField .. | .repeatedField _ | .badInteger _
  | .noVariant _ => .data
  | _ => .grammar

def ticked (name : String) : String :=
  "`" ++ name ++ "`"

def expectedNames : List String → String
  | [name] => ticked name
  | names => "one of " ++ ", ".intercalate (names.map ticked)

def Cause.message : Cause → String
  | .endInValue => "EOF while parsing a value"
  | .endInString => "EOF while parsing a string"
  | .endInList => "EOF while parsing a list"
  | .endInObject => "EOF while parsing an object"
  | .badIdent => "expected ident"
  | .badNumber => "invalid number"
  | .numberOutOfRange => "number out of range"
  | .controlCharacter => "control character (\\u0000-\\u001F) found while parsing a string"
  | .badEscape => "invalid escape"
  | .loneSurrogate => "lone leading surrogate in hex escape"
  | .unfinishedSurrogate => "unexpected end of hex escape"
  | .listCommaWanted => "expected `,` or `]`"
  | .objectCommaWanted => "expected `,` or `\x7d`"
  | .colonWanted => "expected `:`"
  | .keyWanted => "key must be a string"
  | .valueWanted => "expected value"
  | .trailingComma => "trailing comma"
  | .trailingCharacters => "trailing characters"
  | .tooDeep => "recursion limit exceeded"
  | .wrongType found wanted => s!"invalid type: {found.message}, expected {wanted.message}"
  | .outOfRange value wanted => s!"invalid value: integer `{value}`, expected {wanted.message}"
  | .unknownField key accepted =>
    "unknown field " ++ ticked key ++ ", expected " ++ expectedNames accepted
  | .repeatedField name => "duplicate field " ++ ticked name
  | .badInteger fault => fault.message
  | .noVariant name => "data did not match any variant of untagged enum " ++ name

/-! ## Places -/

/-- A fault `past` bytes beyond the point where `rest` is left. -/
structure Fault where
  cause : Cause
  rest : List Char
  past : Nat

def encoded (cs : List Char) : List UInt8 :=
  cs.flatMap String.utf8EncodeChar

def size (cs : List Char) : Nat :=
  cs.foldr (fun c n => c.utf8Size + n) 0

/-- The column is the number of bytes since the line began. -/
structure Place where
  line : Nat
  column : Nat
  deriving DecidableEq

def placeAfter (document : List Char) (offset : Nat) : Place :=
  let before := (encoded document).take offset
  { line := 1 + before.count 10
    column := (before.reverse.takeWhile (· != 10)).length }

def Fault.place (document : List Char) (fault : Fault) : Place :=
  placeAfter document (size document - size fault.rest + fault.past)

end BundleInspect.Json
