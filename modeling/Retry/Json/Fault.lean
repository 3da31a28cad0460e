import Retry.Json.Printer
import Retry.Text.Quoted

/-!
# What can be wrong with a JSON text

A fault is a cause and the place where it is reported. Places are counted in lines and, within a
line, in bytes. While a text is read, the place of a fault is what is left of the text
(`Fault.rest`); it becomes a position at the end (`Fault.position`).
-/

namespace Retry.Json

inductive Found where
  | null
  | boolean (value : Bool)
  | number (value : Number)
  | text (value : String)
  | sequence
  | map
deriving DecidableEq

def Found.message : Found → String
  | .null => "null"
  | .boolean value => "boolean `" ++ boolText value ++ "`"
  | .number (.integer value) => "integer `" ++ toString value ++ "`"
  | .number (.float value) => "floating point `" ++ (Number.float value).text ++ "`"
  | .text value => "string " ++ Text.quoted value
  | .sequence => "sequence"
  | .map => "map"

/-- How a value is named where something else was wanted. -/
def Value.found : Value → Found
  | .null => .null
  | .boolean value => .boolean value
  | .number value => .number value
  | .text value => .text value
  | .array _ => .sequence
  | .object _ => .map

inductive Cause where
  | endOfValue
  | endOfList
  | endOfObject
  | endOfString
  | valueExpected
  /-- A word begins like `null`, `true` or `false` and goes on otherwise. -/
  | wordExpected
  | colonExpected
  | memberEndExpected
  | elementEndExpected
  | trailingComma
  | trailingCharacters
  | keyNotString
  | invalidNumber
  | numberOutOfRange
  | invalidEscape
  | unpairedEscape
  | loneSurrogate
  | controlCharacter
  | tooDeep
  | wrongType (found : Found) (wanted : String)
  | integerOutOfRange (found : Int) (wanted : String)
  | wrongLength (length : Nat) (wanted : String)
  | unknownField (name : String) (known : List String)
  | unknownVariant (name : String) (known : List String)
  | repeatedField (name : String)
  | missingField (name : String)
deriving DecidableEq

def ticked (names : List String) : String :=
  ", ".intercalate (names.map fun name => "`" ++ name ++ "`")

def Cause.message : Cause → String
  | .endOfValue => "EOF while parsing a value"
  | .endOfList => "EOF while parsing a list"
  | .endOfObject => "EOF while parsing an object"
  | .endOfString => "EOF while parsing a string"
  | .valueExpected => "expected value"
  | .wordExpected => "expected ident"
  | .colonExpected => "expected `:`"
  | .memberEndExpected => "expected `,` or `\x7d`"
  | .elementEndExpected => "expected `,` or `]`"
  | .trailingComma => "trailing comma"
  | .trailingCharacters => "trailing characters"
  | .keyNotString => "key must be a string"
  | .invalidNumber => "invalid number"
  | .numberOutOfRange => "number out of range"
  | .invalidEscape => "invalid escape"
  | .unpairedEscape => "unexpected end of hex escape"
  | .loneSurrogate => "lone leading surrogate in hex escape"
  | .controlCharacter =>
    "control character (\\u0000-\\u001F) found while parsing a string"
  | .tooDeep => "recursion limit exceeded"
  | .wrongType found wanted => "invalid type: " ++ found.message ++ ", expected " ++ wanted
  | .integerOutOfRange found wanted =>
    "invalid value: integer `" ++ toString found ++ "`, expected " ++ wanted
  | .wrongLength length wanted =>
    "invalid length " ++ toString length ++ ", expected " ++ wanted
  | .unknownField name known =>
    "unknown field `" ++ name ++ "`, expected one of " ++ ticked known
  | .unknownVariant name known =>
    "unknown variant `" ++ name ++ "`, expected one of " ++ ticked known
  | .repeatedField name => "duplicate field `" ++ name ++ "`"
  | .missingField name => "missing field `" ++ name ++ "`"

/-- A place in a text: the line, counted from one, and the bytes of it that lie before. -/
structure Position where
  line : Nat
  column : Nat
deriving DecidableEq

namespace Position

def start : Position := ⟨1, 0⟩

def past (position : Position) (c : Char) : Position :=
  if c = '\n' then ⟨position.line + 1, 0⟩
  else ⟨position.line, position.column + c.utf8Size⟩

/-- The place a number of bytes further on in a text, but not past its end. -/
def pastBytes (position : Position) : Nat → List Char → Position
  | _, [] => position
  | bytes, c :: rest =>
    if c.utf8Size ≤ bytes then (position.past c).pastBytes (bytes - c.utf8Size) rest
    else ⟨position.line, position.column + bytes⟩

end Position

structure Fault where
  cause : Cause
  rest : List Char
  ahead : Nat
  /-- Whether the fault is reported here. A fault of meaning is not: it is reported where the
  value around it ends. -/
  placed : Bool

/-- The place of a fault that was noticed while `text` was read. -/
def Fault.position (text : List Char) (fault : Fault) : Position :=
  let read := text.take (text.length - fault.rest.length)
  (read.foldl Position.past Position.start).pastBytes fault.ahead fault.rest

end Retry.Json
