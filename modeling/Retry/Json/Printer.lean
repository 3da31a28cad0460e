import Retry.Decimal.Layout
import Retry.Json.Value

/-!
# JSON values as text

A value has a compact text without blanks, and an indented one with every element and member on a
line of its own. A number that is not finite is written as `null`.
-/

namespace Retry.Json

/-- Numbers are written with at least one fraction digit, positionally from `10^-5` up to below
`10^16`. -/
def numberLayout : Decimal.Layout where
  positional leading := -5 ≤ leading ∧ leading < 16
  wholeFraction := true
  exponentSign := "+"
  tie := .even
  undefined := "null"
  infinite := "null"

def Number.text : Number → String
  | .integer value => toString value
  | .float value => if value.isFinite then value.text numberLayout else "null"

/-- The four digits of a code point below `16^4`. -/
def escapeDigits (code : Nat) : List Char :=
  let digits := Nat.toDigits 16 code
  List.replicate (4 - digits.length) '0' ++ digits

/-- A character as it stands inside a string: quotes, backslashes and control characters are
escaped. -/
def escaped (c : Char) : List Char :=
  match c with
  | '"' => ['\\', '"']
  | '\\' => ['\\', '\\']
  | '\x08' => ['\\', 'b']
  | '\x0c' => ['\\', 'f']
  | '\n' => ['\\', 'n']
  | '\r' => ['\\', 'r']
  | '\t' => ['\\', 't']
  | _ => if c.toNat < 32 then ['\\', 'u'] ++ escapeDigits c.toNat else [c]

def quoted (text : String) : String :=
  String.ofList ('"' :: text.toList.flatMap escaped ++ ['"'])

def boolText (value : Bool) : String := if value then "true" else "false"

namespace Value

mutual

def compact : Value → String
  | .null => "null"
  | .boolean value => boolText value
  | .number value => value.text
  | .text value => quoted value
  | .array elements => "[" ++ ",".intercalate (compactElements elements) ++ "]"
  | .object members => "\x7b" ++ ",".intercalate (compactMembers members) ++ "\x7d"

def compactElements : List Value → List String
  | [] => []
  | element :: rest => element.compact :: compactElements rest

def compactMembers : List (String × Value) → List String
  | [] => []
  | (name, value) :: rest => (quoted name ++ ":" ++ value.compact) :: compactMembers rest

end

/-- The blanks at the start of a line of the given depth. -/
def margin (depth : Nat) : String := String.ofList (List.replicate (2 * depth) ' ')

def block (depth : Nat) (opening closing : String) (parts : List String) : String :=
  if parts.isEmpty then opening ++ closing
  else
    opening ++ "\n" ++ ",\n".intercalate (parts.map (margin (depth + 1) ++ ·)) ++ "\n"
      ++ margin depth ++ closing

mutual

/-- The text with one part on each line; `depth` is that of its last line. -/
def indentedAt (depth : Nat) : Value → String
  | .null => "null"
  | .boolean value => boolText value
  | .number value => value.text
  | .text value => quoted value
  | .array elements => block depth "[" "]" (indentedElements (depth + 1) elements)
  | .object members => block depth "\x7b" "\x7d" (indentedMembers (depth + 1) members)

def indentedElements (depth : Nat) : List Value → List String
  | [] => []
  | element :: rest => element.indentedAt depth :: indentedElements depth rest

def indentedMembers (depth : Nat) : List (String × Value) → List String
  | [] => []
  | (name, value) :: rest =>
    (quoted name ++ ": " ++ value.indentedAt depth) :: indentedMembers depth rest

end

def indented (value : Value) : String := value.indentedAt 0

end Value

end Retry.Json
