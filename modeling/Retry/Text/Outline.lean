import Retry.Decimal.Layout
import Retry.Span.Text

/-!
# Outlines of values

An outline is the shape of a value as it is shown to a reader: named groups of labelled parts.
It has two renderings with the same words: on one line, or with every part of a group on a line
of its own, indented by four spaces and followed by a comma.
-/

namespace Retry

inductive Brackets where
  | braces
  | parentheses
  | square
deriving DecidableEq

inductive Outline where
  | word (text : String)
  | labelled (label : String) (part : Outline)
  | group (name : String) (brackets : Brackets) (parts : List Outline)

namespace Brackets

/-- The opening bracket, parted from the name of the group as its kind asks. -/
def opening : Brackets → String
  | .braces => " \x7b"
  | .parentheses => "("
  | .square => "["

def closing : Brackets → String
  | .braces => "\x7d"
  | .parentheses => ")"
  | .square => "]"

/-- What stands inside the brackets of a group on one line. -/
def padding : Brackets → String
  | .braces => " "
  | _ => ""

end Brackets

namespace Outline

def record (name : String) (fields : List (String × Outline)) : Outline :=
  .group name .braces (fields.map fun field => .labelled field.1 field.2)

def tuple (name : String) (parts : List Outline) : Outline := .group name .parentheses parts

def list (parts : List Outline) : Outline := .group "" .square parts

def optional : Option Outline → Outline
  | none => .word "None"
  | some part => .tuple "Some" [part]

def ofNat (n : Nat) : Outline := .word (toString n)

def ofInt (n : Int) : Outline := .word (toString n)

def ofBool (b : Bool) : Outline := .word (if b then "true" else "false")

def ofSpan (span : Span) : Outline := .word span.text

/-- Numbers are shown with at least one fraction digit, positionally from `10^-4` up to below
`10^16`. -/
def numberLayout : Decimal.Layout where
  positional leading := -4 ≤ leading ∧ leading < 16
  wholeFraction := true
  exponentSign := ""
  tie := .up
  undefined := "NaN"
  infinite := "inf"

def ofNumber (number : Binary64) : Outline := .word (number.text numberLayout)

mutual

def inline : Outline → String
  | .word text => text
  | .labelled label part => label ++ ": " ++ part.inline
  | .group name brackets parts =>
    name ++ brackets.opening ++ brackets.padding ++ ", ".intercalate (inlineParts parts)
      ++ brackets.padding ++ brackets.closing

def inlineParts : List Outline → List String
  | [] => []
  | part :: rest => part.inline :: inlineParts rest

end

/-- The blanks at the start of a line of the given depth. -/
def margin (depth : Nat) : String := String.ofList (List.replicate (4 * depth) ' ')

mutual

/-- The outline with one part on each line; `depth` is that of its last line. -/
def indentedAt (depth : Nat) : Outline → String
  | .word text => text
  | .labelled label part => label ++ ": " ++ part.indentedAt depth
  | .group name brackets parts =>
    if parts.isEmpty then name ++ brackets.opening ++ brackets.closing
    else
      name ++ brackets.opening ++ "\n" ++ String.join (indentedParts (depth + 1) parts)
        ++ margin depth ++ brackets.closing

/-- The parts of a group, each as a line of the given depth. -/
def indentedParts (depth : Nat) : List Outline → List String
  | [] => []
  | part :: rest =>
    (margin depth ++ part.indentedAt depth ++ ",\n") :: indentedParts depth rest

end

def indented (outline : Outline) : String := outline.indentedAt 0

end Outline

end Retry
