import Retry.Json.Document

/-!
# JSON texts as they are written

A JSON text is a row of tokens with blanks before, between and behind them. `Tree` is a value
together with the spelling of its strings and numbers, `Tree.tokens` is the row that it is written
as, and `Tree.Spells` says that a text is this row with some blanks. Two texts of one tree differ in
nothing but blanks.

Not every tree has a value. A number may be too large, half of a surrogate pair may be missing, or
more containers may be open than a reader takes; `Tree.value?` says which tree has which value.
-/

namespace Retry.Json

/-! ### Strings -/

/-- The letters of the short escapes, each with the character that it stands for. -/
def shortEscapes : List (Char × Char) :=
  [('"', '"'), ('\\', '\\'), ('/', '/'), ('b', '\x08'), ('f', '\x0c'), ('n', '\n'), ('r', '\r'),
    ('t', '\t')]

/-- What stands for one code point between quotes, or for one half of a surrogate pair. -/
inductive Glyph where
  | plain (c : Char) (h : c ≠ '"' ∧ c ≠ '\\' ∧ 32 ≤ c.toNat)
  | short (letter c : Char) (h : (letter, c) ∈ shortEscapes)
  | code (digits : List Char) (code : Nat) (h : digits.length = 4 ∧ hexNumber? digits = some code)

def Glyph.chars : Glyph → List Char
  | .plain c _ => [c]
  | .short letter _ _ => ['\\', letter]
  | .code digits _ _ => '\\' :: 'u' :: digits

structure Spelling where
  glyphs : List Glyph

namespace Spelling

def chars (spelling : Spelling) : List Char :=
  '"' :: spelling.glyphs.flatMap Glyph.chars ++ ['"']

/-- The characters that glyphs stand for. A high surrogate takes the low one after it along. -/
def characters? : List Glyph → Option (List Char)
  | [] => some []
  | .plain c _ :: rest => (characters? rest).map (c :: ·)
  | .short _ c _ :: rest => (characters? rest).map (c :: ·)
  | .code _ high _ :: rest =>
    if isLowSurrogate high then none
    else if isHighSurrogate high then
      match rest with
      | .code _ low _ :: rest =>
        if isLowSurrogate low then (characters? rest).map (ofSurrogates high low :: ·) else none
      | _ => none
    else (characters? rest).map (Char.ofNat high :: ·)

def text? (spelling : Spelling) : Option String :=
  (characters? spelling.glyphs).map String.ofList

end Spelling

/-! ### Numbers -/

structure IsDigits (digits : List Char) : Prop where
  ne_nil : digits ≠ []
  isDigit : ∀ c ∈ digits, c.isDigit = true

/-- The exponent of a number as it is written, from its mark on. -/
structure Exponent where
  mark : Char
  sign : Option Char
  digits : List Char
  mark_eq : mark = 'e' ∨ mark = 'E'
  sign_eq : ∀ c ∈ sign, c = '+' ∨ c = '-'
  isDigits : IsDigits digits

/-- A number as it is written. Of several integer digits the first is not a zero. -/
structure Numeral where
  negative : Bool
  whole : List Char
  fraction : Option (List Char)
  exponent : Option Exponent
  whole_isDigits : IsDigits whole
  whole_canonical : whole.head? = some '0' → whole.length = 1
  fraction_isDigits : ∀ digits ∈ fraction, IsDigits digits

def Exponent.chars (exponent : Exponent) : List Char :=
  exponent.mark :: (exponent.sign.toList ++ exponent.digits)

/-- The number with the given sign that a significand and an exponent make with a written exponent.
One beyond 32 bits makes a number too large, or zero. -/
def Exponent.value? (exponent : Exponent) (negative : Bool) (significand : Nat) (scale : Int) :
    Option Binary64 :=
  let (value, surplus) := absorb Reader.exponentBound 0 exponent.digits
  let down := exponent.sign = some '-'
  if surplus.isEmpty then
    let total := if down then scale - value else scale + value
    floatOf negative significand (Reader.clampExponent total)
  else if significand ≠ 0 ∧ !down then none
  else floatOf negative 0 0

namespace Numeral

def fractionChars (numeral : Numeral) : List Char :=
  match numeral.fraction with
  | none => []
  | some digits => '.' :: digits

def exponentChars (numeral : Numeral) : List Char :=
  match numeral.exponent with
  | none => []
  | some exponent => exponent.chars

def chars (numeral : Numeral) : List Char :=
  (if numeral.negative then ['-'] else [])
    ++ (numeral.whole ++ (numeral.fractionChars ++ numeral.exponentChars))

/-- The significand of the digits, and the exponent that goes with it where none is written. -/
def parts (numeral : Numeral) : Nat × Int :=
  let (whole, surplus) := absorb UInt64.size 0 numeral.whole
  match numeral.fraction with
  | none => (whole, surplus.length)
  | some digits =>
    let (significand, left) := absorb UInt64.size whole digits
    (significand, surplus.length - (digits.length - left.length))

/-- The number of double precision that a significand and an exponent make with the exponent that is
written, if it is not too large. -/
def float? (numeral : Numeral) (significand : Nat) (scale : Int) : Option Binary64 :=
  match numeral.exponent with
  | some exponent => exponent.value? numeral.negative significand scale
  | none => floatOf numeral.negative significand scale

/-- The value of a number, if it is not too large. Integers of 64 bits are exact. -/
def value? (numeral : Numeral) : Option Number :=
  let (significand, scale) := numeral.parts
  if numeral.fraction.isNone ∧ numeral.exponent.isNone ∧ scale = 0 then
    some (integerOf numeral.negative significand)
  else (numeral.float? significand scale).map .float

end Numeral

/-! ### Tokens -/

inductive Token where
  | openArray
  | closeArray
  | openObject
  | closeObject
  | comma
  | colon
  | null
  | boolean (value : Bool)
  | number (numeral : Numeral)
  | text (spelling : Spelling)

def Token.chars : Token → List Char
  | .openArray => ['[']
  | .closeArray => [']']
  | .openObject => ['\x7b']
  | .closeObject => ['\x7d']
  | .comma => [',']
  | .colon => [':']
  | .null => ['n', 'u', 'l', 'l']
  | .boolean true => ['t', 'r', 'u', 'e']
  | .boolean false => ['f', 'a', 'l', 's', 'e']
  | .number numeral => numeral.chars
  | .text spelling => spelling.chars

def Blanks (text : List Char) : Prop := ∀ c ∈ text, Reader.isBlank c = true

/-- A text that consists of tokens, with any blanks around each of them. -/
def Spaced : List Token → List Char → Prop
  | [], text => Blanks text
  | token :: tokens, text =>
    ∃ gap left, Blanks gap ∧ Spaced tokens left ∧ text = gap ++ (token.chars ++ left)

/-! ### Trees -/

/-- A value as it is written, its blanks apart. -/
inductive Tree where
  | null
  | boolean (value : Bool)
  | number (numeral : Numeral)
  | text (spelling : Spelling)
  | array (elements : List Tree)
  | object (members : List (Spelling × Tree))

namespace Tree

mutual

def tokens : Tree → List Token
  | .null => [.null]
  | .boolean value => [.boolean value]
  | .number numeral => [.number numeral]
  | .text spelling => [.text spelling]
  | .array elements =>
    .openArray :: ([.comma].intercalate (elementTokens elements) ++ [.closeArray])
  | .object members =>
    .openObject :: ([.comma].intercalate (memberTokens members) ++ [.closeObject])

def elementTokens : List Tree → List (List Token)
  | [] => []
  | element :: rest => element.tokens :: elementTokens rest

def memberTokens : List (Spelling × Tree) → List (List Token)
  | [] => []
  | (key, value) :: rest => (.text key :: .colon :: value.tokens) :: memberTokens rest

end

/-- A text that writes a value, with any blanks between its tokens. -/
def Spells (tree : Tree) (text : String) : Prop := Spaced tree.tokens text.toList

mutual

/-- The value of a tree, if it has one for a reader that opens at most `depth` containers. -/
def value? (depth : Nat) : Tree → Option Value
  | .null => some .null
  | .boolean value => some (.boolean value)
  | .number numeral => numeral.value?.map .number
  | .text spelling => spelling.text?.map .text
  | .array elements =>
    match depth with
    | 0 => none
    | depth + 1 => (elementValues? depth elements).map .array
  | .object members =>
    match depth with
    | 0 => none
    | depth + 1 => (memberValues? depth members).map .object

def elementValues? (depth : Nat) : List Tree → Option (List Value)
  | [] => some []
  | element :: rest => do
    let value ← element.value? depth
    return value :: (← elementValues? depth rest)

def memberValues? (depth : Nat) : List (Spelling × Tree) → Option (List (String × Value))
  | [] => some []
  | (key, tree) :: rest => do
    let name ← key.text?
    let value ← tree.value? depth
    return (name, value) :: (← memberValues? depth rest)

end

end Tree

end Retry.Json
