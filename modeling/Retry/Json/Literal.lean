import Retry.Json.Reader

/-!
# Strings of JSON texts

A string runs to the next quote that is not escaped. Characters outside the basic plane may be
written as a pair of escapes, a high and a low surrogate; neither half may stand alone.
-/

namespace Retry.Json

def hexValue? (c : Char) : Option Nat :=
  if c.isDigit then some (c.toNat - '0'.toNat)
  else if 'a' ≤ c ∧ c ≤ 'f' then some (c.toNat - 'a'.toNat + 10)
  else if 'A' ≤ c ∧ c ≤ 'F' then some (c.toNat - 'A'.toNat + 10)
  else none

def hexNumber? (digits : List Char) : Option Nat :=
  digits.foldlM (fun number c => (hexValue? c).map (number * 16 + ·)) 0

def isHighSurrogate (code : Nat) : Bool := 0xD800 ≤ code && code ≤ 0xDBFF

def isLowSurrogate (code : Nat) : Bool := 0xDC00 ≤ code && code ≤ 0xDFFF

/-- The character that a pair of surrogates stands for. -/
def ofSurrogates (high low : Nat) : Char :=
  Char.ofNat (0x10000 + (high - 0xD800) * 0x400 + (low - 0xDC00))

namespace Reader

/-- The four digits of an escaped code. They are looked for in the next four bytes. -/
def escapedCode : Reader Nat := fun rest =>
  if (String.ofList (rest.take 4)).utf8ByteSize < 4 then
    .error { cause := .endOfString, rest := [], ahead := 0, placed := true }
  else
    match hexNumber? (rest.take 4) with
    | some code => .ok (code, rest.drop 4)
    | none => .error { cause := .invalidEscape, rest := rest, ahead := 4, placed := true }

/-- A character that must come next inside a pair of escapes. -/
def pairMark (mark : Char) : Reader Unit := do
  match ← peek with
  | none => fail .endOfString
  | some c => if c = mark then skip else failAhead .unpairedEscape

/-- The character of an escaped code, or of a pair of them. -/
def escapedCharacter : Reader Char := do
  let code ← escapedCode
  if isLowSurrogate code then fail .loneSurrogate
  else if isHighSurrogate code then
    pairMark '\\'
    pairMark 'u'
    let low ← escapedCode
    if isLowSurrogate low then return ofSurrogates code low else fail .loneSurrogate
  else return Char.ofNat code

def escape : Reader Char := do
  match ← peek with
  | none => fail .endOfString
  | some c =>
    let short : Option Char :=
      match c with
      | '"' => some '"'
      | '\\' => some '\\'
      | '/' => some '/'
      | 'b' => some '\x08'
      | 'f' => some '\x0c'
      | 'n' => some '\n'
      | 'r' => some '\r'
      | 't' => some '\t'
      | _ => none
    match short with
    | some character =>
      skip
      return character
    | none =>
      if c = 'u' then
        skip
        escapedCharacter
      else failAhead .invalidEscape

/-- The characters up to the closing quote, at most `fuel` of them. -/
def characters : Nat → Reader (List Char)
  | 0 => fail .endOfString
  | fuel + 1 => do
    match ← peek with
    | none => fail .endOfString
    | some c =>
      if c = '"' then
        skip
        return []
      else if c = '\\' then
        skip
        let character ← escape
        return character :: (← characters fuel)
      else if c.toNat < 32 then failAhead .controlCharacter
      else
        skip
        return c :: (← characters fuel)

def string : Reader String := do
  skip
  let rest ← get
  return String.ofList (← characters (rest.length + 1))

end Reader

end Retry.Json
