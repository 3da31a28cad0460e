import Retry.Json.Fault

/-!
# Readers of JSON

A reader takes characters from the front of what is left of a text, or fails with a fault. This
module holds what all readers share: blanks, single characters, and the brackets, commas and
colons of arrays and objects.
-/

namespace Retry.Json

abbrev Reader := StateT (List Char) (Except Fault)

namespace Reader

def fail (cause : Cause) : Reader α := fun rest =>
  .error { cause := cause, rest := rest, ahead := 0, placed := true }

/-- A fault that counts the first byte of the next character as read, if there is one. -/
def failAhead (cause : Cause) : Reader α := fun rest =>
  .error { cause := cause, rest := rest, ahead := 1, placed := true }

/-- A fault of meaning. Its place is settled by the value around it. -/
def failMeaning (cause : Cause) : Reader α := fun rest =>
  .error { cause := cause, rest := rest, ahead := 0, placed := false }

def ofExcept (result : Except Cause α) : Reader α :=
  match result with
  | .ok value => pure value
  | .error cause => failMeaning cause

def placed (reader : Reader α) : Reader α := fun rest =>
  match reader rest with
  | .ok result => .ok result
  | .error fault => .error { fault with placed := true }

def peek : Reader (Option Char) := fun rest => .ok (rest.head?, rest)

def skip : Reader Unit := fun rest => .ok ((), rest.drop 1)

def isBlank (c : Char) : Bool := c = ' ' || c = '\n' || c = '\t' || c = '\r'

/-- Leaves out blanks and peeks at the character after them. -/
def peekToken : Reader (Option Char) := fun rest =>
  let rest := rest.dropWhile isBlank
  .ok (rest.head?, rest)

/-- Reads the rest of a word of which the first letter has been read. -/
def word : List Char → Reader Unit
  | [] => pure ()
  | letter :: letters => do
    match ← peek with
    | none => fail .endOfValue
    | some c =>
      if c = letter then
        skip
        word letters
      else failAhead .wordExpected

/-- Whether an array goes on with another element, which then comes next. -/
def hasElement (first : Bool) : Reader Bool := do
  match ← peekToken with
  | none => failAhead .endOfList
  | some c =>
    if c = ']' then return false
    else if first then return true
    else if c = ',' then
      skip
      match ← peekToken with
      | none => failAhead .endOfValue
      | some c => if c = ']' then failAhead .trailingComma else return true
    else failAhead .elementEndExpected

/-- Whether an object goes on with another member, whose key then comes next. -/
def hasMember (first : Bool) : Reader Bool := do
  match ← peekToken with
  | none => failAhead .endOfObject
  | some c =>
    if c = '\x7d' then return false
    else if first then
      if c = '"' then return true else failAhead .keyNotString
    else if c = ',' then
      skip
      match ← peekToken with
      | none => failAhead .endOfValue
      | some c =>
        if c = '"' then return true
        else if c = '\x7d' then failAhead .trailingComma
        else failAhead .keyNotString
    else failAhead .memberEndExpected

def colon : Reader Unit := do
  match ← peekToken with
  | none => failAhead .endOfObject
  | some c => if c = ':' then skip else failAhead .colonExpected

def closeArray : Reader Unit := do
  match ← peekToken with
  | none => failAhead .endOfList
  | some c =>
    if c = ']' then skip
    else if c = ',' then
      skip
      match ← peekToken with
      | some ']' => failAhead .trailingComma
      | _ => failAhead .trailingCharacters
    else failAhead .trailingCharacters

def closeObject : Reader Unit := do
  match ← peekToken with
  | none => failAhead .endOfObject
  | some c =>
    if c = '\x7d' then skip
    else if c = ',' then failAhead .trailingComma
    else failAhead .trailingCharacters

/-- What stands between two brackets. The closing one is looked for even after a fault of meaning,
and the fault is reported behind it. -/
def enclosed (body : Reader α) (close : Reader Unit) : Reader α := fun rest =>
  match body rest with
  | .ok (value, rest) =>
    match close rest with
    | .ok ((), rest) => .ok (value, rest)
    | .error fault => .error fault
  | .error fault =>
    if fault.placed then .error fault
    else
      let rest :=
        match close fault.rest with
        | .ok ((), rest) => rest
        | .error closing => closing.rest
      .error { fault with rest := rest, placed := true }

/-- Opens a container at its bracket, if `depth` more containers may be open, and reads it with the
depth that is left. -/
def nested (depth : Nat) (body : Nat → Reader α) : Reader α :=
  match depth with
  | 0 => failAhead .tooDeep
  | depth + 1 => do
    skip
    body depth

end Reader

end Retry.Json
