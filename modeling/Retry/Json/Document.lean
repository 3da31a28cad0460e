import Retry.Json.Literal
import Retry.Json.Numeral

/-!
# Whole JSON values

`Reader.value` reads any value. Arrays and objects are read by loops that other readers share:
`elements` collects what a reader gives for each element, `foldMembers` passes a state from member
to member.
-/

namespace Retry.Json

def depthLimit : Nat := 127

namespace Reader

/-- The elements of an array from the next one on, at most `fuel` of them. -/
def elementsFrom (element : Reader α) : Nat → Bool → Reader (List α)
  | 0, _ => fail .endOfList
  | fuel + 1, first => do
    if ← hasElement first then
      let value ← element
      return value :: (← elementsFrom element fuel false)
    else return []

/-- The elements of an array up to its closing bracket. If there is one before, `first` is false. -/
def elements (element : Reader α) (first : Bool) : Reader (List α) := do
  elementsFrom element ((← get).length + 1) first

/-- Passes a state through the members of an object from the next one on, at most `fuel` of them.
The step is given the key and reads from the colon on. -/
def foldMembersFrom (step : σ → String → Reader σ) : Nat → Bool → σ → Reader σ
  | 0, _, _ => fail .endOfObject
  | fuel + 1, first, state => do
    if ← hasMember first then
      let key ← string
      let state ← step state key
      foldMembersFrom step fuel false state
    else return state

/-- Passes a state through the members of an object up to its closing bracket. -/
def foldMembers (step : σ → String → Reader σ) (state : σ) : Reader σ := do
  foldMembersFrom step ((← get).length + 1) true state

/-- The members of an object, each value read by `value`. -/
def members (value : Reader α) : Reader (List (String × α)) := do
  let reversed ← foldMembers (fun members key => do
    colon
    return (key, ← value) :: members) []
  return reversed.reverse

/-- A value that is no container, if `first` is its first character. -/
def scalar (first : Char) : Reader Value := do
  if first = 'n' then
    skip
    word ['u', 'l', 'l']
    return .null
  else if first = 't' then
    skip
    word ['r', 'u', 'e']
    return .boolean true
  else if first = 'f' then
    skip
    word ['a', 'l', 's', 'e']
    return .boolean false
  else if first = '-' ∨ first.isDigit then return .number (← number)
  else if first = '"' then return .text (← string)
  else failAhead .valueExpected

/-- Any value, while `depth` more containers may be open. -/
def value : Nat → Reader Value
  | 0 => do
    match ← peekToken with
    | none => failAhead .endOfValue
    | some '[' => failAhead .tooDeep
    | some '\x7b' => failAhead .tooDeep
    | some first => scalar first
  | depth + 1 => do
    match ← peekToken with
    | none => failAhead .endOfValue
    | some '[' =>
      skip
      return .array (← enclosed (elements (value depth) true) closeArray)
    | some '\x7b' =>
      skip
      return .object (← enclosed (members (value depth)) closeObject)
    | some first => scalar first

/-- Reports a value that was not wanted. Of an array or object nothing is read. -/
def mismatch (wanted : String) (first : Char) : Reader α := do
  if first = '[' then fail (.wrongType .sequence wanted)
  else if first = '\x7b' then fail (.wrongType .map wanted)
  else
    let value ← scalar first
    fail (.wrongType value.found wanted)

def checkedNumber (wanted : String) (check : Number → Except Cause α) : Reader α := do
  match ← peekToken with
  | none => failAhead .endOfValue
  | some first =>
    if first = '-' ∨ first.isDigit then
      let number ← number
      (ofExcept (check number)).placed
    else mismatch wanted first

/-- `true` or `false`. -/
def boolean (wanted : String) : Reader Bool := do
  match ← peekToken with
  | none => failAhead .endOfValue
  | some first =>
    if first = 't' then
      skip
      word ['r', 'u', 'e']
      return true
    else if first = 'f' then
      skip
      word ['a', 'l', 's', 'e']
      return false
    else mismatch wanted first

def checkedString (wanted : String) (check : String → Except Cause α) : Reader α := do
  match ← peekToken with
  | none => failAhead .endOfValue
  | some first =>
    if first = '"' then
      let text ← string
      (ofExcept (check text)).placed
    else mismatch wanted first

/-- Either `null` or what another reader reads. -/
def nullable (reader : Reader α) : Reader (Option α) := do
  match ← peekToken with
  | some 'n' =>
    skip
    word ['u', 'l', 'l']
    return none
  | _ => return some (← reader)

def finish : Reader Unit := do
  match ← peekToken with
  | none => return ()
  | some _ => failAhead .trailingCharacters

end Reader

structure ReadError where
  cause : Cause
  position : Position
deriving DecidableEq

def ReadError.message (error : ReadError) : String :=
  error.cause.message ++ " at line " ++ toString error.position.line ++ " column "
    ++ toString error.position.column

def readAll (reader : Reader α) (text : List Char) : Except ReadError α :=
  let whole : Reader α := do
    let value ← reader
    Reader.finish
    return value
  match whole text with
  | .ok (value, _) => .ok value
  | .error fault => .error { cause := fault.cause, position := fault.position text }

def Value.ofText? (text : String) : Except ReadError Value :=
  readAll (Reader.value depthLimit) text.toList

end Retry.Json
