import Retry.Json.Document
import Retry.Settings.Names

/-!
# Reading settings

Settings are read from a JSON object, or from an array with their values in order. A member that
is absent has its default; one that is unknown or repeated is refused.

The object of a backoff is read to its end before its members are looked at, since the member that
tells its kind may come last. What its other members say is checked then (`BackoffContent.decode`),
and what its kind does not ask for is ignored.
-/

namespace Retry

open Json

/-! ### The contents of a backoff -/

inductive BackoffContent where
  | object (members : List (String × Value))
  | array (elements : List Value)

namespace BackoffContent

/-- An integer of 64 bits without a sign. -/
def decodeNatural : Value → Except Cause UInt64
  | .number (.integer value) =>
    if 0 ≤ value then .ok (UInt64.ofNat value.toNat) else .error (.integerOutOfRange value "u64")
  | value => .error (.wrongType value.found "u64")

/-- A number of double precision. An integer is taken as the nearest one. -/
def decodeFloat : Value → Except Cause Binary64
  | .number (.integer value) =>
    .ok (if value < 0 then -Binary64.ofNat value.natAbs else Binary64.ofNat value.natAbs)
  | .number (.float value) => .ok value
  | value => .error (.wrongType value.found "f64")

/-- The value of a member that has not been set before. -/
def setOnce (field : BackoffField) (slot : Option α) (decode : Value → Except Cause α)
    (value : Value) : Except Cause (Option α) :=
  if slot.isSome then .error (.repeatedField field.name) else (decode value).map some

def demand (field : BackoffField) (slot : Option α) : Except Cause α :=
  match slot with
  | some value => .ok value
  | none => .error (.missingField field.name)

def fixedMember (interval : Option UInt64) (member : String × Value) :
    Except Cause (Option UInt64) :=
  if member.1 = BackoffField.intervalMs.name then
    setOnce .intervalMs interval decodeNatural member.2
  else .ok interval

structure ExponentialDraft where
  initialMs : Option UInt64 := none
  multiplier : Option Binary64 := none
  maxMs : Option UInt64 := none

def exponentialMember (draft : ExponentialDraft) (member : String × Value) :
    Except Cause ExponentialDraft :=
  if member.1 = BackoffField.initialMs.name then do
    return { draft with
      initialMs := ← setOnce .initialMs draft.initialMs decodeNatural member.2 }
  else if member.1 = BackoffField.multiplier.name then do
    return { draft with
      multiplier := ← setOnce .multiplier draft.multiplier decodeFloat member.2 }
  else if member.1 = BackoffField.maxMs.name then do
    return { draft with maxMs := ← setOnce .maxMs draft.maxMs decodeNatural member.2 }
  else .ok draft

def tooFew (kind : String) (count : String) : String :=
  "struct variant BackoffConfig::" ++ kind ++ " with " ++ count

/-- Refuses elements that are left over after `used` ones. -/
def noMore (used : Nat) (rest : List Value) (wanted : String) : Except Cause Unit :=
  if rest.isEmpty then .ok ()
  else .error (.wrongLength (used + rest.length) (wanted ++ " in sequence"))

def fixedOfElements : List Value → Except Cause BackoffSettings
  | [] => .error (.wrongLength 0 (tooFew "Fixed" "1 element"))
  | interval :: rest => do
    let interval ← decodeNatural interval
    noMore 1 rest "1 element"
    return .fixed interval

/-- An exponential backoff from the elements of an array. -/
def exponentialOfElements (elements : List Value) : Except Cause BackoffSettings := do
  let short (count : Nat) : Cause := .wrongLength count (tooFew "Exponential" "3 elements")
  let initial ←
    match elements[0]? with
    | some value => decodeNatural value
    | none => .error (short 0)
  let multiplier ←
    match elements[1]? with
    | some value => decodeFloat value
    | none => .error (short 1)
  let maximum ←
    match elements[2]? with
    | some value => decodeNatural value
    | none => .error (short 2)
  noMore 3 (elements.drop 3) "3 elements"
  return .exponential initial multiplier maximum

/-- The settings of a backoff of a kind. The first fault in the order of the members counts, then
the first member that is missing. -/
def decode : BackoffKind → BackoffContent → Except Cause BackoffSettings
  | .none, .object _ => .ok .none
  | .none, .array elements => do
    noMore 0 elements "0 elements"
    return .none
  | .fixed, .object members => do
    let interval ← members.foldlM fixedMember none
    return .fixed (← demand .intervalMs interval)
  | .fixed, .array elements => fixedOfElements elements
  | .exponential, .object members => do
    let draft ← members.foldlM exponentialMember {}
    let initial ← demand .initialMs draft.initialMs
    let multiplier ← demand .multiplier draft.multiplier
    let maximum ← demand .maxMs draft.maxMs
    return .exponential initial multiplier maximum
  | .exponential, .array elements => exponentialOfElements elements

end BackoffContent

/-! ### Readers of the parts -/

namespace Settings

def readKind : Reader BackoffKind :=
  Reader.checkedString "variant identifier" fun name =>
    match BackoffKind.ofName? name with
    | some kind => .ok kind
    | none => .error (.unknownVariant name (BackoffKind.all.map BackoffKind.name))

structure BackoffDraft where
  kind : Option BackoffKind := none
  reversed : List (String × Value) := []

def readBackoffMember (depth : Nat) (draft : BackoffDraft) (key : String) :
    Reader BackoffDraft := do
  if key = kindKey then
    if draft.kind.isSome then Reader.failMeaning (.repeatedField kindKey)
    else
      Reader.colon
      return { draft with kind := some (← readKind) }
  else
    Reader.colon
    return { draft with reversed := (key, ← Reader.value depth) :: draft.reversed }

def readBackoffObject (depth : Nat) : Reader (BackoffKind × BackoffContent) := do
  let draft ← Reader.foldMembers (readBackoffMember depth) {}
  match draft.kind with
  | none => Reader.failMeaning (.missingField kindKey)
  | some kind => return (kind, .object draft.reversed.reverse)

def readBackoffArray (depth : Nat) : Reader (BackoffKind × BackoffContent) := do
  if ← Reader.hasElement true then
    let kind ← readKind
    return (kind, .array (← Reader.elements (Reader.value depth) false))
  else Reader.failMeaning (.missingField kindKey)

def readBackoff (depth : Nat) : Reader BackoffSettings := do
  match ← Reader.peekToken with
  | none => Reader.failAhead .endOfValue
  | some first =>
    if first = '[' then
      let (kind, content) ← Reader.nested depth fun depth =>
        Reader.enclosed (readBackoffArray depth) Reader.closeArray
      Reader.ofExcept (content.decode kind)
    else if first = '\x7b' then
      let (kind, content) ← Reader.nested depth fun depth =>
        Reader.enclosed (readBackoffObject depth) Reader.closeObject
      Reader.ofExcept (content.decode kind)
    else Reader.mismatch "internally tagged enum BackoffConfig" first

/-- An integer of 64 bits. -/
def readInteger : Reader Int64 :=
  Reader.checkedNumber "i64" fun number =>
    match number with
    | .integer value =>
      if value ≤ Int64.maxValue.toInt then .ok (Int64.ofInt value)
      else .error (.integerOutOfRange value "i64")
    | .float _ => .error (.wrongType (.number number) "i64")

def readBoolean : Reader Bool := Reader.boolean "a boolean"

/-! ### Whole settings -/

structure Draft where
  maxAttempts : Option Int64 := none
  maxDurationMs : Option (Option Int64) := none
  backoff : Option BackoffSettings := none
  jitter : Option Bool := none

/-- The settings that a draft makes, with defaults for what is absent. -/
def Draft.settings (draft : Draft) : Settings :=
  let defaults : Settings := {}
  { maxAttempts := draft.maxAttempts.getD defaults.maxAttempts
    maxDurationMs := draft.maxDurationMs.getD defaults.maxDurationMs
    backoff := draft.backoff.getD defaults.backoff
    jitter := draft.jitter.getD defaults.jitter }

def Draft.has (draft : Draft) : SettingsField → Bool
  | .maxAttempts => draft.maxAttempts.isSome
  | .maxDurationMs => draft.maxDurationMs.isSome
  | .backoff => draft.backoff.isSome
  | .jitter => draft.jitter.isSome

def readField (depth : Nat) (draft : Draft) : SettingsField → Reader Draft
  | .maxAttempts => do return { draft with maxAttempts := some (← readInteger) }
  | .maxDurationMs => do
    return { draft with maxDurationMs := some (← Reader.nullable readInteger) }
  | .backoff => do return { draft with backoff := some (← readBackoff depth) }
  | .jitter => do return { draft with jitter := some (← readBoolean) }

def readMember (depth : Nat) (draft : Draft) (key : String) : Reader Draft :=
  match SettingsField.ofName? key with
  | none =>
    Reader.failMeaning (.unknownField key (SettingsField.all.map SettingsField.name))
  | some field => do
    if draft.has field then Reader.failMeaning (.repeatedField field.name)
    else
      Reader.colon
      readField depth draft field

/-- The elements of the array of settings, which may end early. -/
def readElements (depth : Nat) : List SettingsField → Bool → Draft → Reader Draft
  | [], _, draft => return draft
  | field :: fields, first, draft => do
    if ← Reader.hasElement first then
      readElements depth fields false (← readField depth draft field)
    else return draft

/-- Reads settings while `depth` more containers may be open. -/
def read (depth : Nat) : Reader Settings := do
  match ← Reader.peekToken with
  | none => Reader.failAhead .endOfValue
  | some first =>
    if first = '[' then
      let draft ← Reader.nested depth fun depth =>
        Reader.enclosed (readElements depth SettingsField.all true {}) Reader.closeArray
      return draft.settings
    else if first = '\x7b' then
      let draft ← Reader.nested depth fun depth =>
        Reader.enclosed (Reader.foldMembers (readMember depth) {}) Reader.closeObject
      return draft.settings
    else Reader.mismatch "struct RetryConfig" first

def ofText? (text : String) : Except ReadError Settings :=
  readAll (read depthLimit) text.toList

end Settings

/-- The whole message about settings that cannot be read. -/
def settingsMessage (error : ReadError) : String :=
  "Failed to parse retry configuration: " ++ error.message

/-- The error about settings that cannot be read as it is shown. -/
def settingsOutline (error : ReadError) : Outline :=
  .tuple "Parse"
    [.word ("Error(" ++ Text.quoted error.cause.message ++ ", line: "
      ++ toString error.position.line ++ ", column: " ++ toString error.position.column ++ ")")]

end Retry
