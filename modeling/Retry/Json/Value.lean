import Retry.Binary64.Arithmetic

/-!
# JSON values

A number is an integer from `-2^63` up to below `2^64`, or a number of double precision. An
object keeps its members in order, repeated ones included.
-/

namespace Retry.Json

inductive Number where
  | integer (value : Int)
  | float (value : Binary64)
deriving DecidableEq

inductive Value where
  | null
  | boolean (value : Bool)
  | number (value : Number)
  | text (value : String)
  | array (elements : List Value)
  | object (members : List (String × Value))

end Retry.Json
