import Retry.Text.Invisible

/-!
# Quoted text

A text is quoted so that a reader sees every character of it: quotes and backslashes are escaped,
and so is every character that leaves no mark of its own.
-/

namespace Retry.Text

/-- The digits of a code point in base sixteen, in lower case. -/
def hexDigits (code : Nat) : List Char := Nat.toDigits 16 code

def escaped (c : Char) : List Char :=
  match c with
  | '\x00' => ['\\', '0']
  | '\t' => ['\\', 't']
  | '\n' => ['\\', 'n']
  | '\r' => ['\\', 'r']
  | '"' => ['\\', '"']
  | '\\' => ['\\', '\\']
  | _ =>
    if isInvisible c then ['\\', 'u', '\x7b'] ++ hexDigits c.toNat ++ ['\x7d'] else [c]

def quoted (text : String) : String :=
  String.ofList ('"' :: text.toList.flatMap escaped ++ ['"'])

end Retry.Text
