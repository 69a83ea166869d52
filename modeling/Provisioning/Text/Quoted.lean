import Provisioning.Text.Unprintable

/-!
Text in double quotes for messages: quotes and backslashes get a backslash, five control
characters have short names, and every other character without a picture of its own is shown by
its number in lower-case hexadecimal.
-/

namespace Provisioning.Text

/-- How one character appears between the quotes. -/
def quotedChar (c : Char) : List Char :=
  match c with
  | '"' => ['\\', '"']
  | '\\' => ['\\', '\\']
  | '\n' => ['\\', 'n']
  | '\r' => ['\\', 'r']
  | '\t' => ['\\', 't']
  | '\x00' => ['\\', '0']
  | c =>
      if isUnprintable c then
        ['\\', 'u', '\x7b'] ++ Nat.toDigits 16 c.toNat ++ ['\x7d']
      else [c]

/-- A text in double quotes. -/
def quote (s : String) : String :=
  String.ofList ('"' :: s.toList.flatMap quotedChar ++ ['"'])

end Provisioning.Text
