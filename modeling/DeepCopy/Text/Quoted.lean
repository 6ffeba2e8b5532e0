import DeepCopy.Text.Printable

/-!
# Quoted text

The form in which messages show a text: between double quotes, with a backslash before a quote or
a backslash, short escapes for the usual controls, and the code point in braces for every other
character that has no form of its own in print.
-/

namespace DeepCopy.Text

/-- The digits of a number in base sixteen, in lower case. -/
def hexDigits (n : Nat) : List Char :=
  Nat.toDigits 16 n

/-- Whether a character is shown as itself. -/
def isPrintable (c : Char) : Bool :=
  if c.toNat < 0x80 then 0x20 ≤ c.toNat && c.toNat < 0x7F
  else !extenders.has c && !unprintable.has c

/-- A character as it stands between the quotes. -/
def quoteChar (c : Char) : List Char :=
  match c with
  | '\x00' => ['\\', '0']
  | '\t' => ['\\', 't']
  | '\r' => ['\\', 'r']
  | '\n' => ['\\', 'n']
  | '\\' => ['\\', '\\']
  | '"' => ['\\', '"']
  | _ => if isPrintable c then [c] else ['\\', 'u', '{'] ++ hexDigits c.toNat ++ ['}']

/-- A text between quotes. -/
def quoted (text : String) : String :=
  String.ofList ('"' :: text.toList.flatMap quoteChar ++ ['"'])

end DeepCopy.Text
