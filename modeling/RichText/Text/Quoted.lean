import RichText.Text.Unprintable

/-!
# Quoted text

Text as it stands in a message: between double quotes, with a backslash before what would end the
quotation, short names for the common controls, and `\u{hex}` for all that cannot be shown.
-/

namespace RichText.Quoted

/-- One character of quoted text. -/
def encodeChar : Char → List Char
  | '"' => ['\\', '"']
  | '\\' => ['\\', '\\']
  | '\n' => ['\\', 'n']
  | '\r' => ['\\', 'r']
  | '\t' => ['\\', 't']
  | '\x00' => ['\\', '0']
  | c =>
    if unprintable.mem c then
      ['\\', 'u', '\x7b'] ++ Nat.toDigits 16 c.toNat ++ ['\x7d']
    else [c]

/-- A text between quotes. -/
def encode (s : String) : String :=
  String.ofList ('"' :: s.toList.flatMap encodeChar ++ ['"'])

end RichText.Quoted
