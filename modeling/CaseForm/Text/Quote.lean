import CaseForm.Text.Shapeless

/-!
Text in quotes for a reader who wants to see every character of it.
-/

namespace CaseForm.Text

/-- A character by its code point, in hexadecimal. -/
def byCodePoint (c : Char) : List Char :=
  '\\' :: 'u' :: '\x7b' :: Nat.toDigits 16 c.toNat ++ ['\x7d']

/-- A character as it stands between quotes: the quote and the backslash after a backslash, and
characters without a shape by a letter or by their code point. -/
def visible (c : Char) : List Char :=
  match c with
  | '"' => ['\\', '"']
  | '\\' => ['\\', '\\']
  | '\n' => ['\\', 'n']
  | '\r' => ['\\', 'r']
  | '\t' => ['\\', 't']
  | '\x00' => ['\\', '0']
  | c => if isShapeless c then byCodePoint c else [c]

/-- A text between quotes with all its characters visible. -/
def quote (text : String) : String :=
  String.ofList ('"' :: text.toList.flatMap visible ++ ['"'])

end CaseForm.Text
