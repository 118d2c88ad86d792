import CaseForm.Json.Basic
import CaseForm.Decimal.Shortest

/-!
The text of a JSON value: compact, and laid out over lines.

Both forms write members in the order in which an object holds them. A number that is not an
integer always shows a point or an exponent, so it reads back as one.
-/

namespace CaseForm

/-- The text of a positive number: positional where its first digit counts between `10 ^ -5` and
`10 ^ 15`, and scientific with a signed exponent beyond. -/
def Decimal.Scientific.text (s : Decimal.Scientific) : List Char :=
  let count : Int := s.digits.length
  let zeros (n : Int) : List Char := List.replicate n.toNat '0'
  if -5 ≤ s.power ∧ s.power ≤ 15 then
    if s.power < 0 then '0' :: '.' :: zeros (-s.power - 1) ++ s.digits
    else if count ≤ s.power + 1 then s.digits ++ zeros (s.power + 1 - count) ++ ['.', '0']
    else s.digits.take (s.power + 1).toNat ++ '.' :: s.digits.drop (s.power + 1).toNat
  else
    let sign := if s.power < 0 then '-' else '+'
    let tail := match s.digits.drop 1 with
      | [] => []
      | fraction => '.' :: fraction
    s.digits.take 1 ++ tail ++ 'e' :: sign :: Nat.toDigits 10 s.power.natAbs

/-- The text of a number. -/
def Number.text : Number → String
  | .int value => toString value
  | .real bits =>
    let b := Decimal.Binary.ofBits bits
    let magnitude := if b.significand = 0 then ['0', '.', '0'] else b.shortest.text
    String.ofList (if b.negative then '-' :: magnitude else magnitude)

namespace Json

/-- A hexadecimal digit, in lower case. -/
def hexDigit (n : Nat) : Char := Nat.digitChar (n % 16)

/-- A character inside quotes: quote, backslash and control characters are escaped. -/
def escape (c : Char) : String :=
  match c with
  | '"' => "\\\""
  | '\\' => "\\\\"
  | '\n' => "\\n"
  | '\r' => "\\r"
  | '\t' => "\\t"
  | '\x08' => "\\b"
  | '\x0c' => "\\f"
  | c =>
    if c.toNat < 0x20 then
      String.ofList ['\\', 'u', '0', '0', hexDigit (c.toNat / 16), hexDigit c.toNat]
    else c.toString

/-- A text in quotes. -/
def quoted (text : String) : String :=
  text.foldl (fun acc c => acc ++ escape c) "\"" ++ "\""

mutual

/-- The value on one line without blanks. -/
def compact : Json → String
  | .null => "null"
  | .bool true => "true"
  | .bool false => "false"
  | .num n => n.text
  | .str text => quoted text
  | .arr items => "[" ++ compactItems items ++ "]"
  | .obj members => "\x7b" ++ compactMembers members ++ "\x7d"

/-- Values with commas between. -/
def compactItems : List Json → String
  | [] => ""
  | [item] => item.compact
  | item :: next :: items => item.compact ++ "," ++ compactItems (next :: items)

/-- Members with commas between. -/
def compactMembers : List (String × Json) → String
  | [] => ""
  | [(key, value)] => quoted key ++ ":" ++ value.compact
  | (key, value) :: next :: members =>
    quoted key ++ ":" ++ value.compact ++ "," ++ compactMembers (next :: members)

end

/-- A line break and the indent of `level` steps of two blanks. -/
def lineBreak (level : Nat) : String := "\n" ++ String.ofList (List.replicate (2 * level) ' ')

mutual

/-- The value over several lines, each member and item on lines of its own; empty objects and
arrays stay closed up. -/
def pretty (level : Nat) : Json → String
  | .arr [] => "[]"
  | .arr (item :: items) =>
    "[" ++ lineBreak (level + 1) ++ item.pretty (level + 1) ++ prettyItems (level + 1) items ++
      lineBreak level ++ "]"
  | .obj [] => "\x7b\x7d"
  | .obj ((key, value) :: members) =>
    "\x7b" ++ lineBreak (level + 1) ++ quoted key ++ ": " ++ value.pretty (level + 1) ++
      prettyMembers (level + 1) members ++ lineBreak level ++ "\x7d"
  | .null => "null"
  | .bool true => "true"
  | .bool false => "false"
  | .num n => n.text
  | .str text => quoted text

/-- The items after the first. -/
def prettyItems (level : Nat) : List Json → String
  | [] => ""
  | item :: items => "," ++ lineBreak level ++ item.pretty level ++ prettyItems level items

/-- The members after the first. -/
def prettyMembers (level : Nat) : List (String × Json) → String
  | [] => ""
  | (key, value) :: members =>
    "," ++ lineBreak level ++ quoted key ++ ": " ++ value.pretty level ++
      prettyMembers level members

end

/-- The value as display text: nothing for `null`, a text as it is, all else in compact form. -/
def displayText : Json → String
  | .null => ""
  | .str text => text
  | value => value.compact

end Json

end CaseForm
