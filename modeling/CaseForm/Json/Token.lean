import CaseForm.Json.Numeral
import CaseForm.Json.Syntax

/-!
The tokens of a JSON text.

The lexer is a machine that takes one character at a time. A token that is a value already carries
what it stands for. The first character that no token can take turns into `Token.junk`, after
which nothing more is read.
-/

namespace CaseForm.Json

/-- A token of a JSON text. -/
inductive Token where
  | openArray | closeArray | openObject | closeObject | comma | colon
  /-- A text in quotes; without a value where it holds half a surrogate pair. -/
  | text (value : Option String)
  /-- A number, a truth value or `null`; `void` for a number out of range. -/
  | literal (value : Syntax)
  /-- Something that no JSON text holds. -/
  | junk
  deriving Repr, Inhabited

/-- How far a numeral has been read. -/
inductive NumeralPart where
  /-- After the minus sign: a digit has to follow. -/
  | sign
  /-- After a leading zero: no digit may follow. -/
  | zero
  | whole
  /-- After the point: a digit has to follow. -/
  | point
  | fraction
  /-- After the exponent mark: a sign or a digit has to follow. -/
  | mark
  /-- After the sign of the exponent: a digit has to follow. -/
  | markSign
  | exponent
  deriving DecidableEq, Repr

/-- A code unit of an escape, and the first half of a surrogate pair that waits for its second. -/
structure Escape where
  /-- The hexadecimal digits still to come. -/
  left : Nat
  code : Nat
  deriving Repr

/-- A text in quotes as far as it has been read. -/
structure TextSoFar where
  /-- The characters, the last one first. -/
  reversed : List Char := []
  /-- Whether half a surrogate pair has been met alone. -/
  broken : Bool := false
  /-- The first half of a surrogate pair, just read. -/
  high : Option Nat := none
  deriving Repr

namespace TextSoFar

/-- A first half that no second half follows makes the text unreadable. -/
def settle (t : TextSoFar) : TextSoFar :=
  match t.high with
  | none => t
  | some _ => { t with broken := true, high := none }

/-- Appends a character. -/
def push (t : TextSoFar) (c : Char) : TextSoFar :=
  let t := t.settle
  { t with reversed := c :: t.reversed }

/-- Appends a code unit: two halves of a surrogate pair make one character. -/
def pushUnit (t : TextSoFar) (unit : Nat) : TextSoFar :=
  if 0xDC00 ≤ unit ∧ unit < 0xE000 then
    match t.high with
    | some high =>
      let c := Char.ofNat (0x10000 + (high - 0xD800) * 0x400 + (unit - 0xDC00))
      { t with reversed := c :: t.reversed, high := none }
    | none => { t with broken := true }
  else if 0xD800 ≤ unit ∧ unit < 0xDC00 then { t.settle with high := some unit }
  else t.push (Char.ofNat unit)

/-- The token of the finished text. -/
def token (t : TextSoFar) : Token :=
  let t := t.settle
  .text (if t.broken then none else some (String.ofList t.reversed.reverse))

end TextSoFar

/-- What the lexer is in the middle of. -/
inductive Lexing where
  | between
  /-- A word: the characters still to come, and what it stands for. -/
  | word (left : List Char) (value : Syntax)
  /-- A numeral; the digits of its last part stand last one first. -/
  | numeral (part : NumeralPart) (soFar : Numeral)
  | text (soFar : TextSoFar)
  /-- After a backslash. -/
  | escape (soFar : TextSoFar)
  /-- Inside the four digits of an escaped code unit. -/
  | unit (soFar : TextSoFar) (escape : Escape)
  /-- After junk. -/
  | stopped
  deriving Repr

/-- The tokens read, the last one first, and what the lexer is in the middle of. -/
structure Lexer where
  reversed : List Token := []
  state : Lexing := .between

namespace Lexer

/-- Finishes a token. -/
def emit (l : Lexer) (token : Token) : Lexer := ⟨token :: l.reversed, .between⟩

/-- Goes on inside a token. -/
def stay (l : Lexer) (state : Lexing) : Lexer := { l with state }

/-- Meets something that no token can take. -/
def stop (l : Lexer) : Lexer := ⟨.junk :: l.reversed, .stopped⟩

/-- The character that begins a token, or a blank between tokens. -/
def begin (l : Lexer) (c : Char) : Lexer :=
  match c with
  | ' ' | '\n' | '\r' | '\t' => l.stay .between
  | '[' => l.emit .openArray
  | ']' => l.emit .closeArray
  | '\x7b' => l.emit .openObject
  | '\x7d' => l.emit .closeObject
  | ',' => l.emit .comma
  | ':' => l.emit .colon
  | '"' => l.stay (.text {})
  | 'n' => l.stay (.word ['u', 'l', 'l'] .null)
  | 't' => l.stay (.word ['r', 'u', 'e'] (.bool true))
  | 'f' => l.stay (.word ['a', 'l', 's', 'e'] (.bool false))
  | '-' => l.stay (.numeral .sign { negative := true, whole := [] })
  | '0' => l.stay (.numeral .zero { negative := false, whole := ['0'] })
  | c =>
    if c.isDigit then l.stay (.numeral .whole { negative := false, whole := [c] }) else l.stop

/-- The next part of a numeral and the numeral with the character, if it can take it. -/
def extendNumeral (part : NumeralPart) (n : Numeral) (c : Char) : Option (NumeralPart × Numeral) :=
  let isMark := c == 'e' || c == 'E'
  let pointed := { n with fraction := some [] }
  let marked := { n with exponent := some (false, []) }
  let fractionDigit := { n with fraction := n.fraction.map (c :: ·) }
  let exponentDigit := { n with exponent := n.exponent.map fun e => (e.1, c :: e.2) }
  match part with
  | .sign =>
    if c == '0' then some (.zero, { n with whole := ['0'] })
    else if c.isDigit then some (.whole, { n with whole := [c] }) else none
  | .zero =>
    if c == '.' then some (.point, pointed) else if isMark then some (.mark, marked) else none
  | .whole =>
    if c.isDigit then some (.whole, { n with whole := c :: n.whole })
    else if c == '.' then some (.point, pointed) else if isMark then some (.mark, marked) else none
  | .point => if c.isDigit then some (.fraction, fractionDigit) else none
  | .fraction =>
    if c.isDigit then some (.fraction, fractionDigit)
    else if isMark then some (.mark, marked) else none
  | .mark =>
    if c == '+' then some (.markSign, n)
    else if c == '-' then some (.markSign, { n with exponent := some (true, []) })
    else if c.isDigit then some (.exponent, exponentDigit) else none
  | .markSign | .exponent => if c.isDigit then some (.exponent, exponentDigit) else none

/-- The token of a numeral that ends here. -/
def numeralToken (part : NumeralPart) (n : Numeral) : Token :=
  match part with
  | .sign | .point | .mark | .markSign => .junk
  | .zero | .whole | .fraction | .exponent =>
    let written : Numeral :=
      { negative := n.negative
        whole := n.whole.reverse
        fraction := n.fraction.map List.reverse
        exponent := n.exponent.map fun e => (e.1, e.2.reverse) }
    match written.value? with
    | some value => .literal (.num value)
    | none => .literal .void

/-- The value of a hexadecimal digit. -/
def hexValue? (c : Char) : Option Nat :=
  if c.isDigit then some (c.toNat - '0'.toNat)
  else if 'a' ≤ c ∧ c ≤ 'f' then some (c.toNat - 'a'.toNat + 10)
  else if 'A' ≤ c ∧ c ≤ 'F' then some (c.toNat - 'A'.toNat + 10)
  else none

/-- The character that a one-letter escape stands for. -/
def escaped? (c : Char) : Option Char :=
  match c with
  | '"' | '\\' | '/' => some c
  | 'b' => some '\x08'
  | 'f' => some '\x0c'
  | 'n' => some '\n'
  | 'r' => some '\r'
  | 't' => some '\t'
  | _ => none

/-- Takes one character. -/
def step (l : Lexer) (c : Char) : Lexer :=
  match l.state with
  | .between => l.begin c
  | .stopped => l
  | .word left value =>
    match left with
    | [] => l.stop
    | [last] => if c == last then l.emit (.literal value) else l.stop
    | next :: left => if c == next then l.stay (.word left value) else l.stop
  | .numeral part n =>
    match extendNumeral part n c with
    | some (part, n) => l.stay (.numeral part n)
    | none =>
      if part == .zero && c.isDigit then l.stop
      else match numeralToken part n with
        | .junk => l.stop
        | token => (l.emit token).begin c
  | .text t =>
    if c == '"' then l.emit t.token
    else if c == '\\' then l.stay (.escape t)
    else if c.toNat < 0x20 then l.stop
    else l.stay (.text (t.push c))
  | .escape t =>
    if c == 'u' then l.stay (.unit t ⟨4, 0⟩)
    else match escaped? c with
      | some c => l.stay (.text (t.push c))
      | none => l.stop
  | .unit t e =>
    match hexValue? c with
    | none => l.stop
    | some digit =>
      let code := e.code * 16 + digit
      if e.left ≤ 1 then l.stay (.text (t.pushUnit code)) else l.stay (.unit t ⟨e.left - 1, code⟩)

/-- The tokens, once the text is over. -/
def finish (l : Lexer) : List Token :=
  match l.state with
  | .between | .stopped => l.reversed.reverse
  | .numeral part n => (numeralToken part n :: l.reversed).reverse
  | .word .. | .text _ | .escape _ | .unit .. => (.junk :: l.reversed).reverse

end Lexer

/-- The tokens of a text, up to the first place where it is no JSON. -/
def tokens (text : String) : List Token := (text.foldl Lexer.step {}).finish

end CaseForm.Json
