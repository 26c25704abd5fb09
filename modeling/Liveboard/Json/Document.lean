import Liveboard.Text.CodePoint

/-!
# JSON documents

A JSON text is read in two layers. This module is the outer one: the
characters become tokens, the tokens become a tree, and nothing is
decided yet about what numbers and texts mean. A record that skips an
unknown field looks no further than this layer, which is why a number
too large for a double, a lone half of a surrogate pair or a very deep
list does no harm there.

Both steps are machines that take one symbol at a time: `Lexer.step`
reads characters, `Builder.step` reads tokens and keeps the containers
that are still open on a stack. A text is a document exactly when both
machines reach their end on it (`Document.ofText?`). Reading by steps
keeps the recursion on the list of symbols, where a recursive descent
would need the text that each part leaves over.
-/

namespace Liveboard

/-- **A number as written**: sign, whole part, and the digits after the
point and after the exponent mark where the text has them. -/
structure Numeral where
  /-- Whether a minus sign stands in front. -/
  negative : Bool
  /-- The digits before the point. -/
  whole : List Char
  /-- The digits after the point, if there is one. -/
  fraction : Option (List Char)
  /-- Whether the exponent is negative, and its digits, if there is one. -/
  exponent : Option (Bool × List Char)
  deriving DecidableEq, Repr

namespace Numeral

/-- Splits the leading digits off. -/
def splitDigits (cs : List Char) : List Char × List Char :=
  (cs.takeWhile Char.isDigit, cs.dropWhile Char.isDigit)

/-- An exponent: a mark, an optional sign and at least one digit, with
nothing after it. -/
def exponentOf? : List Char → Option (Option (Bool × List Char))
  | [] => some none
  | mark :: rest =>
    if mark == 'e' || mark == 'E' then
      let (negative, digits) := match rest with
        | '-' :: ds => (true, ds)
        | '+' :: ds => (false, ds)
        | ds => (false, ds)
      if digits.isEmpty || !digits.all Char.isDigit then none
      else some (some (negative, digits))
    else none

/-- A fraction, if a point stands in front, and what follows it. -/
def fractionOf? : List Char → Option (Option (List Char) × List Char)
  | '.' :: rest =>
    let (digits, rest) := splitDigits rest
    if digits.isEmpty then none else some (some digits, rest)
  | rest => some (none, rest)

/-- **The grammar of numbers.** A whole part of more than one digit does
not start with a zero. -/
def ofText? (cs : List Char) : Option Numeral :=
  let (negative, cs) := match cs with
    | '-' :: rest => (true, rest)
    | rest => (false, rest)
  let (whole, rest) := splitDigits cs
  if whole.isEmpty || (whole.head? == some '0' && 1 < whole.length) then none
  else do
    let (fraction, rest) ← fractionOf? rest
    let exponent ← exponentOf? rest
    return ⟨negative, whole, fraction, exponent⟩

end Numeral

/-- A piece of a text as written: a character, or an escaped code unit
that may be half of a surrogate pair. -/
inductive Piece where
  /-- A character, plain or named by a short escape. -/
  | char (c : Char)
  /-- A code unit written as four hexadecimal digits. -/
  | unit (u : Nat)
  deriving DecidableEq, Repr

/-- **The tree of a JSON text**, its members in the order of the text. -/
inductive Document where
  /-- The word `null`. -/
  | null
  /-- The words `true` and `false`. -/
  | bool (b : Bool)
  /-- A number as written. -/
  | number (n : Numeral)
  /-- A text as written. -/
  | text (pieces : List Piece)
  /-- A list of values. -/
  | array (items : List Document)
  /-- Members, repeated keys included. -/
  | object (members : List (List Piece × Document))
  deriving Inhabited

/-! ## Tokens -/

/-- The symbols of a JSON text. -/
inductive Token where
  /-- An opening bracket. -/
  | openArray
  /-- A closing bracket. -/
  | closeArray
  /-- An opening brace. -/
  | openObject
  /-- A closing brace. -/
  | closeObject
  /-- A comma. -/
  | comma
  /-- A colon. -/
  | colon
  /-- A run of letters, digits, signs and points. -/
  | word (cs : List Char)
  /-- A text. -/
  | text (pieces : List Piece)
  deriving DecidableEq, Repr

namespace Lexer

/-- Where the lexer stands between two characters. What was read of a
token is kept in reverse. -/
inductive Mode where
  /-- Between tokens. -/
  | between
  /-- Inside a word. -/
  | word (done : List Char)
  /-- Inside a text. -/
  | text (done : List Piece)
  /-- Behind a backslash. -/
  | escape (done : List Piece)
  /-- Inside an escaped code unit, with so many digits to come. -/
  | unit (done : List Piece) (value left : Nat)

/-- White space of JSON. -/
def isSpace (c : Char) : Bool :=
  c == ' ' || c == '\t' || c == '\n' || c == '\r'

/-- The characters that words are made of. -/
def isWordChar (c : Char) : Bool :=
  c.isAlphanum || c == '-' || c == '+' || c == '.'

/-- The character that a short escape names. -/
def shortEscape? : Char → Option Char
  | '"' => some '"'
  | '\\' => some '\\'
  | '/' => some '/'
  | 'b' => some '\x08'
  | 'f' => some '\x0C'
  | 'n' => some '\n'
  | 'r' => some '\r'
  | 't' => some '\t'
  | _ => none

/-- A character between tokens: the token it is, if it is one by itself,
and where it leaves the lexer. -/
def start (c : Char) : Option (List Token × Mode) :=
  if isSpace c then some ([], .between)
  else if isWordChar c then some ([], .word [c])
  else match c with
    | '[' => some ([.openArray], .between)
    | ']' => some ([.closeArray], .between)
    | '\x7b' => some ([.openObject], .between)
    | '\x7d' => some ([.closeObject], .between)
    | ',' => some ([.comma], .between)
    | ':' => some ([.colon], .between)
    | '"' => some ([], .text [])
    | _ => none

/-- **One character**: the tokens it completes and the next mode. -/
def step (mode : Mode) (c : Char) : Option (List Token × Mode) :=
  match mode with
  | .between => start c
  | .word done =>
    if isWordChar c then some ([], .word (c :: done))
    else (start c).map fun (tokens, mode) => (.word done.reverse :: tokens, mode)
  | .text done =>
    if c == '"' then some ([.text done.reverse], .between)
    else if c == '\\' then some ([], .escape done)
    else if c.toNat < 0x20 then none
    else some ([], .text (.char c :: done))
  | .escape done =>
    if c == 'u' then some ([], .unit done 0 4)
    else (shortEscape? c).map fun c => ([], .text (.char c :: done))
  | .unit done value left =>
    (CodePoint.hexValue? c).map fun digit =>
      let value := value * 16 + digit
      if left ≤ 1 then ([], .text (.unit value :: done))
      else ([], .unit done value (left - 1))

/-- What the lexer holds between two characters: the complete tokens in
reverse, and its mode. -/
structure Progress where
  /-- The complete tokens, last first. -/
  done : List Token
  /-- Where the lexer stands. -/
  mode : Mode

/-- One character, its tokens added to the complete ones. -/
def Progress.feed (p : Progress) (c : Char) : Option Progress :=
  (step p.mode c).map fun (tokens, mode) => ⟨tokens.reverse ++ p.done, mode⟩

/-- The tokens at the end of the text, which no text may be open at. -/
def Progress.finish (p : Progress) : Option (List Token) :=
  match p.mode with
  | .between => some p.done.reverse
  | .word done => some (Token.word done.reverse :: p.done).reverse
  | _ => none

/-- The tokens of a text. -/
def run (cs : List Char) : Option (List Token) := do
  let p ← cs.foldlM Progress.feed ⟨[], .between⟩
  p.finish

end Lexer

/-! ## Trees -/

namespace Builder

/-- A container that is still open, what it holds so far in reverse. -/
inductive Open where
  /-- An array. -/
  | array (done : List Document)
  /-- An object between members. -/
  | object (done : List (List Piece × Document))
  /-- An object whose last key waits for its value. -/
  | member (done : List (List Piece × Document)) (key : List Piece)

/-- What may come next. -/
inductive Stage where
  /-- A value. -/
  | value
  /-- A value, or the end of the array just opened. -/
  | firstItem
  /-- A key. -/
  | key
  /-- A key, or the end of the object just opened. -/
  | firstKey
  /-- A colon. -/
  | colon
  /-- A comma, or the end of the innermost container. -/
  | next
  /-- Nothing more. -/
  | finished (tree : Document)

/-- The value that a word stands for. -/
def wordValue? (cs : List Char) : Option Document :=
  if cs = "null".toList then some .null
  else if cs = "true".toList then some (.bool true)
  else if cs = "false".toList then some (.bool false)
  else (Numeral.ofText? cs).map .number

/-- Puts a complete value where the open containers want it. -/
def place (tree : Document) : List Open → Stage × List Open
  | .array done :: rest => (.next, .array (tree :: done) :: rest)
  | .member done key :: rest => (.next, .object ((key, tree) :: done) :: rest)
  | stack => (.finished tree, stack)

/-- A token where a value may stand. -/
def openValue (stack : List Open) : Token → Option (Stage × List Open)
  | .openArray => some (.firstItem, .array [] :: stack)
  | .openObject => some (.firstKey, .object [] :: stack)
  | .text pieces => some (place (.text pieces) stack)
  | .word cs => (wordValue? cs).map fun tree => place tree stack
  | _ => none

/-- A token where a key may stand. -/
def openKey (stack : List Open) : Token → Option (Stage × List Open)
  | .text key => match stack with
    | .object done :: rest => some (.colon, .member done key :: rest)
    | _ => none
  | _ => none

/-- The end of the innermost container. -/
def close : Token → List Open → Option (Stage × List Open)
  | .closeArray, .array done :: rest => some (place (.array done.reverse) rest)
  | .closeObject, .object done :: rest => some (place (.object done.reverse) rest)
  | _, _ => none

/-- **One token.** -/
def step : Stage × List Open → Token → Option (Stage × List Open)
  | (.value, stack), token => openValue stack token
  | (.firstItem, stack), .closeArray => close .closeArray stack
  | (.firstItem, stack), token => openValue stack token
  | (.key, stack), token => openKey stack token
  | (.firstKey, stack), .closeObject => close .closeObject stack
  | (.firstKey, stack), token => openKey stack token
  | (.colon, stack), .colon => some (.value, stack)
  | (.colon, _), _ => none
  | (.next, .array done :: rest), .comma => some (.value, .array done :: rest)
  | (.next, .object done :: rest), .comma => some (.key, .object done :: rest)
  | (.next, stack), token => close token stack
  | (.finished _, _), _ => none

/-- The tree of a list of tokens. -/
def run (tokens : List Token) : Option Document :=
  match tokens.foldlM step (.value, []) with
  | some (.finished tree, _) => some tree
  | _ => none

end Builder

/-- **The outer reading of a text.** -/
def Document.ofText? (s : String) : Option Document := do
  let tokens ← Lexer.run s.toList
  Builder.run tokens

end Liveboard
