import OrgOutline.Json.Basic

/-!
# The tokens of JSON text

A text is cut into brackets, commas, colons, strings and words, a word being a longest run of characters that are none of
these and no space. What a word means is for `Json.ofWord?` to say. The scanner reads one character at a time
(`Scanner.step`): it is inside a word, inside a string, behind a backslash, or between tokens. A string may hold any
character from the space on; the escapes are those of the format, and two escapes that name a surrogate pair make one
character. An escaped surrogate that is not half of a pair stands for no character and is replaced by U+FFFD. A string that
is not one, or that is left open, makes the last token, which nothing accepts; so every text has tokens (`Json.tokens`).
-/

namespace OrgOutline
namespace Json

/-- A token: a bracket, a separator, a string, a word, or a string that is broken off. -/
inductive Token where
  | openArray | closeArray | openObject | closeObject | comma | colon
  | str (s : String)
  | word (w : List Char)
  | broken
  deriving DecidableEq, Repr

/-- The characters that are skipped between tokens. -/
def isSpace (c : Char) : Bool := c == ' ' || c == '\t' || c == '\n' || c == '\r'

/-- The tokens of one character. -/
def punctuation? : Char → Option Token
  | '[' => some .openArray
  | ']' => some .closeArray
  | '\x7b' => some .openObject
  | '\x7d' => some .closeObject
  | ',' => some .comma
  | ':' => some .colon
  | _ => none

/-- The characters that an escape of one letter stands for. -/
def unescape? : Char → Option Char
  | '"' => some '"'
  | '\\' => some '\\'
  | '/' => some '/'
  | 'b' => some '\x08'
  | 'f' => some '\x0c'
  | 'n' => some '\n'
  | 'r' => some '\r'
  | 't' => some '\t'
  | _ => none

/-- The value of a hexadecimal digit of either case. -/
def hexValue? (c : Char) : Option Nat :=
  if '0' ≤ c ∧ c ≤ '9' then some (c.toNat - '0'.toNat)
  else if 'a' ≤ c ∧ c ≤ 'f' then some (c.toNat - 'a'.toNat + 10)
  else if 'A' ≤ c ∧ c ≤ 'F' then some (c.toNat - 'A'.toNat + 10)
  else none

/-- The first half of a surrogate pair. -/
def isHighSurrogate (n : Nat) : Bool := 0xd800 ≤ n && n < 0xdc00

/-- The second half of a surrogate pair. -/
def isLowSurrogate (n : Nat) : Bool := 0xdc00 ≤ n && n < 0xe000

/-- The character of a code point; a lone surrogate has none and is replaced. -/
def charOf (n : Nat) : Char := if 0xd800 ≤ n ∧ n < 0xe000 then '\ufffd' else Char.ofNat n

/-- The character that a surrogate pair stands for. -/
def pairedChar (high low : Nat) : Char := Char.ofNat (0x10000 + (high - 0xd800) * 0x400 + (low - 0xdc00))

/-- Where the scanner is: between tokens, in a word, in a string, whose characters are kept in reverse, or behind a string
that is broken off, where nothing more is read. A high surrogate that has been read waits for its other half. -/
inductive Place where
  | between
  | word (letters : List Char)
  | string (chars : List Char)
  | escape (chars : List Char)
  | hex (chars : List Char) (high : Option Nat) (count value : Nat)
  | half (chars : List Char) (high : Nat)
  | halfEscape (chars : List Char) (high : Nat)
  | broken
  deriving DecidableEq, Repr

/-- The scanner: the tokens read so far, the last one first, and where it is. -/
structure Scanner where
  tokens : List Token
  place : Place

namespace Scanner

/-- Reads a character between tokens. -/
def stepBetween (tokens : List Token) (c : Char) : Scanner :=
  if isSpace c then ⟨tokens, .between⟩
  else if c = '"' then ⟨tokens, .string []⟩
  else match punctuation? c with
    | some t => ⟨t :: tokens, .between⟩
    | none => ⟨tokens, .word [c]⟩

/-- Reads a character of a string. -/
def stepString (tokens : List Token) (chars : List Char) (c : Char) : Scanner :=
  if c = '"' then ⟨.str (String.ofList chars.reverse) :: tokens, .between⟩
  else if c = '\\' then ⟨tokens, .escape chars⟩
  else if c.toNat < 0x20 then ⟨tokens, .broken⟩
  else ⟨tokens, .string (c :: chars)⟩

/-- Reads the character behind a backslash. -/
def stepEscape (tokens : List Token) (chars : List Char) (c : Char) : Scanner :=
  if c = 'u' then ⟨tokens, .hex chars none 0 0⟩
  else match unescape? c with
    | some d => ⟨tokens, .string (d :: chars)⟩
    | none => ⟨tokens, .broken⟩

/-- Ends an escape of four hexadecimal digits: the second half of a pair makes one character with the first, and the first
half of a pair waits. -/
def endHex (chars : List Char) (high : Option Nat) (value : Nat) : Place :=
  match high with
  | some h =>
    if isLowSurrogate value then .string (pairedChar h value :: chars)
    else if isHighSurrogate value then .half (charOf h :: chars) value
    else .string (charOf value :: charOf h :: chars)
  | none => if isHighSurrogate value then .half chars value else .string (charOf value :: chars)

/-- Reads a hexadecimal digit of an escape. -/
def stepHex (tokens : List Token) (chars : List Char) (high : Option Nat) (count value : Nat) (c : Char) : Scanner :=
  match hexValue? c with
  | some d =>
    if count = 3 then ⟨tokens, endHex chars high (16 * value + d)⟩
    else ⟨tokens, .hex chars high (count + 1) (16 * value + d)⟩
  | none => ⟨tokens, .broken⟩

/-- Reads one character. -/
def step (s : Scanner) (c : Char) : Scanner :=
  match s.place with
  | .between => stepBetween s.tokens c
  | .word letters =>
    if isSpace c || c == '"' || (punctuation? c).isSome then stepBetween (.word letters.reverse :: s.tokens) c
    else ⟨s.tokens, .word (c :: letters)⟩
  | .string chars => stepString s.tokens chars c
  | .escape chars => stepEscape s.tokens chars c
  | .hex chars high count value => stepHex s.tokens chars high count value c
  | .half chars high =>
    if c = '\\' then ⟨s.tokens, .halfEscape chars high⟩ else stepString s.tokens (charOf high :: chars) c
  | .halfEscape chars high =>
    if c = 'u' then ⟨s.tokens, .hex chars (some high) 0 0⟩ else stepEscape s.tokens (charOf high :: chars) c
  | .broken => s

/-- The tokens at the end of the text; a string that is still open is broken off. -/
def finish (s : Scanner) : List Token :=
  match s.place with
  | .between => s.tokens.reverse
  | .word letters => (.word letters.reverse :: s.tokens).reverse
  | _ => (.broken :: s.tokens).reverse

end Scanner

/-- The tokens of a text. -/
def tokens (t : List Char) : List Token := (t.foldl Scanner.step ⟨[], .between⟩).finish

end Json
end OrgOutline
