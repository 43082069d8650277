import ImageryJobs.Json.Number

/-!
Tokens of a JSON text, scanned one character at a time. Blanks are space, tab, line feed and
carriage return. A string that holds half of a surrogate pair, and a number too large for
binary64, are tokens without a value: a text may hold them only where nothing reads them.
-/

namespace ImageryJobs.Json

/-- A token of a JSON text. -/
inductive Token where
  | openBrace
  | closeBrace
  | openBracket
  | closeBracket
  | comma
  | colon
  | null
  | bool (value : Bool)
  | number (value : Option Number)
  | string (text : Option String)
  deriving DecidableEq

namespace Token

/-- A string literal as far as it was read. -/
structure Literal where
  /-- The characters read, last first. -/
  chars : List Char
  /-- The first half of a surrogate pair, if it was read last. -/
  high : Option Nat
  /-- No half of a surrogate pair stands alone so far. -/
  paired : Bool
  deriving DecidableEq

namespace Literal

def start : Literal := ⟨[], none, true⟩

/-- Appends a character. -/
def push (s : Literal) (c : Char) : Literal := ⟨c :: s.chars, none, s.paired && s.high.isNone⟩

/-- Appends a unit of UTF-16. -/
def pushUnit (s : Literal) (unit : Nat) : Literal :=
  if 0xD800 ≤ unit ∧ unit < 0xDC00 then ⟨s.chars, some unit, s.paired && s.high.isNone⟩
  else if 0xDC00 ≤ unit ∧ unit < 0xE000 then
    match s.high with
    | some high =>
        let code := 0x10000 + (high - 0xD800) * 0x400 + (unit - 0xDC00)
        ⟨Char.ofNat code :: s.chars, none, s.paired⟩
    | none => ⟨s.chars, none, false⟩
  else s.push (Char.ofNat unit)

def text? (s : Literal) : Option String :=
  if s.paired && s.high.isNone then some (String.ofList s.chars.reverse) else none

end Literal

/-- What is being scanned. -/
inductive Mode where
  | gap
  | word (chars : List Char)
  | digits (chars : List Char)
  | text (s : Literal)
  | escape (s : Literal)
  | unit (s : Literal) (missing : Nat) (value : Nat)
  deriving DecidableEq

/-- The tokens, last first, and what is being scanned. -/
structure Scan where
  tokens : List Token
  mode : Mode

def hexValue? (c : Char) : Option Nat :=
  if c.isDigit then some (c.toNat - '0'.toNat)
  else if 'a' ≤ c ∧ c ≤ 'f' then some (c.toNat - 'a'.toNat + 10)
  else if 'A' ≤ c ∧ c ≤ 'F' then some (c.toNat - 'A'.toNat + 10)
  else none

/-- The token of a word. -/
def ofWord? : List Char → Option Token
  | ['n', 'u', 'l', 'l'] => some .null
  | ['t', 'r', 'u', 'e'] => some (.bool true)
  | ['f', 'a', 'l', 's', 'e'] => some (.bool false)
  | _ => none

/-- The character of a one-letter escape. -/
def escaped? : Char → Option Char
  | '"' => some '"'
  | '\\' => some '\\'
  | '/' => some '/'
  | 'b' => some (Char.ofNat 8)
  | 'f' => some (Char.ofNat 12)
  | 'n' => some '\n'
  | 'r' => some '\r'
  | 't' => some '\t'
  | _ => none

/-- Ends a word or number; a string must be closed first. -/
def Scan.close (s : Scan) : Option (List Token) :=
  match s.mode with
  | .gap => some s.tokens
  | .word chars => (ofWord? chars.reverse).map (· :: s.tokens)
  | .digits chars => (Number.Literal.parse? chars.reverse).map (.number ·.value? :: s.tokens)
  | _ => none

/-- A character between tokens. -/
def enter (tokens : List Token) (c : Char) : Option Scan :=
  match c with
  | ' ' | '\t' | '\n' | '\r' => some ⟨tokens, .gap⟩
  | '\x7b' => some ⟨.openBrace :: tokens, .gap⟩
  | '\x7d' => some ⟨.closeBrace :: tokens, .gap⟩
  | '[' => some ⟨.openBracket :: tokens, .gap⟩
  | ']' => some ⟨.closeBracket :: tokens, .gap⟩
  | ',' => some ⟨.comma :: tokens, .gap⟩
  | ':' => some ⟨.colon :: tokens, .gap⟩
  | '"' => some ⟨tokens, .text .start⟩
  | c =>
      if c.isDigit ∨ c = '-' then some ⟨tokens, .digits [c]⟩
      else if c.isLower then some ⟨tokens, .word [c]⟩
      else none

def isNumberChar (c : Char) : Bool :=
  c.isDigit || c = '-' || c = '+' || c = '.' || c = 'e' || c = 'E'

/-- Scans one character. -/
def step (s : Scan) (c : Char) : Option Scan :=
  match s.mode with
  | .gap => enter s.tokens c
  | .word chars =>
      if c.isLower then some ⟨s.tokens, .word (c :: chars)⟩
      else s.close.bind (enter · c)
  | .digits chars =>
      if isNumberChar c then some ⟨s.tokens, .digits (c :: chars)⟩
      else s.close.bind (enter · c)
  | .text literal =>
      if c = '"' then some ⟨.string literal.text? :: s.tokens, .gap⟩
      else if c = '\\' then some ⟨s.tokens, .escape literal⟩
      else if c.toNat < 32 then none
      else some ⟨s.tokens, .text (literal.push c)⟩
  | .escape literal =>
      if c = 'u' then some ⟨s.tokens, .unit literal 4 0⟩
      else (escaped? c).map fun c => ⟨s.tokens, .text (literal.push c)⟩
  | .unit literal missing value => do
      let value := 16 * value + (← hexValue? c)
      if missing ≤ 1 then some ⟨s.tokens, .text (literal.pushUnit value)⟩
      else some ⟨s.tokens, .unit literal (missing - 1) value⟩

/-- The tokens of a text. -/
def scan? (text : List Char) : Option (List Token) := do
  let s ← text.foldlM step ⟨[], .gap⟩
  let tokens ← s.close
  return tokens.reverse

end Token
end ImageryJobs.Json
