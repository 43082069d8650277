import ImageryJobs.Pattern.Written
import ImageryJobs.Text.Blank
import ImageryJobs.Unicode.Property

/-!
Reading a pattern from its text: alternatives, groups with flags and names, repetition, sets with
operations, escapes and conditions on places. Look-around and references to earlier groups do not
exist. `Written.read?` gives nothing for a text that is no pattern.
-/

namespace ImageryJobs.Pattern

/-- The text left to read, the names given to groups, and the number of numbered groups. -/
structure Input where
  rest : List Char
  names : List (List Char)
  groups : Nat

/-- A reader fails without a cause. -/
abbrev Reader := StateT Input Option

namespace Reader

def fail : Reader α := fun _ => none

def text : Reader (List Char) := do return (← get).rest

def setText (rest : List Char) : Reader Unit := modify fun i => { i with rest }

def peek : Reader (Option Char) := do return (← text).head?

def advance (count : Nat) : Reader Unit := modify fun i => { i with rest := i.rest.drop count }

/-- The next character, which must exist. -/
def next : Reader Char := do
  match ← text with
  | c :: rest => do setText rest; return c
  | [] => fail

def expect (c : Char) : Reader Unit := do
  let found ← next
  if found ≠ c then fail

def some! : Option α → Reader α
  | some a => return a
  | none => fail

end Reader

open Reader

/-- Skips blanks, and comments up to the end of their line. -/
def afterLayout : Nat → List Char → List Char
  | 0, cs => cs
  | fuel + 1, cs =>
      match cs.dropWhile Text.isBlank with
      | '#' :: rest => afterLayout fuel (rest.dropWhile (· ≠ '\n'))
      | cs => cs

/-- In a verbose pattern, skips blanks and comments. -/
def skipLayout (verbose : Bool) (cs : List Char) : List Char :=
  if verbose then afterLayout cs.length cs else cs

def layout (verbose : Bool) : Reader Unit := do setText (skipLayout verbose (← text))

/-- The characters up to the first that fails a test, with layout after each. -/
def spacedRun (verbose : Bool) (p : Char → Bool) : Nat → List Char → List Char × List Char
  | fuel + 1, c :: rest =>
      if p c then
        let (run, rest) := spacedRun verbose p fuel (skipLayout verbose rest)
        (c :: run, rest)
      else ([], c :: rest)
  | _, cs => ([], cs)

def readRun (verbose : Bool) (p : Char → Bool) : Reader (List Char) := do
  let cs ← text
  let (run, rest) := spacedRun verbose p cs.length cs
  setText rest
  return run

/-- The character that decides whether a hyphen after the current character makes a range. In a
verbose pattern it is sought past blanks and past the sign of one comment. -/
def afterHyphen (verbose : Bool) (rest : List Char) : Option Char :=
  if verbose then
    let found := match rest.dropWhile Text.isBlank with
      | '#' :: comment => comment.dropWhile Text.isBlank
      | cs => cs
    found.head? <|> rest.head?
  else rest.head?

def isHexDigit (c : Char) : Bool :=
  c.isDigit || ('a' ≤ c && c ≤ 'f') || ('A' ≤ c && c ≤ 'F')

def hexNat (digits : List Char) : Nat :=
  digits.foldl (fun n c =>
    16 * n + (if c.isDigit then c.toNat - 48 else c.toLower.toNat - 87)) 0

def isScalar (code : Nat) : Bool := code < 0xD800 || (0xE000 ≤ code && code < 0x110000)

/-- A fixed number of hexadecimal digits, with layout after each. -/
def readHexDigits (verbose : Bool) : Nat → Reader (List Char)
  | 0 => return []
  | count + 1 => do
      let c ← next
      if !isHexDigit c then fail
      layout verbose
      return c :: (← readHexDigits verbose count)

/-- A code point in hexadecimal: `length` digits, or any number in braces. -/
def readHex (verbose : Bool) (length : Nat) : Reader Literal := do
  layout verbose
  let braces := (← peek) = some '\x7b'
  let digits ←
    if braces then do
      advance 1
      layout verbose
      let digits ← readRun verbose (· ≠ '\x7d')
      expect '\x7d'
      layout verbose
      if digits = [] ∨ !digits.all isHexDigit then fail
      pure digits
    else readHexDigits verbose length
  let code := hexNat digits
  if isScalar code then return ⟨code, !braces && length == 2⟩ else fail

/-- The name of a set, split at the sign between a property and its value. -/
def Named.ofName (name : List Char) : Bool × Named :=
  let splitAt (sign : List Char) (p : List Char → Bool) : Option (List Char × List Char) :=
    ((List.range name.length).find? fun i => p (name.drop i)).map fun i =>
      (name.take i, name.drop (i + sign.length))
  match splitAt ['!', '='] (['!', '='].isPrefixOf ·) with
  | some (property, value) => (true, .valued property value)
  | none =>
      let parts := splitAt [':'] ([':'].isPrefixOf ·) <|> splitAt ['='] (['='].isPrefixOf ·)
      match parts with
      | some (property, value) => (false, .valued property value)
      | none => (false, .single name)

/-- A set that Unicode names, by one letter or by a name in braces. -/
def readNamed (verbose : Bool) (negated : Bool) : Reader WrittenSet := do
  layout verbose
  let c ← next
  if c = '\x7b' then do
    layout verbose
    let name ← readRun verbose (· ≠ '\x7d')
    expect '\x7d'
    let (differs, property) := Named.ofName name
    return .named (negated != differs) property
  else if c = '\\' then fail
  else do
    layout verbose
    return .named negated (.single [c])

/-- What follows a word boundary in braces; where no letter or hyphen follows the brace, it
begins a repetition. -/
def readBoundary (verbose : Bool) : Reader WrittenPlace := do
  let inName (c : Char) : Bool := c.isAlpha || c = '-'
  match ← text with
  | '\x7b' :: rest =>
      match skipLayout verbose rest with
      | [] => fail
      | c :: rest =>
          if inName c then do
            setText (c :: rest)
            let name ← readRun verbose inName
            expect '\x7d'
            match String.ofList name with
            | "start" => return .wordStart
            | "end" => return .wordEnd
            | "start-half" => return .halfStart
            | "end-half" => return .halfEnd
            | _ => fail
          else return .boundary
  | _ => return .boundary

/-- What a backslash begins. -/
def readEscape (verbose : Bool) : Reader Written := do
  let code (n : Nat) : Reader Written := return .literal ⟨n, false⟩
  let c ← next
  match c with
  | 'x' => return .literal (← readHex verbose 2)
  | 'u' => return .literal (← readHex verbose 4)
  | 'U' => return .literal (← readHex verbose 8)
  | 'p' => return .set (← readNamed verbose false)
  | 'P' => return .set (← readNamed verbose true)
  | 'd' => return .set (.shorthand false .digit)
  | 's' => return .set (.shorthand false .blank)
  | 'w' => return .set (.shorthand false .word)
  | 'D' => return .set (.shorthand true .digit)
  | 'S' => return .set (.shorthand true .blank)
  | 'W' => return .set (.shorthand true .word)
  | 'a' => code 7
  | 't' => code 9
  | 'n' => code 10
  | 'v' => code 11
  | 'f' => code 12
  | 'r' => code 13
  | 'A' => return .place .textStart
  | 'z' => return .place .textEnd
  | 'b' => return .place (← readBoundary verbose)
  | 'B' => return .place .noBoundary
  | '<' => return .place .wordStart
  | '>' => return .place .wordEnd
  | c => if c.toNat < 128 ∧ !c.isAlphanum then code c.toNat else fail

/-- The sets that are named between colons. -/
def asciiSet? (name : String) : Option CharSet :=
  let table (line : String) : Option CharSet := some (.ofTable [line])
  match name with
  | "alnum" => table "30-39 41-5A 61-7A"
  | "alpha" => table "41-5A 61-7A"
  | "ascii" => table "0-7F"
  | "blank" => table "9 20"
  | "cntrl" => table "0-1F 7F"
  | "digit" => table "30-39"
  | "graph" => table "21-7E"
  | "lower" => table "61-7A"
  | "print" => table "20-7E"
  | "punct" => table "21-2F 3A-40 5B-60 7B-7E"
  | "space" => table "9-D 20"
  | "upper" => table "41-5A"
  | "word" => table "30-39 41-5A 5F 61-7A"
  | "xdigit" => table "30-39 41-46 61-66"
  | _ => none

/-- A set such as `[:alpha:]` and what follows it; nothing where none stands. -/
def asciiSetAt? (cs : List Char) : Option (WrittenSet × List Char) :=
  match cs with
  | '[' :: ':' :: rest =>
      let (negated, rest) := match rest with
        | '^' :: rest => (true, rest)
        | rest => (false, rest)
      match rest.dropWhile (· ≠ ':') with
      | ':' :: ']' :: after =>
          (asciiSet? (String.ofList (rest.takeWhile (· ≠ ':')))).map fun ascii =>
            (.ascii negated ascii, after)
      | _ => none
  | _ => none

/-- One element of a set: a character, a range, or a set with a name. -/
def readItem (verbose : Bool) : Reader WrittenSet := do
  let readOne : Reader Written := do
    let c ← next
    if c = '\\' then readEscape verbose else return .literal ⟨c.toNat, false⟩
  let first ← readOne
  layout verbose
  match ← text with
  | [] => fail
  | c :: rest =>
      let after := afterHyphen verbose rest
      if c = '-' ∧ after ≠ some ']' ∧ after ≠ some '-' then do
        setText rest
        layout verbose
        let second ← readOne
        let low ← some! first.asLiteral?
        let high ← some! second.asLiteral?
        if low.code ≤ high.code then return .range low high else fail
      else some! first.asSet?

/-- The beginning of a set after its bracket: whether it is negated, and the hyphens or the
closing bracket that stand for themselves there. -/
def readSetStart (verbose : Bool) : Reader (Bool × List WrittenSet) := do
  layout verbose
  let negated := (← peek) = some '^'
  if negated then do
    advance 1
    layout verbose
  let hyphens ← readRun verbose (· = '-')
  let own (c : Char) : WrittenSet := .literal ⟨c.toNat, false⟩
  if hyphens = [] ∧ (← peek) = some ']' then do
    advance 1
    layout verbose
    return (negated, [own ']'])
  else return (negated, hyphens.map own)

/-- The operands of a set that are complete, and the operator after them. -/
abbrev Operand := Option (WrittenSet × SetOp)

def Operand.join (before : Operand) (items : List WrittenSet) : WrittenSet :=
  match before with
  | some (left, op) => .combined op left (.ofItems items.reverse)
  | none => .ofItems items.reverse

/-- The elements of a set up to its closing bracket, after the given ones, which stand last first.
Every round reads a character, and so does every bracket that opens. -/
def readSetBody (verbose : Bool) : Nat → Operand → List WrittenSet → Reader WrittenSet
  | 0, _, _ => fail
  | fuel + 1, before, items => do
      let operator (op : SetOp) : Reader WrittenSet := do
        advance 2
        readSetBody verbose fuel (some (before.join items, op)) []
      layout verbose
      match ← text with
      | [] => fail
      | ']' :: rest => do
          setText rest
          return before.join items
      | '[' :: rest =>
          match asciiSetAt? ('[' :: rest) with
          | some (item, after) => do
              setText after
              readSetBody verbose fuel before (item :: items)
          | none => do
              setText rest
              let (negated, start) ← readSetStart verbose
              let inner ← readSetBody verbose fuel none start.reverse
              readSetBody verbose fuel before (.bracketed negated inner :: items)
      | '&' :: '&' :: _ => operator .inter
      | '-' :: '-' :: _ => operator .diff
      | '~' :: '~' :: _ => operator .symmetricDiff
      | _ => do
          let item ← readItem verbose
          readSetBody verbose fuel before (item :: items)

/-- A set after its opening bracket. -/
def readSet (verbose : Bool) : Reader WrittenSet := do
  let fuel := (← text).length + 1
  let (negated, start) ← readSetStart verbose
  return .bracketed negated (← readSetBody verbose fuel none start.reverse)

def flag? : Char → Option Flag
  | 'i' => some .ignoreCase
  | 'm' => some .multiLine
  | 's' => some .dotAll
  | 'U' => some .swapGreed
  | 'u' => some .unicode
  | 'R' => some .crlf
  | 'x' => some .verbose
  | _ => none

/-- The flags of a group up to `:` or `)`, after the given ones. No flag stands twice; a minus
sign stands once at most, and a flag follows it. -/
def switches? (on : Bool) (seen : Switches) : List Char → Option (Switches × List Char)
  | [] => none
  | c :: rest =>
      if c = ':' ∨ c = ')' then some (seen.reverse, c :: rest)
      else if c = '-' then
        match rest with
        | ':' :: _ | ')' :: _ => none
        | rest => if on then switches? false seen rest else none
      else match flag? c with
        | some flag =>
            if seen.any (·.1 = flag) then none else switches? on ((flag, on) :: seen) rest
        | none => none

/-- The name of a group up to its closing angle bracket. -/
def readName : Reader Unit := do
  let input ← get
  let name := input.rest.takeWhile (· ≠ '>')
  let isLetter (c : Char) : Bool := c = '_' || Unicode.alphabetic.contains c.toNat
  let isInner (c : Char) : Bool :=
    isLetter c || c = '.' || c = '[' || c = ']' || Unicode.numbers.contains c.toNat
  match name with
  | [] => fail
  | first :: rest =>
      if isLetter first ∧ rest.all isInner ∧ !input.names.contains name then do
        setText (input.rest.drop name.length)
        expect '>'
        modify fun i => { i with names := name :: i.names }
      else fail

/-- A decimal number below `2 ^ 32`, blanks around it. -/
def readCount (verbose : Bool) : Reader Nat := do
  setText ((← text).dropWhile Text.isBlank)
  let digits ← readRun verbose Char.isDigit
  setText ((← text).dropWhile Text.isBlank)
  let n := digits.foldl (fun n c => 10 * n + (c.toNat - 48)) 0
  if digits = [] ∨ 4294967296 ≤ n then fail else return n

/-- The bounds of a repetition, after the opening brace. -/
def readBounds (verbose : Bool) : Reader (Nat × Option Nat) := do
  layout verbose
  let min ← readCount verbose
  let (max : Option Nat) ←
    if (← peek) = some ',' then do
      advance 1
      layout verbose
      if (← peek) = some '\x7d' then pure none else some <$> readCount verbose
    else pure (some min)
  expect '\x7d'
  layout verbose
  if max.all (min ≤ ·) then return (min, max) else fail

/-- A question mark right after a repetition asks for few rounds. -/
def readGreed : Reader Bool := do
  if (← peek) = some '?' then do
    advance 1
    return false
  else return true

/-- How a group begins, after its opening parenthesis. -/
inductive GroupStart where
  /-- Only flags, which hold from here on. -/
  | switches (flags : Switches)
  | group (kind : GroupKind)

def readNumbered : Reader GroupStart :=
  modifyGet fun input =>
    (.group (.numbered (input.groups + 1)), { input with groups := input.groups + 1 })

def readGroupStart (verbose : Bool) : Reader GroupStart := do
  layout verbose
  match ← text with
  | '?' :: '=' :: _ | '?' :: '!' :: _ | '?' :: '<' :: '=' :: _ | '?' :: '<' :: '!' :: _ => fail
  | '?' :: 'P' :: '<' :: rest | '?' :: '<' :: rest => do
      setText rest
      readName
      readNumbered
  | '?' :: rest => do
      let (flags, rest) ← some! (switches? true [] rest)
      setText (rest.drop 1)
      if rest.head? = some ':' then return .group (.switched flags)
      else if flags = [] then fail
      else return .switches flags
  | _ => readNumbered

def GroupKind.switches : GroupKind → Switches
  | .numbered _ => []
  | .switched flags => flags

/-- Whether a pattern is verbose after switches. -/
def verboseAfter (verbose : Bool) (flags : Switches) : Bool :=
  (flags.lookup .verbose).getD verbose

/-- Alternatives up to the end of the text or the closing parenthesis of the group, after the
given alternatives and elements, which stand last first. Every round reads a character, and so
does every parenthesis that opens. -/
def readBody : Nat → Bool → Bool → List Written → List Written → Reader Written
  | 0, _, _, _, _ => fail
  | fuel + 1, verbose, nested, alts, items => do
      let again (item : Written) : Reader Written :=
        readBody fuel verbose nested alts (item :: items)
      let repeatLast (min : Nat) (max : Option Nat) : Reader Written :=
        match items with
        | last :: before => do
            let greedy ← readGreed
            if last.isRepeatable then
              readBody fuel verbose nested alts (.repeated last min max greedy :: before)
            else fail
        | [] => fail
      let result := Written.ofAlternatives (.ofSequence items.reverse :: alts).reverse
      layout verbose
      if (← text) = [] then
        if nested then fail else return result
      else do
        let c ← next
        match c with
        | ')' => if nested then return result else fail
        | '|' => readBody fuel verbose nested (.ofSequence items.reverse :: alts) []
        | '(' => do
            match ← readGroupStart verbose with
            | .switches flags =>
                readBody fuel (verboseAfter verbose flags) nested alts (.flags flags :: items)
            | .group kind => do
                let inner ← readBody fuel (verboseAfter verbose kind.switches) true [] []
                again (.group kind inner)
        | '[' => do
            let chars ← readSet verbose
            again (.set chars)
        | '*' => repeatLast 0 none
        | '+' => repeatLast 1 none
        | '?' => repeatLast 0 (some 1)
        | '\x7b' => do
            let (min, max) ← readBounds verbose
            repeatLast min max
        | '.' => again .dot
        | '^' => again (.place .lineStart)
        | '$' => again (.place .lineEnd)
        | '\\' => do
            let p ← readEscape verbose
            again p
        | c => again (.literal ⟨c.toNat, false⟩)

/-- Reads a pattern. -/
def Written.read? (text : String) : Option Written :=
  let cs := text.toList
  let written := ((readBody (2 * cs.length + 2) false false [] []).run ⟨cs, [], 0⟩).map Prod.fst
  written.filter fun p => p.depth ≤ depthLimit

end ImageryJobs.Pattern
