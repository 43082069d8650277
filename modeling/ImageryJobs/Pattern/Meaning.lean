import ImageryJobs.Pattern.Basic
import ImageryJobs.Pattern.Written
import ImageryJobs.Unicode.CaseFold
import ImageryJobs.Unicode.Name

/-!
What a written pattern means under its flags. Where Unicode is switched off, a set may hold ASCII
characters only, so it has no complement, and no character beyond ASCII stands in it.
-/

namespace ImageryJobs.Pattern

/-- The flags in force. -/
structure Flags where
  ignoreCase : Bool
  multiLine : Bool
  dotAll : Bool
  swapGreed : Bool
  unicode : Bool
  crlf : Bool

namespace Flags

def initial : Flags := ⟨false, false, false, false, true, false⟩

def switch (flags : Flags) (change : Flag × Bool) : Flags :=
  match change with
  | (.ignoreCase, on) => { flags with ignoreCase := on }
  | (.multiLine, on) => { flags with multiLine := on }
  | (.dotAll, on) => { flags with dotAll := on }
  | (.swapGreed, on) => { flags with swapGreed := on }
  | (.unicode, on) => { flags with unicode := on }
  | (.crlf, on) => { flags with crlf := on }
  | (.verbose, _) => flags

def switchAll (flags : Flags) (changes : Switches) : Flags := changes.foldl switch flags

/-- A set and, if case does not count, the other cases of its characters. -/
def fold (flags : Flags) (s : CharSet) : CharSet :=
  if !flags.ignoreCase then s else if flags.unicode then s.anyCase else s.anyAsciiCase

def negate? (flags : Flags) (negated : Bool) (s : CharSet) : Option CharSet :=
  if !negated then some s else if flags.unicode then some s.complement else none

def shorthand (flags : Flags) (set : Shorthand) : CharSet :=
  match set with
  | .digit => if flags.unicode then Unicode.decimalDigits else .range 0x30 0x39
  | .blank => if flags.unicode then Unicode.whiteSpace else .ofTable ["9-D 20"]
  | .word => if flags.unicode then Unicode.wordCharacters else Place.asciiWord

/-- Whether a character may stand in a set. -/
def admits (flags : Flags) (l : Literal) : Bool := flags.unicode || decide (l.code < 128)

end Flags

def Named.chars? : Named → Option CharSet
  | .single name => Unicode.named? name
  | .valued property value => Unicode.valued? property value

def SetOp.apply : SetOp → CharSet → CharSet → CharSet
  | .inter => .inter
  | .diff => .diff
  | .symmetricDiff => .symmetricDiff

mutual

/-- The characters of a written set. Case is folded before a set is negated, and before two sets
are combined; a shorthand is never folded by itself. -/
def WrittenSet.chars? (flags : Flags) : WrittenSet → Option CharSet
  | .empty => some .empty
  | .literal l => if flags.admits l then some (.single l.code) else none
  | .range low high =>
      if flags.admits low && flags.admits high then some (.range low.code high.code) else none
  | .ascii negated s => flags.negate? negated (flags.fold s)
  | .shorthand negated s => flags.negate? negated (flags.shorthand s)
  | .named negated s => do
      if !flags.unicode then none
      flags.negate? negated (flags.fold (← s.chars?))
  | .bracketed negated s => do flags.negate? negated (flags.fold (← s.chars? flags))
  | .union items => do return .unionAll (← WrittenSet.allChars? flags items)
  | .combined op left right => do
      return op.apply (flags.fold (← left.chars? flags)) (flags.fold (← right.chars? flags))

def WrittenSet.allChars? (flags : Flags) : List WrittenSet → Option (List CharSet)
  | [] => some []
  | s :: rest => do return (← s.chars? flags) :: (← WrittenSet.allChars? flags rest)

end

/-- A character outside of sets. Two hexadecimal digits mean an octet where Unicode is switched
off, and an octet beyond ASCII is no character. -/
def Literal.pattern? (flags : Flags) (l : Literal) : Option Pattern :=
  if l.octet && !flags.admits l then none
  else some (ofSet (flags.fold (.single l.code)))

/-- Any character, or any but the ends of lines. -/
def dot? (flags : Flags) : Option Pattern :=
  let ends : CharSet :=
    if flags.dotAll then .empty
    else if flags.crlf then .ofTable ["A D"]
    else .single 10
  if flags.unicode then some (ofSet ends.complement) else none

def WrittenPlace.place (flags : Flags) : WrittenPlace → Place
  | .lineStart => if flags.multiLine then .lineStart flags.crlf else .textStart
  | .lineEnd => if flags.multiLine then .lineEnd flags.crlf else .textEnd
  | .textStart => .textStart
  | .textEnd => .textEnd
  | .boundary => .boundary flags.unicode
  | .noBoundary => .noBoundary flags.unicode
  | .wordStart => .wordStart flags.unicode
  | .wordEnd => .wordEnd flags.unicode
  | .halfStart => .halfStart flags.unicode
  | .halfEnd => .halfEnd flags.unicode

mutual

/-- The pattern that is written, and the flags in force after it. Flags that are switched hold
until the end of the group, over the alternatives that follow in it too. -/
def Written.meaning? (flags : Flags) : Written → Option (Pattern × Flags)
  | .empty => some (.empty, flags)
  | .flags changes => some (.empty, flags.switchAll changes)
  | .literal l => do return (← l.pattern? flags, flags)
  | .dot => do return (← dot? flags, flags)
  | .place p => some (.place (p.place flags), flags)
  | .set s => do return (ofSet (← s.chars? flags), flags)
  | .repeated p min max greedy => do
      let (p, flags) ← p.meaning? flags
      return (p.times min max (greedy != flags.swapGreed), flags)
  | .group (.numbered index) p => do
      return (.capture index (← p.meaning? flags).1, flags)
  | .group (.switched changes) p => do
      return ((← p.meaning? (flags.switchAll changes)).1, flags)
  | .alternatives ps => do
      let (ps, flags) ← Written.meanings? flags ps
      return (Pattern.ofAlternatives ps, flags)
  | .sequence ps => do
      let (ps, flags) ← Written.meanings? flags ps
      return (Pattern.ofSequence ps, flags)

def Written.meanings? (flags : Flags) : List Written → Option (List Pattern × Flags)
  | [] => some ([], flags)
  | p :: rest => do
      let (p, flags) ← p.meaning? flags
      let (ps, flags) ← Written.meanings? flags rest
      return (p :: ps, flags)

end

/-- The pattern that is written, no flag being switched before it. -/
def Written.pattern? (p : Written) : Option Pattern := (p.meaning? .initial).map Prod.fst

end ImageryJobs.Pattern
