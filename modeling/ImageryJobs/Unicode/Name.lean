import ImageryJobs.Unicode.Break
import ImageryJobs.Unicode.Version

/-!
Sets of characters by the names that Unicode gives to properties and their values. Names are
read loosely: case, blanks, hyphens and low lines do not count, nor a leading `is`.
-/

namespace ImageryJobs.Unicode

/-- The form in which names are compared. A name that is only `isc` keeps its beginning. -/
def looseName (name : List Char) : String :=
  let kept (cs : List Char) :=
    (cs.filter fun c => c.toNat < 128 && c != ' ' && c != '_' && c != '-').map Char.toLower
  match name with
  | first :: second :: rest =>
      if first.toLower = 'i' ∧ second.toLower = 's' then
        if kept rest = ['c'] then "isc" else String.ofList (kept rest)
      else String.ofList (kept name)
  | name => String.ofList (kept name)

/-- The general categories and their groups. -/
def categorySets : List NamedSet :=
  [⟨["any"], .all⟩,
   ⟨["assigned"], assigned⟩,
   ⟨["ascii"], .range 0 127⟩,
   ⟨["c", "other"], (ofCategories Category.others).union assigned.complement⟩,
   ⟨["cn", "unassigned"], assigned.complement⟩,
   ⟨["l", "letter"], ofCategories Category.letters⟩,
   ⟨["lc", "casedletter"], ofCategories Category.casedLetters⟩,
   ⟨["m", "mark", "combiningmark"], ofCategories Category.marks⟩,
   ⟨["n", "number"], ofCategories Category.numbers⟩,
   ⟨["p", "punctuation", "punct"], ofCategories Category.punctuation⟩,
   ⟨["s", "symbol"], ofCategories Category.symbols⟩,
   ⟨["z", "separator"], ofCategories Category.separators⟩,
   ⟨["lu", "uppercaseletter"], Category.uppercaseLetter.chars⟩,
   ⟨["ll", "lowercaseletter"], Category.lowercaseLetter.chars⟩,
   ⟨["lt", "titlecaseletter"], Category.titlecaseLetter.chars⟩,
   ⟨["lm", "modifierletter"], Category.modifierLetter.chars⟩,
   ⟨["lo", "otherletter"], Category.otherLetter.chars⟩,
   ⟨["mn", "nonspacingmark"], Category.nonspacingMark.chars⟩,
   ⟨["mc", "spacingmark"], Category.spacingMark.chars⟩,
   ⟨["me", "enclosingmark"], Category.enclosingMark.chars⟩,
   ⟨["nd", "decimalnumber", "digit"], Category.decimalNumber.chars⟩,
   ⟨["nl", "letternumber"], Category.letterNumber.chars⟩,
   ⟨["no", "othernumber"], Category.otherNumber.chars⟩,
   ⟨["pc", "connectorpunctuation"], Category.connectorPunctuation.chars⟩,
   ⟨["pd", "dashpunctuation"], Category.dashPunctuation.chars⟩,
   ⟨["ps", "openpunctuation"], Category.openPunctuation.chars⟩,
   ⟨["pe", "closepunctuation"], Category.closePunctuation.chars⟩,
   ⟨["pi", "initialpunctuation"], Category.initialPunctuation.chars⟩,
   ⟨["pf", "finalpunctuation"], Category.finalPunctuation.chars⟩,
   ⟨["po", "otherpunctuation"], Category.otherPunctuation.chars⟩,
   ⟨["sm", "mathsymbol"], Category.mathSymbol.chars⟩,
   ⟨["sc", "currencysymbol"], Category.currencySymbol.chars⟩,
   ⟨["sk", "modifiersymbol"], Category.modifierSymbol.chars⟩,
   ⟨["so", "othersymbol"], Category.otherSymbol.chars⟩,
   ⟨["zs", "spaceseparator"], Category.spaceSeparator.chars⟩,
   ⟨["zl", "lineseparator"], Category.lineSeparator.chars⟩,
   ⟨["zp", "paragraphseparator"], Category.paragraphSeparator.chars⟩,
   ⟨["cc", "control", "cntrl"], Category.control.chars⟩,
   ⟨["cf", "format"], Category.format.chars⟩,
   ⟨["co", "privateuse"], Category.privateUse.chars⟩]

/-- The set that one name stands for: a property, a general category or a script. Three short
names belong to both a property and a category, and mean the category. -/
def named? (name : List Char) : Option CharSet :=
  let name := looseName name
  let isCategory := name = "cf" || name = "sc" || name = "lc"
  (if isCategory then none else lookup? properties name)
    <|> lookup? categorySets name
    <|> (script? name).map Script.chars

/-- The set of the characters that have a value of a property. -/
def valued? (property value : List Char) : Option CharSet :=
  let value := looseName value
  match looseName property with
  | "gc" | "generalcategory" => lookup? categorySets value
  | "sc" | "script" => (script? value).map Script.chars
  | "scx" | "scriptextensions" => (script? value).map Script.users
  | "age" => assignedBy? value versions
  | "gcb" | "graphemeclusterbreak" => lookup? Grapheme.breaks value
  | "wb" | "wordbreak" => lookup? Word.breaks value
  | "sb" | "sentencebreak" => lookup? Sentence.breaks value
  | _ => none

end ImageryJobs.Unicode
