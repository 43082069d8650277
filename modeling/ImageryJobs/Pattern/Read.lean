import ImageryJobs.Pattern.Automaton
import ImageryJobs.Pattern.Meaning
import ImageryJobs.Pattern.Reader

/-!
Patterns from their texts.
-/

namespace ImageryJobs.Pattern

/-- The pattern of a text; nothing if the text is no pattern or the pattern is too large. -/
def read? (text : String) : Option Pattern := do
  let written ← Written.read? text
  written.pattern?.filter fits

end ImageryJobs.Pattern
