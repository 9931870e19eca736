import DocPipeline.Text.Blank

/-!
# Log formats
-/

namespace DocPipeline

/-- How a log is written. -/
inductive LogFormat where
  /-- For people, over several lines. -/
  | pretty
  /-- One value a line. -/
  | json
deriving DecidableEq, Repr

namespace LogFormat

/-- The format that a word names, in whatever case its ASCII letters are, or a message about the
word. -/
def ofText (word : String) : Except String LogFormat :=
  let word := Text.asciiLower word
  if word = "pretty" ∨ word = "text" then .ok .pretty
  else if word = "json" then .ok .json
  else .error s!"unknown log format '{word}'"

end LogFormat

end DocPipeline
