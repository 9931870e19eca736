import DocPipeline.Failure

/-!
# Stated failures

Failures that are written down in advance, as values, for stages that are to fail in a given way.
-/

namespace DocPipeline

/-- The explanation of a stated configuration error. Its context is a list of pairs, of which the
later counts if two have one name. -/
def ErrorInfo.stated? (json : Json) : Option ErrorInfo := do
  let fields ← Json.fields? json
  let pair : Json → Option (String × String)
    | .arr [.str name, .str value] => some (name, value)
    | _ => none
  some
    { code := ← Json.required fields "code" Json.text?
      summary := ← Json.required fields "summary" Json.text?
      fixHint := ← Json.optional fields "fix_hint" Json.text?
      context := NameMap.ofList (← Json.orElse fields "context" (Json.items? pair) []) }

/-- A stated database failure. Unless its kind is given, it is one of the connection or of no
particular kind. -/
def DatabaseError.stated? (fields : List (String × Json)) : Option DatabaseError := do
  let atConnection ← Json.orElse fields "connection" Json.truth? false
  let kind ← Json.optional fields "kind" DatabaseErrorKind.ofJson?
  some
    { kind := kind.getD (if atConnection then .connection else .other)
      reason := ← Json.required fields "message" Json.text?
      vendorCode := ← Json.optional fields "vendor_code" Json.text? }

/-- The cause of a name by which documents cannot be merged, and what it is about. -/
def MergeError.stated? (variant value : String) : Option MergeError :=
  if variant = "UnmatchedDestination" then some (.unmatchedDestination value)
  else if variant = "MissingSlot" then some (.missingSlot value)
  else if variant = "NotADocument" then some (.notADocument value)
  else if variant = "Parse" then some (.malformed (.stated value))
  else none

/-- A stated failure. -/
def PipelineError.stated? (json : Json) : Option PipelineError := do
  let fields ← Json.fields? json
  let text (name : String) := Json.required fields name Json.text?
  let type ← text "type"
  if type = "configuration" then
    let stages ← Json.orElse fields "stages" (Json.items? Json.text?) []
    let info ← Json.optional fields "info" ErrorInfo.stated?
    some (.configuration (.stated (← text "message") stages info))
  else if type = "database" then (DatabaseError.stated? fields).map .database
  else if type = "transform" then some (.transform ⟨← text "reference", ← text "message"⟩)
  else if type = "merge" then
    (MergeError.stated? (← text "variant") (← text "value")).map .merge
  else if type = "cancelled" then some (.cancelled (← text "message"))
  else if type = "generic" then some (.generic [← text "message"])
  else if type = "chain" then
    (Json.required fields "parts" (Json.items? Json.text?)).map .generic
  else none

end DocPipeline
