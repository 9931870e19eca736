import DocPipeline.Document.Fault
import DocPipeline.Document.Path
import DocPipeline.Json.Value
import DocPipeline.Mode

/-!
# Failures

Why a pipeline cannot be set up and why a run fails, as causes. The wording of every cause is given
once, by its `message`, and configuration causes have a structured explanation beside it. Failures
that come from outside, from stages, connections or transformers, bring their own words.

## Main definitions

* `ConfigurationError`, `DatabaseError`, `TransformError`, `MergeError`: the causes by area.
* `PipelineError`: any of them, or a cancelled run.
* `RunFailure`: a failed run, with its pipeline and its identity.
-/

namespace DocPipeline

/-! ### Configuration -/

/-- A structured explanation of a configuration error. -/
structure ErrorInfo where
  code : String
  summary : String
  fixHint : Option String := none
  context : NameMap String := .empty
deriving DecidableEq

/-- The two families of modes. -/
inductive ModeFamily where
  | execution
  | forced
deriving DecidableEq, Repr

/-- What a family of modes is called. -/
def ModeFamily.label : ModeFamily → String
  | .execution => "execution mode"
  | .forced => "forced mode"

/-- Why there is no configuration to be had. -/
inductive ConfigFault where
  /-- There is no file. -/
  | missingFile
  /-- The file holds bytes that encode no text. -/
  | notUtf8
  /-- The text is no JSON, or not that of a configuration. -/
  | unfitting
deriving DecidableEq, Repr

/-- A configuration fault in words. -/
def ConfigFault.message : ConfigFault → String
  | .missingFile => "no such file"
  | .notUtf8 => "the file is not UTF-8"
  | .unfitting => "the text is not a pipeline configuration"

/-- Why a pipeline or a stage cannot be set up. -/
inductive ConfigurationError where
  /-- A pipeline has no stages. -/
  | noStages (pipeline : String)
  /-- Nothing is registered for the type of a stage. -/
  | unknownStageType (stage type : String)
  /-- An expression is no node path. -/
  | malformedPath (expression : String) (fault : PathFault)
  /-- A merge rule lacks one of its paths. -/
  | missingPath (slot path : String)
  /-- A word names no mode. -/
  | unknownMode (family : ModeFamily) (word : String)
  /-- Variables refer to one another in a circle; the first name is repeated at the end. -/
  | variableCycle (names : List String)
  /-- The value of a variable exceeds a limit in bytes. -/
  | variableOverflow (name : String) (limit : Nat)
  /-- Variables still change after the last pass. -/
  | unsettledVariables (names : List String) (passes : Nat)
  /-- The text or file of a configuration cannot be used. -/
  | unusableConfig (fault : ConfigFault)
  /-- An error in the words of whoever raised it. -/
  | stated (message : String) (stages : List String) (info : Option ErrorInfo)
deriving DecidableEq

namespace ConfigurationError

/-- What went wrong. -/
def reason : ConfigurationError → String
  | .noStages pipeline => s!"Pipeline '{pipeline}' has no stages"
  | .unknownStageType stage type => s!"Stage '{stage}' has unknown type '{type}'"
  | .malformedPath expression fault => s!"Malformed node path '{expression}': {fault.message}"
  | .missingPath slot path => s!"Merge rule for slot '{slot}' is missing '{path}'"
  | .unknownMode family word => s!"Unknown {family.label} '{word}'"
  | .variableCycle names =>
    "Variables reference each other in a cycle: " ++ " -> ".intercalate names
  | .variableOverflow name limit =>
    s!"Variable '{name}' grew past {limit} bytes during resolution"
  | .unsettledVariables names passes =>
    s!"Variable resolution did not converge after {passes} passes; still changing: " ++
      ", ".intercalate names
  | .unusableConfig fault => s!"Invalid pipeline configuration: {fault.message}"
  | .stated message _ _ => message

/-- The stages that an error is about. -/
def stages : ConfigurationError → List String
  | .unknownStageType stage _ => [stage]
  | .stated _ stages _ => stages
  | _ => []

/-- The explanation that all errors of variable resolution share. -/
def variableInfo : ErrorInfo where
  code := "CONFIG-VARIABLE-CYCLE"
  summary := "Variables reference each other in a cycle"
  fixHint := some "Break the reference cycle between the listed variables."

/-- The structured explanation of an error, if it has one. -/
def info : ConfigurationError → Option ErrorInfo
  | .noStages pipeline => some
    { code := "CONFIG-EMPTY"
      summary := "A pipeline needs at least one stage"
      context := .single "pipeline" pipeline }
  | .unknownStageType _ type => some
    { code := "CONFIG-UNKNOWN-STAGE-TYPE"
      summary := s!"No constructor registered for '{type}'"
      fixHint := some "Register the stage type before initialising the pipeline." }
  | .malformedPath expression _ => some
    { code := "CONFIG-BAD-PATH"
      summary := s!"Cannot compile path '{expression}'"
      fixHint := some "Use '/a/b', '//name', 'a/b' or '*' steps only."
      context := .single "path" expression }
  | .missingPath slot path => some
    { code := "CONFIG-BAD-PATH"
      summary := s!"'{path}' is required"
      context := .single "slot" slot }
  | .unknownMode family word => some
    { code := "CONFIG-UNKNOWN-MODE"
      summary := s!"'{word}' is not a valid {family.label}" }
  | .variableCycle _ => some variableInfo
  | .variableOverflow _ _ => some variableInfo
  | .unsettledVariables _ _ => some variableInfo
  | .unusableConfig fault => some
    { code := "CONFIG-PARSE"
      summary := fault.message }
  | .stated _ _ info => info

/-- The code of an error, if it has an explanation. -/
def code (e : ConfigurationError) : Option String := e.info.map (·.code)

/-- An error in words. -/
def message (e : ConfigurationError) : String := "Configuration error: " ++ e.reason

end ConfigurationError

/-- The mode of a run that a word names, by the lenient reading. -/
def ExecutionMode.ofText (word : String) : Except ConfigurationError ExecutionMode :=
  match ExecutionMode.ofText? word with
  | some mode => .ok mode
  | none => .error (.unknownMode .execution word)

/-- The direction of a stage that a word names, by the lenient reading. -/
def ForcedMode.ofText (word : String) : Except ConfigurationError ForcedMode :=
  match ForcedMode.ofText? word with
  | some mode => .ok mode
  | none => .error (.unknownMode .forced word)

/-- The path that a text writes; the error names the text as it was given. -/
def NodePath.compile (expression : String) : Except ConfigurationError NodePath :=
  (NodePath.parse expression).mapError (.malformedPath expression)

/-! ### Database -/

/-- The kinds of database failure, whatever the database. -/
inductive DatabaseErrorKind where
  /-- No connection could be had or kept. -/
  | connection
  /-- A constraint was violated. -/
  | constraint
  /-- The transaction was chosen to resolve a deadlock. -/
  | deadlock
  /-- A statement or a lock took too long. -/
  | timeout
  /-- Anything else. -/
  | other
deriving DecidableEq, Repr

namespace DatabaseErrorKind

/-- The name of a kind. -/
def token : DatabaseErrorKind → String
  | .connection => "connection"
  | .constraint => "constraint"
  | .deadlock => "deadlock"
  | .timeout => "timeout"
  | .other => "other"

/-- The name of a kind in messages. -/
def title : DatabaseErrorKind → String
  | .connection => "Connection"
  | .constraint => "Constraint"
  | .deadlock => "Deadlock"
  | .timeout => "Timeout"
  | .other => "Other"

/-- The kinds, each once. -/
def all : List DatabaseErrorKind := [.connection, .constraint, .deadlock, .timeout, .other]

/-- A kind as a value. -/
def toJson (kind : DatabaseErrorKind) : Json := .str kind.token

/-- The kind that a value names. -/
def ofJson? : Json → Option DatabaseErrorKind := Json.choice? all token

end DatabaseErrorKind

/-- A failure of a connection or of a stage at the database. -/
structure DatabaseError where
  kind : DatabaseErrorKind := .other
  reason : String
  vendorCode : Option String := none
deriving DecidableEq, Repr

/-- A failure in words. -/
def DatabaseError.message (e : DatabaseError) : String :=
  s!"Database error ({e.kind.title}): {e.reason}"

/-- What happens to whoever uses a connection after it was handed back. -/
def DatabaseError.released : DatabaseError :=
  { kind := .connection, reason := "connection already released" }

/-! ### Transforming and merging -/

/-- A transformation that failed. -/
structure TransformError where
  reference : String
  reason : String
deriving DecidableEq, Repr

/-- A failure in words. -/
def TransformError.message (e : TransformError) : String :=
  s!"Transform '{e.reference}' failed: {e.reason}"

/-- Why documents cannot be merged. -/
inductive MergeError where
  /-- There is something to append, but the destination path selects nothing. -/
  | unmatchedDestination (path : String)
  /-- Nothing was stored in a slot. -/
  | missingSlot (slot : String)
  /-- What was stored in a slot is empty. -/
  | notADocument (slot : String)
  /-- What was stored in a slot is no document. -/
  | malformed (fault : DocumentFault)
deriving DecidableEq, Repr

/-- A failure in words. -/
def MergeError.message : MergeError → String
  | .unmatchedDestination path => s!"Merge destination path '{path}' matched no node"
  | .missingSlot slot => s!"Merge source slot '{slot}' is empty"
  | .notADocument slot => s!"Slot '{slot}' does not hold a document"
  | .malformed fault => s!"Malformed document: {fault.message}"

/-! ### Runs -/

/-- Why a run fails. -/
inductive PipelineError where
  | configuration (error : ConfigurationError)
  | database (error : DatabaseError)
  | transform (error : TransformError)
  | merge (error : MergeError)
  /-- The run was cancelled. -/
  | cancelled (reason : String)
  /-- Anything else, as a chain of explanations with the cause last. -/
  | generic (chain : List String)
deriving DecidableEq

/-- The area that a failure belongs to. -/
inductive ErrorKind where
  | configuration
  | database
  | transform
  | merge
  | cancelled
  | generic
deriving DecidableEq, Repr

namespace ErrorKind

/-- The name of an area. -/
def token : ErrorKind → String
  | .configuration => "configuration"
  | .database => "database"
  | .transform => "transform"
  | .merge => "merge"
  | .cancelled => "cancelled"
  | .generic => "generic"

/-- The areas, each once. -/
def all : List ErrorKind :=
  [.configuration, .database, .transform, .merge, .cancelled, .generic]

/-- An area as a value. -/
def toJson (kind : ErrorKind) : Json := .str kind.token

/-- The area that a value names. -/
def ofJson? : Json → Option ErrorKind := Json.choice? all token

end ErrorKind

namespace PipelineError

/-- The area that a failure belongs to. -/
def kind : PipelineError → ErrorKind
  | .configuration _ => .configuration
  | .database _ => .database
  | .transform _ => .transform
  | .merge _ => .merge
  | .cancelled _ => .cancelled
  | .generic _ => .generic

/-- A failure in words. -/
def message : PipelineError → String
  | .configuration error => error.message
  | .database error => error.message
  | .transform error => error.message
  | .merge error => error.message
  | .cancelled reason => s!"Pipeline cancelled: {reason}"
  | .generic chain => ": ".intercalate chain

/-- Whether the run was cancelled rather than failed. -/
def isCancelled (e : PipelineError) : Bool := e.kind = .cancelled

end PipelineError

/-- A failed run: the pipeline, the run, and the failure. -/
structure RunFailure where
  pipeline : String
  runId : String
  error : PipelineError
deriving DecidableEq

/-- A failed run in words. -/
def RunFailure.message (failure : RunFailure) : String :=
  s!"Data handling failed in pipeline '{failure.pipeline}' (run {failure.runId}): " ++
    failure.error.message

/-! ### Explanations as values -/

/-- An explanation as a value. -/
def ErrorInfo.toJson (info : ErrorInfo) : Json :=
  .obj [("code", .str info.code), ("summary", .str info.summary),
    ("fix_hint", Json.nullable .str info.fixHint), ("context", Json.ofMap .str info.context)]

/-- The explanation that a value gives. -/
def ErrorInfo.ofJson? (json : Json) : Option ErrorInfo := do
  let fields ← Json.record? ["code", "summary", "fix_hint", "context"] 3 json
  some
    { code := ← Json.required fields "code" Json.text?
      summary := ← Json.required fields "summary" Json.text?
      fixHint := ← Json.optional fields "fix_hint" Json.text?
      context := ← Json.orElse fields "context" (Json.map? Json.text?) .empty }

end DocPipeline
