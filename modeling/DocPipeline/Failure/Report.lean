import DocPipeline.Failure

/-!
# Reports of failures

Failures as values: the area and the message, and whatever is particular to the area.
-/

namespace DocPipeline

/-- The fields of a report on a configuration error. -/
def ConfigurationError.report (e : ConfigurationError) : List (String × Json) :=
  [("error", ErrorKind.configuration.toJson), ("message", .str e.message),
    ("code", Json.nullable .str e.code), ("stages", .arr (e.stages.map .str)),
    ("info", Json.nullable ErrorInfo.toJson e.info)]

/-- The fields of a report on a database failure. -/
def DatabaseError.report (e : DatabaseError) : List (String × Json) :=
  [("error", ErrorKind.database.toJson), ("message", .str e.message), ("db_kind", e.kind.toJson),
    ("vendor_code", Json.nullable .str e.vendorCode)]

/-- The fields of a report on a failed transformation. -/
def TransformError.report (e : TransformError) : List (String × Json) :=
  [("error", ErrorKind.transform.toJson), ("message", .str e.message),
    ("reference", .str e.reference)]

/-- The name of a cause by which documents cannot be merged. -/
def MergeError.variant : MergeError → String
  | .unmatchedDestination _ => "UnmatchedDestination"
  | .missingSlot _ => "MissingSlot"
  | .notADocument _ => "NotADocument"
  | .malformed _ => "Parse"

/-- The fields of a report on documents that cannot be merged. -/
def MergeError.report (e : MergeError) : List (String × Json) :=
  [("error", ErrorKind.merge.toJson), ("variant", .str e.variant), ("message", .str e.message)]

/-- The fields of a report on a failure of a run. -/
def PipelineError.report : PipelineError → List (String × Json)
  | .configuration e => e.report
  | .database e => e.report
  | .transform e => e.report
  | .merge e => e.report
  | e => [("error", e.kind.toJson), ("message", .str e.message)]

/-- The fields of a report on a failed run. -/
def RunFailure.report (failure : RunFailure) : List (String × Json) :=
  failure.error.report ++
    [("display", .str failure.message), ("pipeline", .str failure.pipeline),
      ("kind", failure.error.kind.toJson), ("is_cancelled", .bool failure.error.isCancelled)]

end DocPipeline
