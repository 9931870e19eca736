import DocPipeline.Payload.Basic

/-!
# Stage results

What a stage reports of one operation: a payload, counters, and why records were discarded.

Counters are unsigned numbers of 64 bits, and their sums stop at the largest such number instead of
starting over.

## Main definitions

* `Counters`, `DiscardCause`, `StageResult`.
* `Counters.add`: the saturating sum, counter by counter.
* `StageResult.sumAll`, `StageResult.withStatistics`: counters of many results in one.
-/

namespace DocPipeline

/-! ### Counters -/

/-- The sum of two counts, or the largest count if the sum is larger. -/
def saturatingAdd (a b : UInt64) : UInt64 :=
  UInt64.ofNat (min (a.toNat + b.toNat) (UInt64.size - 1))

/-- How many records a stage read, wrote and discarded. -/
structure Counters where
  read : UInt64 := 0
  insert : UInt64 := 0
  update : UInt64 := 0
  discard : UInt64 := 0
  total : UInt64 := 0
deriving DecidableEq, Repr

namespace Counters

/-- All counters at zero. -/
def zero : Counters := {}

instance : Inhabited Counters := ⟨zero⟩

/-- The saturating sum, counter by counter. -/
def add (a b : Counters) : Counters where
  read := saturatingAdd a.read b.read
  insert := saturatingAdd a.insert b.insert
  update := saturatingAdd a.update b.update
  discard := saturatingAdd a.discard b.discard
  total := saturatingAdd a.total b.total

instance : Add Counters := ⟨add⟩

/-- The saturating sum of a list. -/
def sum (items : List Counters) : Counters := items.foldl add zero

/-- Counters as a value. -/
def toJson (c : Counters) : Json :=
  .obj [("read", .int c.read.toNat), ("insert", .int c.insert.toNat),
    ("update", .int c.update.toNat), ("discard", .int c.discard.toNat),
    ("total", .int c.total.toNat)]

/-- The counters that a value gives; those it does not mention are zero. -/
def ofJson? (json : Json) : Option Counters := do
  let fields ← Json.record? ["read", "insert", "update", "discard", "total"] 0 json
  some
    { read := ← Json.orElse fields "read" Json.word? 0
      insert := ← Json.orElse fields "insert" Json.word? 0
      update := ← Json.orElse fields "update" Json.word? 0
      discard := ← Json.orElse fields "discard" Json.word? 0
      total := ← Json.orElse fields "total" Json.word? 0 }

end Counters

/-! ### Results -/

/-- Why a record was discarded. -/
structure DiscardCause where
  code : String
  reason : String
deriving DecidableEq, Repr

namespace DiscardCause

/-- A cause as a value. -/
def toJson (cause : DiscardCause) : Json :=
  .obj [("code", .str cause.code), ("reason", .str cause.reason)]

/-- The cause that a value gives. -/
def ofJson? (json : Json) : Option DiscardCause := do
  let fields ← Json.record? ["code", "reason"] 2 json
  some ⟨← Json.required fields "code" Json.text?, ← Json.required fields "reason" Json.text?⟩

end DiscardCause

/-- What a stage reports of one operation. -/
structure StageResult where
  payload : Payload := .empty
  counters : Counters := .zero
  discardCauses : List DiscardCause := []
deriving DecidableEq

namespace StageResult

/-- A report of nothing. -/
def nothing : StageResult := {}

instance : Inhabited StageResult := ⟨nothing⟩

/-- A payload without counters. -/
def ofPayload (payload : Payload) : StageResult := { payload }

/-- Counters without a payload. -/
def ofCounters (counters : Counters) : StageResult := { counters }

/-- A result with another payload. -/
def withPayload (result : StageResult) (payload : Payload) : StageResult :=
  { result with payload }

/-- A result with one more cause behind the others. -/
def withDiscardCause (result : StageResult) (cause : DiscardCause) : StageResult :=
  { result with discardCauses := result.discardCauses ++ [cause] }

/-- A result without its payload. -/
def withoutPayload (result : StageResult) : StageResult := result.withPayload .empty

/-- A result as a value; an empty list of causes is left out. -/
def toJson (result : StageResult) : Json :=
  .obj ([("payload", result.payload.toJson), ("counters", result.counters.toJson)] ++
    match result.discardCauses with
    | [] => []
    | first :: rest => [("discard_causes", .arr ((first :: rest).map DiscardCause.toJson))])

/-- The result that a value gives. -/
def ofJson? (json : Json) : Option StageResult := do
  let fields ← Json.record? ["payload", "counters", "discard_causes"] 0 json
  some
    { payload := ← Json.orElse fields "payload" Payload.ofJson? .empty
      counters := ← Json.orElse fields "counters" Counters.ofJson? .zero
      discardCauses :=
        ← Json.orElse fields "discard_causes" (Json.items? DiscardCause.ofJson?) [] }

/-! ### Statistics -/

/-- One more result in a sum: its counters are added and its causes put behind the others. -/
def addStatistics (total result : StageResult) : StageResult :=
  { total with
    counters := total.counters + result.counters
    discardCauses := total.discardCauses ++ result.discardCauses }

/-- The counters and causes of many results in one, without a payload. -/
def sumAll (results : List StageResult) : StageResult := results.foldl addStatistics nothing

/-- A result with the counters of another, except that its own discards and their causes stay. -/
def withStatistics (result source : StageResult) : StageResult :=
  { result with counters := { source.counters with discard := result.counters.discard } }

end StageResult

end DocPipeline
