import DocPipeline.Json.Value
import DocPipeline.Text.Blank

/-!
# Modes and operations

The direction of a run, the direction that one stage may be forced into, and the three operations
that a stage offers.

Modes have one strict spelling, which configurations use, and a lenient reading for what people
type: blanks at the ends and the case of ASCII letters do not matter, and two modes have a second
name.

## Main definitions

* `ExecutionMode`, `ForcedMode`, `Operation`.
* `ExecutionMode.ofText?`, `ForcedMode.ofText?`: the lenient readings.
* `ExecutionMode.operation`: what a stage does in a run.
-/

namespace DocPipeline

/-- The direction of a run. -/
inductive ExecutionMode where
  /-- From a document to the database: every stage writes. -/
  | push
  /-- From the database to a document: stages read unless they are forced to write. -/
  | pull
  /-- Every stage writes and then reads. -/
  | call
  /-- Every stage goes the way it is configured, and counters are reported. -/
  | execute
deriving DecidableEq, Repr

namespace ExecutionMode

/-- The strict spelling of a mode. -/
def token : ExecutionMode → String
  | .push => "XML2DB"
  | .pull => "DB2XML"
  | .call => "CALL"
  | .execute => "EXECUTE"

/-- The modes, each once. -/
def all : List ExecutionMode := [.push, .pull, .call, .execute]

/-- The lenient reading of a mode. -/
def ofText? (text : String) : Option ExecutionMode :=
  let word := Text.asciiUpper (Text.trim text)
  if word = "XML2DB" ∨ word = "PUSH" then some .push
  else if word = "DB2XML" ∨ word = "PULL" then some .pull
  else if word = "CALL" then some .call
  else if word = "EXECUTE" then some .execute
  else none

/-- A mode as it is configured. -/
def toJson (mode : ExecutionMode) : Json := .str mode.token

/-- The mode that a configured value gives. -/
def ofJson? : Json → Option ExecutionMode := Json.choice? all token

end ExecutionMode

/-- The direction of one stage. -/
inductive ForcedMode where
  /-- The stage follows the mode of the run. -/
  | natural
  /-- The stage writes. -/
  | toDatabase
  /-- The stage reads. -/
  | fromDatabase
deriving DecidableEq, Repr

namespace ForcedMode

/-- The strict spelling of a mode. -/
def token : ForcedMode → String
  | .natural => "NATURAL"
  | .toDatabase => "FORCE_TO_DB"
  | .fromDatabase => "FORCE_FROM_DB"

/-- The modes, each once. -/
def all : List ForcedMode := [.natural, .toDatabase, .fromDatabase]

/-- The lenient reading of a mode; nothing at all means that nothing is forced. -/
def ofText? (text : String) : Option ForcedMode :=
  let word := Text.asciiUpper (Text.trim text)
  if word = "" ∨ word = "NATURAL" then some .natural
  else if word = "FORCE_TO_DB" then some .toDatabase
  else if word = "FORCE_FROM_DB" then some .fromDatabase
  else none

/-- A mode as it is configured. -/
def toJson (mode : ForcedMode) : Json := .str mode.token

/-- The mode that a configured value gives. -/
def ofJson? : Json → Option ForcedMode := Json.choice? all token

end ForcedMode

/-- What a stage can be asked to do with a connection. -/
inductive Operation where
  | write
  | read
  | writeThenRead
deriving DecidableEq, Repr

namespace Operation

/-- The name of an operation in events. -/
def token : Operation → String
  | .write => "write"
  | .read => "read"
  | .writeThenRead => "write_then_read"

/-- The name of an operation in failure messages. -/
def title : Operation → String
  | .write => "Write"
  | .read => "Read"
  | .writeThenRead => "WriteThenRead"

/-- The operations, each once. -/
def all : List Operation := [.write, .read, .writeThenRead]

/-- The operation of a name. -/
def ofToken? (name : String) : Option Operation := all.find? (·.token = name)

end Operation

/-- What a stage with a direction of its own does in a run: writing and calling runs take no notice
of it, reading runs write where that is forced, and executing runs follow it. -/
def ExecutionMode.operation : ExecutionMode → ForcedMode → Operation
  | .push, _ => .write
  | .call, _ => .writeThenRead
  | .pull, .toDatabase => .write
  | .pull, _ => .read
  | .execute, .toDatabase => .write
  | .execute, .fromDatabase => .read
  | .execute, .natural => .writeThenRead

end DocPipeline
