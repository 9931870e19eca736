import DocPipeline.Json.Value

/-!
# Event logs

Where events go: into a list that keeps them all, or into a log at some level.
-/

namespace DocPipeline

/-- Events by name, with their data if there are any, in the order in which they came. -/
structure EventLog where
  entries : List (String × Option Json) := []
deriving DecidableEq

namespace EventLog

/-- A log with one more event. -/
def emit (log : EventLog) (type : String) (data : Option Json) : EventLog :=
  ⟨log.entries ++ [(type, data)]⟩

/-- The names of the events. -/
def types (log : EventLog) : List String := log.entries.map (·.1)

/-- The events whose names begin in the given way. -/
def ofType (log : EventLog) (start : String) : List (String × Option Json) :=
  log.entries.filter fun entry => start.toList.isPrefixOf entry.1.toList

/-- The number of events. -/
def size (log : EventLog) : Nat := log.entries.length

/-- Whether nothing happened. -/
def isEmpty (log : EventLog) : Bool := log.entries.isEmpty

end EventLog

/-- How much is to be logged, from little to much. -/
inductive LogLevel where
  | error
  | warn
  | info
  | debug
  | trace
deriving DecidableEq, Repr

namespace LogLevel

/-- The name of a level. -/
def token : LogLevel → String
  | .error => "ERROR"
  | .warn => "WARN"
  | .info => "INFO"
  | .debug => "DEBUG"
  | .trace => "TRACE"

/-- The levels, each once. -/
def all : List LogLevel := [.error, .warn, .info, .debug, .trace]

/-- The level of a name. -/
def ofToken? (name : String) : Option LogLevel := all.find? (·.token = name)

/-- The level at which events are logged if a sink is set to a level: events are ordinary
information, unless the sink asks for more than that. -/
def forEvents : LogLevel → LogLevel
  | .error | .warn | .info => .info
  | .debug | .trace => .debug

/-- What is logged of an event. -/
def eventMessage (type : String) : String := s!"Event: {type}"

end LogLevel

end DocPipeline
