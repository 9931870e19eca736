import DocPipeline.Failure

/-!
# Connections

What is asked of a database connection and of the provider that hands it out, what they answer when
they are made to fail, and what remains on record of it.

## Main definitions

* `ConnectionCall`: what is asked.
* `ConnectionFaults`: which calls fail, and how.
* `ConnectionLog`: what was asked, counted and in order.
-/

namespace DocPipeline

/-- What is asked of a connection or of its provider. -/
inductive ConnectionCall where
  /-- A connection of the given name is to be handed out. -/
  | acquire (name : String)
  /-- The connection is to commit every statement on its own, or no longer. -/
  | setAutoCommit (enabled : Bool)
  | commit
  | rollback
  /-- The connection of the given name is handed back. -/
  | release (name : String)
deriving DecidableEq, Repr

/-! ### Faults -/

/-- Which calls fail. -/
structure ConnectionFaults where
  acquire : Bool := false
  setAutoCommit : Bool := false
  commit : Bool := false
  rollback : Bool := false
  release : Bool := false
deriving DecidableEq, Repr

namespace ConnectionFaults

/-- The faults of a list of names. -/
def ofNames (names : List String) : ConnectionFaults where
  acquire := names.contains "acquire"
  setAutoCommit := names.contains "begin"
  commit := names.contains "commit"
  rollback := names.contains "rollback"
  release := names.contains "release"

/-- How a call fails, if it does. -/
def error? (faults : ConnectionFaults) : ConnectionCall → Option DatabaseError
  | .acquire name =>
    if faults.acquire then
      some { kind := .connection, reason := s!"no connection available for '{name}'" }
    else none
  | .setAutoCommit _ =>
    if faults.setAutoCommit then
      some { kind := .timeout, reason := "scripted begin failure", vendorCode := some "T-1" }
    else none
  | .commit => if faults.commit then some { reason := "scripted commit failure" } else none
  | .rollback => if faults.rollback then some { reason := "scripted rollback failure" } else none
  | .release name =>
    if faults.release then
      some { kind := .connection, reason := s!"could not return '{name}' to the pool" }
    else none

/-- What becomes of a call. -/
def answer (faults : ConnectionFaults) (call : ConnectionCall) : Except DatabaseError Unit :=
  match faults.error? call with
  | some error => .error error
  | none => .ok ()

end ConnectionFaults

/-! ### Records -/

/-- What was asked of connections. Calls that failed count as well. -/
structure ConnectionLog where
  acquires : Nat := 0
  releases : Nat := 0
  commits : Nat := 0
  rollbacks : Nat := 0
  /-- How often a connection was told not to commit on its own. -/
  autoCommitOff : Nat := 0
  /-- The names of the connections asked for, in order. -/
  names : List String := []
  /-- The calls by their names in records, in order. -/
  calls : List String := []
deriving DecidableEq, Repr

namespace ConnectionLog

/-- A record with one more call. That a connection is to commit on its own again leaves no
trace. -/
def record (log : ConnectionLog) : ConnectionCall → ConnectionLog
  | .acquire name =>
    { log with
      acquires := log.acquires + 1
      names := log.names ++ [name]
      calls := log.calls ++ ["acquire"] }
  | .setAutoCommit false =>
    { log with autoCommitOff := log.autoCommitOff + 1, calls := log.calls ++ ["begin"] }
  | .setAutoCommit true => log
  | .commit => { log with commits := log.commits + 1, calls := log.calls ++ ["commit"] }
  | .rollback => { log with rollbacks := log.rollbacks + 1, calls := log.calls ++ ["rollback"] }
  | .release _ => { log with releases := log.releases + 1, calls := log.calls ++ ["release"] }

/-- The record of a list of calls. -/
def ofCalls (calls : List ConnectionCall) : ConnectionLog := calls.foldl record {}

/-- A record as a value. -/
def toJson (log : ConnectionLog) : Json :=
  .obj [("acquires", .int log.acquires), ("releases", .int log.releases),
    ("commits", .int log.commits), ("rollbacks", .int log.rollbacks),
    ("auto_commit_off", .int log.autoCommitOff), ("names", .arr (log.names.map .str)),
    ("calls", .arr (log.calls.map .str)), ("balanced", .bool (log.acquires = log.releases))]

/-- Every connection that was asked for was handed back. -/
def isBalanced (log : ConnectionLog) : Bool := log.acquires = log.releases

/-- One transaction was committed and none rolled back. -/
def committedOnce (log : ConnectionLog) : Bool :=
  log.commits = 1 && log.rollbacks = 0 && log.isBalanced

/-- One transaction was rolled back and none committed. -/
def rolledBackOnce (log : ConnectionLog) : Bool :=
  log.rollbacks = 1 && log.commits = 0 && log.isBalanced

/-- Nothing was done about transactions. -/
def isTransactionFree (log : ConnectionLog) : Bool :=
  log.commits = 0 && log.rollbacks = 0 && log.autoCommitOff = 0

end ConnectionLog

end DocPipeline
