import DocPipeline.Run.Program

/-!
# Transactions

The one connection of a run, from the moment it is handed out until it is handed back. A
transaction commits and rolls back only if it is its own business: it has to be transacted, and
nobody else may complete it.

A transaction rolls back once at most, and neither that nor handing the connection back can make a
run fail; what goes wrong there is warned about.

## Main definitions

* `Transaction.acquire`, `Transaction.begin`, `Transaction.commit`, `Transaction.rollBack`,
  `Transaction.release`.
-/

namespace DocPipeline

/-- A connection in use. -/
structure Connection where
  /-- Whether every statement is committed on its own, as it was last asked for. -/
  autoCommit : Bool := true
deriving DecidableEq, Repr

/-- The connection of a run, and what was done with it. -/
structure Transaction where
  connectionName : String
  transacted : Bool
  /-- Whether somebody else completes the transaction. -/
  xa : Bool
  /-- The connection, until it is handed back. -/
  connection : Option Connection
  /-- Whether rolling back was tried. -/
  rollbackAttempted : Bool := false
deriving DecidableEq, Repr

namespace Transaction

/-- Whether committing and rolling back is the business of the transaction. -/
def managesCommit (tx : Transaction) : Bool := tx.transacted && !tx.xa

/-- Asks for a connection. -/
def acquire (connectionName : String) (transacted xa : Bool) :
    Program (Except DatabaseError Transaction) := do
  match ← Program.ask (.connection (.acquire connectionName)) with
  | .error error => return .error error
  | .ok () => return .ok { connectionName, transacted, xa, connection := some {} }

/-- Tells the connection whether to commit on its own. -/
def setAutoCommit (tx : Transaction) (enabled : Bool) :
    Program (Except DatabaseError Unit × Transaction) := do
  match tx.connection with
  | none => return (.error .released, tx)
  | some connection =>
    let outcome ← Program.ask (.connection (.setAutoCommit enabled))
    return (outcome, { tx with connection := some { connection with autoCommit := enabled } })

/-- Begins the transaction if that is its business. -/
def begin (tx : Transaction) : Program (Except DatabaseError Unit × Transaction) :=
  if tx.managesCommit then tx.setAutoCommit false else return (.ok (), tx)

/-- Commits if that is the business of the transaction. -/
def commit (tx : Transaction) : Program (Except DatabaseError Unit) :=
  if tx.managesCommit then
    match tx.connection with
    | none => return .error .released
    | some _ => Program.ask (.connection .commit)
  else return .ok ()

/-- Rolls back if that is the business of the transaction and was not tried before. -/
def rollBack (tx : Transaction) : Program Transaction := do
  if tx.managesCommit && !tx.rollbackAttempted then
    match tx.connection with
    | none => Program.ask (.warn (.rollbackSkipped tx.connectionName))
    | some _ =>
      match ← Program.ask (.connection .rollback) with
      | .ok () => pure ()
      | .error error => Program.ask (.warn (.rollbackFailed tx.connectionName error))
    return { tx with rollbackAttempted := true }
  else return tx

/-- Hands the connection back. -/
def release (tx : Transaction) : Program Transaction := do
  match tx.connection with
  | none => return tx
  | some _ =>
    match ← Program.ask (.connection (.release tx.connectionName)) with
    | .ok () => pure ()
    | .error error => Program.ask (.warn (.releaseFailed tx.connectionName error))
    return { tx with connection := none }

end Transaction

end DocPipeline
