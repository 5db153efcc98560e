/-
This file translates every method of the session repository down to its statements, for the case that
the statements of several calls interleave.
-/

import AuthService.Construction.Postgres
import AuthService.Construction.Transactions

namespace AuthService
open Interleaving Program ReadCommitted

/-- The interface of the session repository. -/
@[reducible] def SessionCalls : Signature := ⟨SessionCommand, SessionCommand.Reply⟩

/-- A call on the repository, with the identifier that the database draws for a new row and the time of
the transaction. -/
structure RepositoryCall where
  command : SessionCommand
  id : String
  now : Time

/-- The rollback is deferred: it runs when the body has returned, and after a commit it does nothing. -/
def withTransaction {A : Type} (body : Nat → Script A) : Script A := do
  let tx ← orOther (← sql .begin)
  let result ← ExceptT.lift (body tx).run
  sql (.rollback tx)
  match result with
  | .ok value => return value
  | .error error => throw error

/-- A delete statement outside a transaction is committed by the database, which has nothing to commit
when no row was deleted. -/
def deleteAlone (condition : Session → Bool) : Script (List Session) :=
  withTransaction fun tx => do
    let deleted ← deleteWhere tx condition
    if deleted = [] then return []
    orOther (← sql (.commit tx))
    return deleted

/-- The insertion is refused for an unknown user or a text that cannot be stored. -/
def insertable (users : UserTable) (session : Session) : Bool :=
  (users.rows.map User.id).contains session.userID &&
    SessionTable.storable session.deviceID && SessionTable.storable session.userAgent &&
    SessionTable.storable session.ipAddress

/-- The session with the columns that the insertion returns. -/
def returned (id : String) (now : Time) (session : Session) : Session :=
  { session with id, lastUsedAt := now, createdAt := now }

section
variable (db : Database) (users : UserTable) (id : String) (now : Time)

def insertRow (session : Session) (tx : Nat) : Script Unit := do
  if insertable users session then orOther (← sql (.insert tx (SessionTable.newRow db id now session)))
  else throw .other

/-- The first row is joined with its user for the address. -/
def joined : List Session → Except StoreError Session
  | [] => .error .sessionNotFound
  | row :: _ =>
      match users.rows.find? fun user => user.id = row.userID with
      | none => .error .sessionNotFound
      | some user => .ok { row with userEmail := user.email }

/-- The token hash of the first returned row. -/
def firstHash : List Session → Except StoreError String
  | [] => .error .sessionNotFound
  | row :: _ => .ok row.tokenHash

def latestFirst (rows : List Session) : List Session :=
  rows.mergeSort fun first second => decide (second.lastUsedAt ≤ first.lastUsedAt)

/-- The condition of the statement that selects the rows of a call. An identifier that cannot be read
selects nothing. -/
def selection : SessionCommand → Option (Session → Bool)
  | .create _ => none
  | .getByTokenHash tokenHash => some fun row => row.tokenHash = tokenHash
  | .deleteByID sessionID userID => (db.uuid sessionID).map fun id row => row.id = id && row.userID = userID
  | .deleteByTokenHash tokenHash => some fun row => row.tokenHash = tokenHash
  | .rotateToken oldHash _ => some fun row => row.tokenHash = oldHash
  | .deleteAllByUserID userID => some fun row => row.userID = userID
  | .deleteAllByUserIDExcept userID keepTokenHash => some (SessionTable.exceptCondition userID keepTokenHash)
  | .listByUserID userID => some fun row => row.userID = userID

/-- The statement `SELECT` reads the committed rows. -/
def selectRows (condition : Session → Bool) : Script (List Session) := do
  orOther (← sql (.candidates condition))

/-- The statements of `RotateToken`. -/
def rotateRow (oldHash : String) (session : Session) (tx : Nat) : Script Session := do
  let deleted ← deleteWhere tx fun row => row.tokenHash = oldHash
  if deleted = [] then throw .sessionNotFound
  insertRow db users id now session tx
  orOther (← sql (.commit tx))
  return returned id now session

/-- The loop over the returned rows collects their hashes. -/
def returnedHashes : Except StoreError (List Session) → List String × Option StoreError
  | .ok deleted => (deleted.map Session.tokenHash, none)
  | .error error => ([], some error)

/-- The statements of each method. -/
def statements : (command : SessionCommand) → Program (Sql Session) command.Reply
  | .create session => (withTransaction fun tx => do
      insertRow db users id now session tx
      orOther (← sql (.commit tx))
      return returned id now session : Script Session).run
  | .getByTokenHash tokenHash =>
      (selectRows fun row => row.tokenHash = tokenHash).run.bind fun result => .done (result.bind (joined users))
  | .deleteByID sessionID userID =>
      match db.uuid sessionID with
      | none => .done (.error .other)
      | some id =>
          (deleteAlone fun row => row.id = id && row.userID = userID).run.bind fun result =>
            .done (result.bind firstHash)
  | .deleteByTokenHash tokenHash =>
      (deleteAlone fun row => row.tokenHash = tokenHash).run.bind fun result => .done (result.map fun _ => ())
  | .rotateToken oldHash session => (withTransaction (rotateRow db users id now oldHash session)).run
  | .deleteAllByUserID userID =>
      (deleteAlone fun row => row.userID = userID).run.bind fun result => .done (returnedHashes result)
  | .deleteAllByUserIDExcept userID keepTokenHash =>
      (deleteAlone (SessionTable.exceptCondition userID keepTokenHash)).run.bind fun result =>
        .done (returnedHashes result)
  | .listByUserID userID =>
      (selectRows fun row => row.userID = userID).run.bind fun result => .done (result.map latestFirst)

/-- Any number of calls on the repository whose statements interleave. -/
def sessionRepository : System (Sql Session) (RowStore Session) Bool Empty RepositoryCall (Exchange SessionCalls) :=
  transactions fun call =>
    (statements db users call.id call.now call.command).bind fun reply => .done ⟨call.command, reply⟩

end
end AuthService
