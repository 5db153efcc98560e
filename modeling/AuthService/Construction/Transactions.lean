/-
This file translates the statements of the session repository that run in transactions, for the case
that the statements of several calls interleave.
-/

import AuthService.Construction.Domain
import AuthService.Concurrency.ReadCommitted

namespace AuthService
open Interleaving Program ReadCommitted

/-- The calls on the repository. The session is the row that the rotation inserts. -/
inductive SessionJob where
  | rotateToken (oldHash : String) (session : Session)
  | deleteAllByUserID (userID : String)

inductive JobReply where
  | rotated
  | deleted (hashes : List String)
deriving DecidableEq

/-- A call performs statements and may return early with an error. -/
abbrev Script (A : Type) := ExceptT StoreError (Program (Sql Session)) A

abbrev sql (statement : Statement Session) : Script statement.Reply :=
  perform (S := Sql Session) statement

/-- An error of the database is none of the named ones. -/
def orOther {A : Type} : Option A → Script A
  | some value => pure value
  | none => throw .other

/-- The condition of the delete statement of each call. -/
def SessionJob.condition : SessionJob → Session → Bool
  | .rotateToken oldHash _, row => row.tokenHash = oldHash
  | .deleteAllByUserID userID, row => row.userID = userID

/-- The statement deletes its candidates one by one and returns the rows that it deleted. -/
def deleteRows (tx : Nat) : List Session → Script (List Session)
  | [] => pure []
  | row :: rows => do
      let deleted ← orOther (← sql (.delete tx row))
      let others ← deleteRows tx rows
      return if deleted then row :: others else others

def deleteWhere (tx : Nat) (condition : Session → Bool) : Script (List Session) := do
  deleteRows tx (← orOther (← sql (.candidates condition)))

/-- The rollback is deferred: it runs when the body has returned, and after a commit it does nothing. -/
def inTransaction (body : Nat → Script JobReply) : Script JobReply := do
  let tx ← orOther (← sql .begin)
  let result ← ExceptT.lift (body tx).run
  sql (.rollback tx)
  match result with
  | .ok reply => return reply
  | .error error => throw error

/-- The body of `RotateToken`. -/
def rotateStatements (oldHash : String) (session : Session) (tx : Nat) : Script JobReply := do
  let deleted ← deleteWhere tx (SessionJob.rotateToken oldHash session).condition
  if deleted = [] then throw .sessionNotFound
  orOther (← sql (.insert tx session))
  orOther (← sql (.commit tx))
  return .rotated

/-- The bulk delete is a single statement, which the database runs in a transaction of its own. -/
def deleteAllStatements (userID : String) (tx : Nat) : Script JobReply := do
  let deleted ← deleteWhere tx (SessionJob.deleteAllByUserID userID).condition
  orOther (← sql (.commit tx))
  return .deleted (deleted.map Session.tokenHash)

def SessionJob.script : SessionJob → Script JobReply
  | .rotateToken oldHash session => inTransaction (rotateStatements oldHash session)
  | .deleteAllByUserID userID => inTransaction (deleteAllStatements userID)

/-- The repository under concurrent calls. -/
def repository : System (Sql Session) (RowStore Session) Bool Empty SessionJob (Except StoreError JobReply) :=
  transactions fun job => job.script.run

end AuthService
