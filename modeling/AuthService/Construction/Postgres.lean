/-
This file translates the session repository on PostgreSQL.
-/

import AuthService.Construction.Stores

namespace AuthService

/-- What the database does to the values that it is given. A timestamp column returns the value
`stored`, and `uuid` reads an identifier in any of its text forms and returns the canonical one. -/
structure Database where
  stored : Time → Time
  uuid : String → Option String

/-- The sessions table with its primary key and its unique token hash. -/
structure SessionTable where
  rows : List Session
  uniqueID : (rows.map Session.id).Nodup
  uniqueHash : (rows.map Session.tokenHash).Nodup

namespace SessionTable

def empty : SessionTable := ⟨[], by simp, by simp⟩

def insert (table : SessionTable) (row : Session) (freshID : row.id ∉ table.rows.map Session.id)
    (freshHash : row.tokenHash ∉ table.rows.map Session.tokenHash) : SessionTable where
  rows := row :: table.rows
  uniqueID := List.nodup_cons.mpr ⟨freshID, table.uniqueID⟩
  uniqueHash := List.nodup_cons.mpr ⟨freshHash, table.uniqueHash⟩

/-- A delete statement keeps the rows that its condition does not select. -/
def deleteWhere (table : SessionTable) (selected : Session → Bool) : SessionTable where
  rows := table.rows.filter fun row => !selected row
  uniqueID := table.uniqueID.sublist (List.filter_sublist.map _)
  uniqueHash := table.uniqueHash.sublist (List.filter_sublist.map _)

/-- A text column cannot hold the character with code zero. -/
def storable (text : String) : Bool := !text.toList.contains (Char.ofNat 0)

/-- The insertion is refused for an unknown user, a known token hash or a text that cannot be stored. -/
def accepts (users : UserTable) (table : SessionTable) (session : Session) : Bool :=
  (users.rows.map User.id).contains session.userID &&
    !(table.rows.map Session.tokenHash).contains session.tokenHash &&
    storable session.deviceID && storable session.userAgent && storable session.ipAddress

/-- The row that the insertion stores. The address of the user is not a column. -/
def newRow (db : Database) (id : String) (now : Time) (session : Session) : Session :=
  { session with id, userEmail := "", expiresAt := db.stored session.expiresAt, lastUsedAt := now, createdAt := now }

/-- The insertion returns the identifier and the times. A drawn identifier that is already in the
table is not a behaviour of the store. -/
def create (db : Database) (users : UserTable) (now : Time) (id : String) (session : Session)
    (table : SessionTable) : Option (Except StoreError Session × SessionTable) :=
  if accepted : table.accepts users session then
    if used : id ∈ table.rows.map Session.id then none
    else
      some (.ok { session with id, lastUsedAt := now, createdAt := now },
        table.insert (newRow db id now session) used (by
          simp only [accepts, Bool.and_eq_true, Bool.not_eq_true', List.contains_eq_mem,
            decide_eq_false_iff_not] at accepted
          exact accepted.1.1.1.2))
  else some (.error .other, table)

/-- The row is joined with its user for the address. -/
def getByTokenHash (users : UserTable) (tokenHash : String) (table : SessionTable) :
    Except StoreError Session :=
  match table.rows.find? fun row => row.tokenHash = tokenHash with
  | none => .error .sessionNotFound
  | some row =>
      match users.rows.find? fun user => user.id = row.userID with
      | none => .error .sessionNotFound
      | some user => .ok { row with userEmail := user.email }

/-- The session identifier is a text from the client, and a text that is no identifier is an error. -/
def deleteByID (db : Database) (sessionID userID : String) (table : SessionTable) :
    Except StoreError String × SessionTable :=
  match db.uuid sessionID with
  | none => (.error .other, table)
  | some id =>
      match table.rows.find? fun row => row.id = id && row.userID = userID with
      | none => (.error .sessionNotFound, table)
      | some row => (.ok row.tokenHash, table.deleteWhere fun row => row.id = id && row.userID = userID)

def deleteByTokenHash (tokenHash : String) (table : SessionTable) : SessionTable :=
  table.deleteWhere fun row => row.tokenHash = tokenHash

/-- The transaction deletes the old row, inserts the new row and commits. A statement that fails,
and an old row that is absent, roll the transaction back. -/
def rotateToken (db : Database) (failing : Option RotateStatement) (users : UserTable) (now : Time)
    (id oldHash : String) (session : Session) (table : SessionTable) :
    Option (Except StoreError Session × SessionTable) :=
  if failing = some .begin ∨ failing = some .delete then some (.error .other, table)
  else if oldHash ∉ table.rows.map Session.tokenHash then some (.error .sessionNotFound, table)
  else if failing = some .insert then some (.error .other, table)
  else
    match (table.deleteByTokenHash oldHash).create db users now id session with
    | none => none
    | some (.error error, _) => some (.error error, table)
    | some (.ok created, inserted) =>
        if failing = some .commit then some (.error .other, table) else some (.ok created, inserted)

/-- A bulk delete returns the hashes of the deleted rows. When it fails, nothing is deleted and it
returns the hashes that were read before the error. -/
def deleteReturning (choice : Choice) (selected : Session → Bool) (table : SessionTable) :
    Option ((List String × Option StoreError) × SessionTable) :=
  let hashes := (table.rows.filter selected).map Session.tokenHash
  if choice.fails then
    if choice.hashes.isPrefixOf hashes then some ((choice.hashes, some .other), table) else none
  else some ((hashes, none), table.deleteWhere selected)

/-- The hash to keep is ignored when it is empty. -/
def exceptCondition (userID keepTokenHash : String) (row : Session) : Bool :=
  if keepTokenHash = "" then row.userID = userID
  else row.userID = userID && row.tokenHash ≠ keepTokenHash

def listByUserID (userID : String) (table : SessionTable) : List Session :=
  (table.rows.filter fun row => row.userID = userID).mergeSort fun first second =>
    decide (second.lastUsedAt ≤ first.lastUsedAt)

def exec (db : Database) : (command : SessionCommand) → Choice → UserTable → Time → SessionTable →
    Option (command.Reply × SessionTable)
  | .create session, choice, users, now, table =>
      if choice.fails then some (.error .other, table)
      else table.create db users now choice.id session
  | .getByTokenHash tokenHash, choice, users, _, table =>
      some (if choice.fails then .error .other else table.getByTokenHash users tokenHash, table)
  | .deleteByID sessionID userID, choice, _, _, table =>
      some (if choice.fails then (.error .other, table) else table.deleteByID db sessionID userID)
  | .deleteByTokenHash tokenHash, choice, _, _, table =>
      some (if choice.fails then (.error .other, table) else (.ok (), table.deleteByTokenHash tokenHash))
  | .rotateToken oldHash session, choice, users, now, table =>
      table.rotateToken db choice.statement users now choice.id oldHash session
  | .deleteAllByUserID userID, choice, _, _, table =>
      table.deleteReturning choice fun row => row.userID = userID
  | .deleteAllByUserIDExcept userID keepTokenHash, choice, _, _, table =>
      table.deleteReturning choice (exceptCondition userID keepTokenHash)
  | .listByUserID userID, choice, _, _, table =>
      some (if choice.fails then .error .other else .ok (table.listByUserID userID), table)

end SessionTable

/-- The session repository on PostgreSQL. -/
def postgres (db : Database) : SessionStore :=
  ⟨SessionTable, SessionTable.empty, SessionTable.rows, SessionTable.exec db⟩

end AuthService
