/-
This file translates the users table and the interface of a session store.
-/

import AuthService.Construction.Commands

namespace AuthService

/-- The users table with its primary key and its unique address. -/
structure UserTable where
  rows : List User
  uniqueID : (rows.map User.id).Nodup
  uniqueEmail : (rows.map User.email).Nodup

namespace UserTable

def empty : UserTable := ⟨[], by simp, by simp⟩

def insert (table : UserTable) (user : User) (freshID : user.id ∉ table.rows.map User.id)
    (freshEmail : user.email ∉ table.rows.map User.email) : UserTable where
  rows := user :: table.rows
  uniqueID := List.nodup_cons.mpr ⟨freshID, table.uniqueID⟩
  uniqueEmail := List.nodup_cons.mpr ⟨freshEmail, table.uniqueEmail⟩

/-- A drawn identifier that is already in the table is not a behaviour of the store. -/
def create (table : UserTable) (email passwordHash id : String) (now : Time) :
    Option (Except StoreError User × UserTable) :=
  if known : email ∈ table.rows.map User.email then some (.error .userAlreadyExists, table)
  else if used : id ∈ table.rows.map User.id then none
  else
    let user : User := ⟨id, email, passwordHash, now, now⟩
    some (.ok user, table.insert user used known)

def getByEmail (table : UserTable) (email : String) : Except StoreError User :=
  match table.rows.find? fun user => user.email = email with
  | some user => .ok user
  | none => .error .userNotFound

def getByID (table : UserTable) (id : String) : Except StoreError User :=
  match table.rows.find? fun user => user.id = id with
  | some user => .ok user
  | none => .error .userNotFound

/-- The row that an update of the password leaves. -/
def withPassword (userID passwordHash : String) (now : Time) (user : User) : User :=
  if user.id = userID then { user with passwordHash, updatedAt := now } else user

theorem withPassword_id (userID passwordHash : String) (now : Time) (user : User) :
    (withPassword userID passwordHash now user).id = user.id := by
  unfold withPassword
  split <;> rfl

theorem withPassword_email (userID passwordHash : String) (now : Time) (user : User) :
    (withPassword userID passwordHash now user).email = user.email := by
  unfold withPassword
  split <;> rfl

def setPassword (table : UserTable) (userID passwordHash : String) (now : Time) : UserTable where
  rows := table.rows.map (withPassword userID passwordHash now)
  uniqueID := by
    rw [List.map_map, show User.id ∘ withPassword userID passwordHash now = User.id from
      funext (withPassword_id userID passwordHash now)]
    exact table.uniqueID
  uniqueEmail := by
    rw [List.map_map, show User.email ∘ withPassword userID passwordHash now = User.email from
      funext (withPassword_email userID passwordHash now)]
    exact table.uniqueEmail

def updatePasswordHash (table : UserTable) (userID passwordHash : String) (now : Time) :
    Except StoreError Unit × UserTable :=
  if userID ∈ table.rows.map User.id then (.ok (), table.setPassword userID passwordHash now)
  else (.error .userNotFound, table)

/-- A call that fails has no effect. -/
def exec : (command : UserCommand) → Choice → Time → UserTable → Option (command.Reply × UserTable)
  | .create email passwordHash, choice, now, table =>
      if choice.fails then some (.error .other, table)
      else table.create email passwordHash choice.id now
  | .getByEmail email, choice, _, table =>
      some (if choice.fails then .error .other else table.getByEmail email, table)
  | .getByID id, choice, _, table =>
      some (if choice.fails then .error .other else table.getByID id, table)
  | .updatePasswordHash userID passwordHash, choice, now, table =>
      some (if choice.fails then (.error .other, table)
        else table.updatePasswordHash userID passwordHash now)

end UserTable

/-- A session store holds session rows and executes the session commands. It can see the users
table and the clock. -/
structure SessionStore where
  State : Type
  empty : State
  rows : State → List Session
  exec : (command : SessionCommand) → Choice → UserTable → Time → State →
    Option (command.Reply × State)

end AuthService
