/-
This file states the abstract session store: a set of rows with one row for each token hash.
-/

import AuthService.Construction.Stores
import Mathlib.Data.Set.Insert

namespace AuthService

/-- The part of a session that every backend keeps. -/
structure Row where
  id : String
  userID : String
  tokenHash : String
  deviceID : String
  userAgent : String
  ipAddress : String
  expiresAt : Time
deriving DecidableEq

def Session.row (session : Session) : Row :=
  ⟨session.id, session.userID, session.tokenHash, session.deviceID, session.userAgent,
    session.ipAddress, session.expiresAt⟩

@[simp] theorem Session.row_tokenHash (session : Session) : session.row.tokenHash = session.tokenHash :=
  rfl

@[simp] theorem Session.row_userID (session : Session) : session.row.userID = session.userID := rfl

/-- The row that is kept for a created session. The backend may round the expiry. -/
def Session.keptRow (stored : Time → Time) (session : Session) : Row :=
  { session.row with expiresAt := stored session.expiresAt }

@[simp] theorem Session.keptRow_tokenHash (stored : Time → Time) (session : Session) :
    (session.keptRow stored).tokenHash = session.tokenHash := rfl

@[simp] theorem Session.keptRow_userID (stored : Time → Time) (session : Session) :
    (session.keptRow stored).userID = session.userID := rfl

/-- Creation changes only the identifier and the two times of a session. -/
structure Session.FillsIn (created session : Session) : Prop where
  userID : created.userID = session.userID
  userEmail : created.userEmail = session.userEmail
  tokenHash : created.tokenHash = session.tokenHash
  deviceID : created.deviceID = session.deviceID
  userAgent : created.userAgent = session.userAgent
  ipAddress : created.ipAddress = session.ipAddress
  expiresAt : created.expiresAt = session.expiresAt

/-- A token hash is live when a row carries it. -/
def Live (rows : Set Row) (tokenHash : String) : Prop := ∃ row ∈ rows, row.tokenHash = tokenHash

/-- The rows that remain when a token hash is removed. -/
def without (rows : Set Row) (tokenHash : String) : Set Row := {row ∈ rows | row.tokenHash ≠ tokenHash}

namespace SessionCommand

/-- The effect of a call on the rows, as its reply tells it. -/
def Effect (stored : Time → Time) (before after : Set Row) : (command : SessionCommand) →
    command.Reply → Prop
  | .create session, .ok created =>
      created.FillsIn session ∧ after = insert (created.keptRow stored) before
  | .create _, .error _ => after = before
  | .getByTokenHash tokenHash, .ok session =>
      after = before ∧ session.row ∈ before ∧ session.tokenHash = tokenHash
  | .getByTokenHash _, .error _ => after = before
  | .deleteByID _ userID, .ok tokenHash =>
      (∃ row ∈ before, row.tokenHash = tokenHash ∧ row.userID = userID) ∧ after = without before tokenHash
  | .deleteByID _ _, .error _ => after = before
  | .deleteByTokenHash tokenHash, .ok _ => after = without before tokenHash
  | .deleteByTokenHash _, .error _ => after = before
  | .rotateToken oldHash session, .ok created =>
      created.FillsIn session ∧ Live before oldHash ∧
        after = insert (created.keptRow stored) (without before oldHash)
  | .rotateToken _ _, .error _ => after = before
  | .deleteAllByUserID userID, (hashes, none) =>
      after = {row ∈ before | row.userID ≠ userID} ∧
        ∀ tokenHash, tokenHash ∈ hashes ↔ ∃ row ∈ before, row.userID = userID ∧ row.tokenHash = tokenHash
  | .deleteAllByUserID _, (_, some _) => after = before
  | .deleteAllByUserIDExcept userID keepTokenHash, (_, none) =>
      after ⊆ before ∧ (∀ row ∈ before, row.userID ≠ userID → row ∈ after) ∧
        ∀ row ∈ after, row.userID = userID → row.tokenHash = keepTokenHash
  | .deleteAllByUserIDExcept _ _, (_, some _) => after = before
  | .listByUserID _, _ => after = before

/-- A new session comes without an identifier and with a token hash that is not live. -/
def Admissible (rows : Set Row) : SessionCommand → Prop
  | .create session => session.id = "" ∧ ¬ Live rows session.tokenHash
  | .rotateToken _ session => session.id = "" ∧ ¬ Live rows session.tokenHash
  | _ => True

/-- The token hash that a successful call installs. -/
def installed : (command : SessionCommand) → command.Reply → Option String
  | .create session, .ok _ => some session.tokenHash
  | .rotateToken _ session, .ok _ => some session.tokenHash
  | _, _ => none

/-- The session that a successful call was given and the one that it created. -/
def installation : (command : SessionCommand) → command.Reply → Option (Session × Session)
  | .create session, .ok created => some (session, created)
  | .rotateToken _ session, .ok created => some (session, created)
  | _, _ => none

theorem installed_eq (command : SessionCommand) (reply : command.Reply) :
    command.installed reply = (command.installation reply).map fun pair => pair.1.tokenHash := by
  unfold installed installation
  split <;> rfl

/-- A row was there before the call or is the row of the session that the call created. -/
theorem Effect.origin {stored : Time → Time} {before after : Set Row} {command : SessionCommand}
    {reply : command.Reply} (effect : command.Effect stored before after reply) {row : Row}
    (member : row ∈ after) :
    row ∈ before ∨ ∃ session created : Session, command.installation reply = some (session, created) ∧
      created.FillsIn session ∧ row = created.keptRow stored := by
  have kept (same : after = before) : row ∈ before := same ▸ member
  cases command with
  | create session =>
      cases reply with
      | error error => exact .inl (kept effect)
      | ok created =>
          obtain ⟨filled, rfl⟩ := effect
          rcases member with same | inside
          · exact .inr ⟨session, created, rfl, filled, same⟩
          · exact .inl inside
  | getByTokenHash tokenHash =>
      cases reply with
      | error error => exact .inl (kept effect)
      | ok session => exact .inl (kept effect.1)
  | deleteByID sessionID userID =>
      cases reply with
      | error error => exact .inl (kept effect)
      | ok tokenHash =>
          obtain ⟨_, rfl⟩ := effect
          exact .inl member.1
  | deleteByTokenHash tokenHash =>
      cases reply with
      | error error => exact .inl (kept effect)
      | ok _ =>
          obtain rfl := effect
          exact .inl member.1
  | rotateToken oldHash session =>
      cases reply with
      | error error => exact .inl (kept effect)
      | ok created =>
          obtain ⟨filled, _, rfl⟩ := effect
          rcases member with same | inside
          · exact .inr ⟨session, created, rfl, filled, same⟩
          · exact .inl inside.1
  | deleteAllByUserID userID =>
      obtain ⟨hashes, _ | error⟩ := reply
      · obtain ⟨rfl, _⟩ := effect
        exact .inl member.1
      · exact .inl (kept effect)
  | deleteAllByUserIDExcept userID keepTokenHash =>
      obtain ⟨hashes, _ | error⟩ := reply
      · exact .inl (effect.1 member)
      · exact .inl (kept effect)
  | listByUserID userID => exact .inl (kept effect)

/-- The session that a call created fills in the one that it was given. -/
theorem Effect.filled {stored : Time → Time} {before after : Set Row} {command : SessionCommand}
    {reply : command.Reply} (effect : command.Effect stored before after reply) {session created : Session}
    (installed : command.installation reply = some (session, created)) : created.FillsIn session := by
  cases command with
  | create given =>
      cases reply with
      | error error => cases installed
      | ok result =>
          cases installed
          exact effect.1
  | rotateToken oldHash given =>
      cases reply with
      | error error => cases installed
      | ok result =>
          cases installed
          exact effect.1
  | _ => cases installed

/-- A live token hash was live before the call or is installed by it. -/
theorem Effect.live {stored : Time → Time} {before after : Set Row} {command : SessionCommand}
    {reply : command.Reply} (effect : command.Effect stored before after reply) (tokenHash : String)
    (live : Live after tokenHash) :
    Live before tokenHash ∨ command.installed reply = some tokenHash := by
  obtain ⟨row, member, rfl⟩ := live
  rcases effect.origin member with inside | ⟨session, created, installed, filled, rfl⟩
  · exact .inl ⟨row, inside, rfl⟩
  · refine .inr ?_
    rw [installed_eq, installed, Option.map_some, Session.keptRow_tokenHash, filled.tokenHash]

end SessionCommand

namespace SessionStore

/-- The abstract state of a session store. -/
def rowSet (store : SessionStore) (state : store.State) : Set Row :=
  {row | ∃ session ∈ store.rows state, session.row = row}

/-- A store is lawful when it behaves as a set of rows under the admissible calls. -/
class Lawful (store : SessionStore) where
  stored : Time → Time
  Inv : store.State → Prop
  empty_inv : Inv store.empty
  empty_rows : store.rows store.empty = []
  keyed : ∀ state, Inv state → ((store.rows state).map Session.tokenHash).Nodup
  exec : ∀ (command : SessionCommand) (choice : Choice) (users : UserTable) (now : Time)
    (state next : store.State) (reply : command.Reply), Inv state →
    command.Admissible (store.rowSet state) →
    store.exec command choice users now state = some (reply, next) →
    Inv next ∧ command.Effect stored (store.rowSet state) (store.rowSet next) reply

end SessionStore
end AuthService
