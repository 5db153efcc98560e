/-
This file translates the in-memory session store with its two indexes.
-/

import AuthService.Construction.Stores
import Mathlib.Data.List.AList

namespace AuthService

/-- A Go map from texts to the addresses of records. -/
abbrev Index := AList (fun _ : String => Nat)

/-- Both indexes hold addresses of records on one heap. -/
structure MemoryState where
  heap : Nat → Session
  next : Nat
  byID : Index
  byHash : Index

namespace MemoryState

def empty : MemoryState :=
  { heap := fun _ => ⟨"", "", "", "", "", "", "", zeroTime, zeroTime, zeroTime⟩
    next := 0
    byID := ∅
    byHash := ∅ }

/-- A copy of the record is stored under both of its keys. -/
def store (state : MemoryState) (session : Session) : MemoryState :=
  { heap := Function.update state.heap state.next session
    next := state.next + 1
    byID := state.byID.insert session.id state.next
    byHash := state.byHash.insert session.tokenHash state.next }

/-- The record that is stored for a session: an empty identifier is drawn. -/
def stamped (id : String) (now : Time) (session : Session) : Session :=
  { session with
    id := if session.id = "" then id else session.id
    createdAt := now
    lastUsedAt := now }

/-- A drawn identifier that is already in use is not a behaviour of the store. -/
def create (id : String) (now : Time) (session : Session) (state : MemoryState) :
    Option (Except StoreError Session × MemoryState) :=
  if session.id = "" ∧ id ∈ state.byID.keys then none
  else some (.ok (stamped id now session), state.store (stamped id now session))

/-- The read updates the time of last use in the shared record. -/
def getByTokenHash (now : Time) (tokenHash : String) (state : MemoryState) :
    Except StoreError Session × MemoryState :=
  match state.byHash.lookup tokenHash with
  | none => (.error .sessionNotFound, state)
  | some address =>
      let session := { state.heap address with lastUsedAt := now }
      (.ok session, { state with heap := Function.update state.heap address session })

def deleteByID (sessionID userID : String) (state : MemoryState) :
    Except StoreError String × MemoryState :=
  match state.byID.lookup sessionID with
  | none => (.error .sessionNotFound, state)
  | some address =>
      let session := state.heap address
      if session.userID ≠ userID then (.error .sessionNotFound, state)
      else (.ok session.tokenHash, { state with
        byID := state.byID.erase sessionID
        byHash := state.byHash.erase session.tokenHash })

def deleteByTokenHash (tokenHash : String) (state : MemoryState) : MemoryState :=
  match state.byHash.lookup tokenHash with
  | none => state
  | some address => { state with
      byID := state.byID.erase (state.heap address).id
      byHash := state.byHash.erase tokenHash }

def rotateToken (id : String) (now : Time) (oldHash : String) (session : Session)
    (state : MemoryState) : Option (Except StoreError Session × MemoryState) :=
  match state.byHash.lookup oldHash with
  | none => some (.error .sessionNotFound, state)
  | some _ => (state.deleteByTokenHash oldHash).create id now session

/-- One iteration of the loop over `byID` in a bulk delete. -/
def sweepStep (selected : Session → Bool) (result : List String × MemoryState) (id : String) :
    List String × MemoryState :=
  match result.2.byID.lookup id with
  | none => result
  | some address =>
      let session := result.2.heap address
      if selected session then
        (result.1 ++ [session.tokenHash], { result.2 with
          byHash := result.2.byHash.erase session.tokenHash
          byID := result.2.byID.erase id })
      else result

/-- The loop visits the keys of `byID` in any order. -/
def sweep (order : List String) (selected : Session → Bool) (state : MemoryState) :
    Option ((List String × Option StoreError) × MemoryState) :=
  if order.Perm state.byID.keys then
    let result := order.foldl (sweepStep selected) ([], state)
    some ((result.1, none), result.2)
  else none

/-- The records that the loop over `byID` collects. -/
def listByUserID (order : List String) (userID : String) (state : MemoryState) :
    Option (Except StoreError (List Session) × MemoryState) :=
  if order.Perm state.byID.keys then
    let sessions := order.filterMap fun id => (state.byID.lookup id).map state.heap
    some (.ok (sessions.filter fun session => session.userID = userID), state)
  else none

def exec : (command : SessionCommand) → Choice → UserTable → Time → MemoryState →
    Option (command.Reply × MemoryState)
  | .create session, choice, _, now, state => state.create choice.id now session
  | .getByTokenHash tokenHash, _, _, now, state => some (state.getByTokenHash now tokenHash)
  | .deleteByID sessionID userID, _, _, _, state => some (state.deleteByID sessionID userID)
  | .deleteByTokenHash tokenHash, _, _, _, state => some (.ok (), state.deleteByTokenHash tokenHash)
  | .rotateToken oldHash session, choice, _, now, state =>
      state.rotateToken choice.id now oldHash session
  | .deleteAllByUserID userID, choice, _, _, state =>
      state.sweep choice.order fun session => session.userID = userID
  | .deleteAllByUserIDExcept userID keepTokenHash, choice, _, _, state =>
      state.sweep choice.order fun session => session.userID = userID && session.tokenHash ≠ keepTokenHash
  | .listByUserID userID, choice, _, _, state => state.listByUserID choice.order userID

/-- The records of the store. -/
def rows (state : MemoryState) : List Session :=
  state.byID.entries.map fun entry => state.heap entry.2

end MemoryState

/-- The in-memory session store. -/
def memory : SessionStore :=
  ⟨MemoryState, MemoryState.empty, MemoryState.rows, MemoryState.exec⟩

end AuthService
