/-
This file relates the rows and the answers of two session stores that drew different identifiers.
-/

import AuthService.Proof.ExactAnswers

namespace AuthService

/-- The identifiers that the repository drew for the identifiers that the in-memory store drew. -/
abbrev Renaming := AList (fun _ : String => String)

/-- The results that a caller sees. -/
inductive Result where
  | session (session : Session)
  | tokenHash (tokenHash : String)
  | tokenHashes (tokenHashes : List String)
  | done
  | failed (error : StoreError)

/-- A call that creates a session returns it through the pointer that it was given. -/
def SessionCommand.result : (command : SessionCommand) → command.Reply → Result
  | .create _, .ok created => .session created
  | .create _, .error error => .failed error
  | .getByTokenHash _, .ok session => .session session
  | .getByTokenHash _, .error error => .failed error
  | .deleteByID _ _, .ok tokenHash => .tokenHash tokenHash
  | .deleteByID _ _, .error error => .failed error
  | .deleteByTokenHash _, .ok _ => .done
  | .deleteByTokenHash _, .error error => .failed error
  | .rotateToken _ _, .ok created => .session created
  | .rotateToken _ _, .error error => .failed error
  | .deleteAllByUserID _, (tokenHashes, none) => .tokenHashes tokenHashes
  | .deleteAllByUserID _, (_, some error) => .failed error
  | .deleteAllByUserIDExcept _ _, (tokenHashes, none) => .tokenHashes tokenHashes
  | .deleteAllByUserIDExcept _ _, (_, some error) => .failed error
  | .listByUserID _, .ok _ => .done
  | .listByUserID _, .error error => .failed error

/-- The new session that a call is given. -/
def SessionCommand.brought : SessionCommand → Option Session
  | .create session => some session
  | .rotateToken _ session => some session
  | _ => none

theorem SessionCommand.brought_of_installation {command : SessionCommand} {reply : command.Reply}
    {pair : Session × Session} (installed : command.installation reply = some pair) :
    command.brought = some pair.1 := by
  unfold installation at installed
  split at installed
  · cases installed
    rfl
  · cases installed
    rfl
  · cases installed

/-- A call names a session of the other store by the identifier that this store drew for it. -/
def SessionCommand.renamed (names : Renaming) : SessionCommand → SessionCommand
  | .deleteByID sessionID userID => .deleteByID ((names.lookup sessionID).getD sessionID) userID
  | command => command

/-- Two created sessions get one name. -/
def Renaming.record (names : Renaming) : Option (Session × Session) → Option (Session × Session) → Renaming
  | some (_, created), some (_, created') => names.insert created.id created'.id
  | _, _ => names

/-- Two results agree when they report the same success or the same unknown session. Two sessions
agree up to the identifiers that the stores drew. -/
inductive Agree (names : Renaming) : Result → Result → Prop
  | session {first second : Session} (named : names.lookup first.id = some second.id)
      (userID : first.userID = second.userID) (userEmail : first.userEmail = second.userEmail)
      (tokenHash : first.tokenHash = second.tokenHash) (deviceID : first.deviceID = second.deviceID)
      (userAgent : first.userAgent = second.userAgent) (ipAddress : first.ipAddress = second.ipAddress)
      (expiresAt : first.expiresAt = second.expiresAt) : Agree names (.session first) (.session second)
  | tokenHash (tokenHash : String) : Agree names (.tokenHash tokenHash) (.tokenHash tokenHash)
  | tokenHashes {first second : List String} (same : ∀ tokenHash, tokenHash ∈ first ↔ tokenHash ∈ second) :
      Agree names (.tokenHashes first) (.tokenHashes second)
  | done : Agree names .done .done
  | sessionNotFound : Agree names (.failed .sessionNotFound) (.failed .sessionNotFound)

section Twins
variable {db : Database} {names names' : Renaming} {rows rows' : Set Row} {row row' : Row}

/-- Two rows are twins when they stand for one session. The repository may round the expiry. -/
structure Twin (db : Database) (names : Renaming) (row row' : Row) : Prop where
  named : names.lookup row.id = some row'.id
  userID : row.userID = row'.userID
  tokenHash : row.tokenHash = row'.tokenHash
  deviceID : row.deviceID = row'.deviceID
  userAgent : row.userAgent = row'.userAgent
  ipAddress : row.ipAddress = row'.ipAddress
  expiresAt : row'.expiresAt = db.stored row.expiresAt

/-- Each row has a twin in the other store. -/
structure Matched (db : Database) (names : Renaming) (rows rows' : Set Row) : Prop where
  forth : ∀ row ∈ rows, ∃ row' ∈ rows', Twin db names row row'
  back : ∀ row' ∈ rows', ∃ row ∈ rows, Twin db names row row'

/-- A renaming grows when it keeps the names that it has. -/
def Renaming.Grows (names names' : Renaming) : Prop :=
  ∀ id id', names.lookup id = some id' → names'.lookup id = some id'

theorem Twin.mono (twin : Twin db names row row') (grows : names.Grows names') : Twin db names' row row' :=
  { twin with named := grows _ _ twin.named }

theorem Matched.mono (matched : Matched db names rows rows') (grows : names.Grows names') :
    Matched db names' rows rows' := by
  constructor
  · intro row member
    obtain ⟨row', inside, twin⟩ := matched.forth row member
    exact ⟨row', inside, twin.mono grows⟩
  · intro row' member
    obtain ⟨row, inside, twin⟩ := matched.back row' member
    exact ⟨row, inside, twin.mono grows⟩

/-- Two conditions that agree on twins keep the rows matched. -/
theorem Matched.filter (matched : Matched db names rows rows') (condition condition' : Row → Prop)
    (agrees : ∀ row row', Twin db names row row' → (condition row ↔ condition' row')) :
    Matched db names {row ∈ rows | condition row} {row' ∈ rows' | condition' row'} := by
  constructor
  · rintro row ⟨member, holds⟩
    obtain ⟨row', inside, twin⟩ := matched.forth row member
    exact ⟨row', ⟨inside, (agrees row row' twin).mp holds⟩, twin⟩
  · rintro row' ⟨member, holds⟩
    obtain ⟨row, inside, twin⟩ := matched.back row' member
    exact ⟨row, ⟨inside, (agrees row row' twin).mpr holds⟩, twin⟩

theorem Matched.without (matched : Matched db names rows rows') (tokenHash : String) :
    Matched db names (without rows tokenHash) (AuthService.without rows' tokenHash) :=
  matched.filter _ _ fun _ _ twin => by rw [twin.tokenHash]

theorem Matched.insert (matched : Matched db names rows rows') (twin : Twin db names row row') :
    Matched db names (Insert.insert row rows) (Insert.insert row' rows') := by
  constructor
  · rintro other (rfl | member)
    · exact ⟨row', Set.mem_insert _ _, twin⟩
    · obtain ⟨other', inside, twin'⟩ := matched.forth other member
      exact ⟨other', Set.mem_insert_of_mem _ inside, twin'⟩
  · rintro other' (rfl | member)
    · exact ⟨row, Set.mem_insert _ _, twin⟩
    · obtain ⟨other, inside, twin'⟩ := matched.back other' member
      exact ⟨other, Set.mem_insert_of_mem _ inside, twin'⟩

/-- Two conditions that agree on twins are met by the same token hashes. -/
theorem Matched.hashes (matched : Matched db names rows rows') (condition condition' : Row → Prop)
    (agrees : ∀ row row', Twin db names row row' → (condition row ↔ condition' row')) (tokenHash : String) :
    (∃ row ∈ rows, condition row ∧ row.tokenHash = tokenHash) ↔
      ∃ row' ∈ rows', condition' row' ∧ row'.tokenHash = tokenHash := by
  constructor
  · rintro ⟨row, member, holds, rfl⟩
    obtain ⟨row', inside, twin⟩ := matched.forth row member
    exact ⟨row', inside, (agrees row row' twin).mp holds, twin.tokenHash.symm⟩
  · rintro ⟨row', member, holds, rfl⟩
    obtain ⟨row, inside, twin⟩ := matched.back row' member
    exact ⟨row, inside, (agrees row row' twin).mpr holds, twin.tokenHash⟩

theorem Matched.live (matched : Matched db names rows rows') (tokenHash : String) :
    Live rows tokenHash ↔ Live rows' tokenHash := by
  simpa [Live] using matched.hashes (fun _ => True) (fun _ => True) (by simp) tokenHash

/-- Two sessions that fill in one session are stored as twins. -/
theorem twin_of_filled {session created created' : Session} (filled : created.FillsIn session)
    (filled' : created'.FillsIn session) (named : names.lookup created.id = some created'.id) :
    Twin db names (created.keptRow id) (created'.keptRow db.stored) where
  named := named
  userID := filled.userID.trans filled'.userID.symm
  tokenHash := filled.tokenHash.trans filled'.tokenHash.symm
  deviceID := filled.deviceID.trans filled'.deviceID.symm
  userAgent := filled.userAgent.trans filled'.userAgent.symm
  ipAddress := filled.ipAddress.trans filled'.ipAddress.symm
  expiresAt := congrArg db.stored (filled'.expiresAt.trans filled.expiresAt.symm)

theorem agree_of_filled {session created created' : Session} (filled : created.FillsIn session)
    (filled' : created'.FillsIn session) (named : names.lookup created.id = some created'.id) :
    Agree names (.session created) (.session created') :=
  .session named (filled.userID.trans filled'.userID.symm) (filled.userEmail.trans filled'.userEmail.symm)
    (filled.tokenHash.trans filled'.tokenHash.symm) (filled.deviceID.trans filled'.deviceID.symm)
    (filled.userAgent.trans filled'.userAgent.symm) (filled.ipAddress.trans filled'.ipAddress.symm)
    (filled.expiresAt.trans filled'.expiresAt.symm)

theorem Renaming.grows_insert (names : Renaming) {id id' : String} (fresh : names.lookup id = none) :
    names.Grows (names.insert id id') := by
  intro other other' found
  rw [AList.lookup_insert_ne]
  · exact found
  · rintro rfl
    rw [fresh] at found
    cases found

/-- Two bulk deletes whose conditions agree on twins return the same token hashes. -/
theorem Matched.cleared (matched : Matched db names rows rows') {condition condition' : Row → Prop}
    (agrees : ∀ row row', Twin db names row row' → (condition row ↔ condition' row')) {after after' : Set Row}
    {reply reply' : List String × Option StoreError} (cleared : Cleared condition rows after reply)
    (cleared' : Cleared condition' rows' after' reply') :
    Matched db names after after' ∧ ∀ tokenHash, tokenHash ∈ reply.1 ↔ tokenHash ∈ reply'.1 := by
  rw [cleared.rows, cleared'.rows]
  refine ⟨matched.filter _ _ fun row row' twin => not_congr (agrees row row' twin), ?_⟩
  intro tokenHash
  rw [cleared.hashes, cleared'.hashes]
  exact matched.hashes condition condition' agrees tokenHash

/-- Two sessions that fill in one session are installed under one name. -/
theorem Matched.installs (matched : Matched db names rows rows') {session created created' : Session}
    (fresh : names.lookup created.id = none) (filled : created.FillsIn session)
    (filled' : created'.FillsIn session) :
    Matched db (names.insert created.id created'.id) (Insert.insert (created.keptRow id) rows)
        (Insert.insert (created'.keptRow db.stored) rows') ∧
      Agree (names.insert created.id created'.id) (.session created) (.session created') := by
  have named : (names.insert created.id created'.id).lookup created.id = some created'.id := AList.lookup_insert names
  exact ⟨(matched.mono (names.grows_insert fresh)).insert (twin_of_filled filled filled' named),
    agree_of_filled filled filled' named⟩

/-- The call names the same session in both stores. -/
def Identifies (db : Database) (names : Renaming) : SessionCommand → Prop
  | .deleteByID sessionID _ => ∀ row row', Twin db names row row' →
      (row.id = sessionID ↔ row'.id = (names.lookup sessionID).getD sessionID)
  | _ => True

/-- Two exact deletes by an identifier of one session keep the rows matched and agree. -/
theorem matched_deleteByID {sessionID userID : String} {after after' : Set Row}
    {reply reply' : Except StoreError String} (matched : Matched db names rows rows')
    (unique : ∀ first ∈ rows', ∀ second ∈ rows', first.id = second.id → first = second)
    (identifies : Identifies db names (.deleteByID sessionID userID))
    (exact : (SessionCommand.deleteByID sessionID userID).Exact id rows after reply)
    (exact' : ((SessionCommand.deleteByID sessionID userID).renamed names).Exact db.stored rows' after' reply') :
    Matched db names after after' ∧ Agree names ((SessionCommand.deleteByID sessionID userID).result reply)
      (((SessionCommand.deleteByID sessionID userID).renamed names).result reply') := by
  cases reply with
  | error error =>
      obtain ⟨rfl, rfl, absent⟩ := exact
      cases reply' with
      | error error =>
          obtain ⟨rfl, rfl, _⟩ := exact'
          exact ⟨matched, .sessionNotFound⟩
      | ok tokenHash =>
          obtain ⟨⟨row', member, identity, owner, _⟩, _⟩ := exact'
          obtain ⟨row, inside, twin⟩ := matched.back row' member
          exact absurd (twin.userID.trans owner) (absent row inside ((identifies row row' twin).mpr identity))
  | ok tokenHash =>
      obtain ⟨⟨row, member, identity, owner, rfl⟩, rfl⟩ := exact
      obtain ⟨row', inside, twin⟩ := matched.forth row member
      have identity' := (identifies row row' twin).mp identity
      cases reply' with
      | error error =>
          obtain ⟨_, _, absent⟩ := exact'
          exact absurd (twin.userID.symm.trans owner) (absent row' inside identity')
      | ok tokenHash' =>
          obtain ⟨⟨other, member', same, _, rfl⟩, rfl⟩ := exact'
          obtain rfl := unique row' inside other member' (identity'.trans same.symm)
          rw [← twin.tokenHash]
          exact ⟨matched.without _, .tokenHash _⟩

/-- Two exact answers keep the rows matched, and they agree unless the call is a read. -/
theorem matched_step {command : SessionCommand} {reply : command.Reply} {after after' : Set Row}
    {reply' : (command.renamed names).Reply} (matched : Matched db names rows rows')
    (unique : ∀ first ∈ rows', ∀ second ∈ rows', first.id = second.id → first = second)
    (fresh : ∀ pair, command.installation reply = some pair → names.lookup pair.2.id = none)
    (identifies : Identifies db names command) (exact : command.Exact id rows after reply)
    (exact' : (command.renamed names).Exact db.stored rows' after' reply')
    (listed : ∀ userID, command ≠ .listByUserID userID) :
    Matched db (names.record (command.installation reply) ((command.renamed names).installation reply'))
        after after' ∧
      ((∀ tokenHash, command ≠ .getByTokenHash tokenHash) →
        Agree (names.record (command.installation reply) ((command.renamed names).installation reply'))
          (command.result reply) ((command.renamed names).result reply')) := by
  cases command with
  | create session =>
      cases reply with
      | error error => exact exact.elim
      | ok created =>
          cases reply' with
          | error error => exact exact'.elim
          | ok created' =>
              obtain ⟨filled, rfl⟩ := exact
              obtain ⟨filled', rfl⟩ := exact'
              obtain ⟨kept, agree⟩ := matched.installs (fresh _ rfl) filled filled'
              exact ⟨kept, fun _ => agree⟩
  | getByTokenHash tokenHash =>
      refine ⟨?_, fun other => absurd rfl (other tokenHash)⟩
      have same : after = rows := by
        cases reply with
        | ok session => exact exact.1
        | error error => exact exact.1
      have same' : after' = rows' := by
        cases reply' with
        | ok session => exact exact'.1
        | error error => exact exact'.1
      rw [same, same']
      exact matched
  | deleteByID sessionID userID =>
      obtain ⟨kept, agree⟩ := matched_deleteByID matched unique identifies exact exact'
      exact ⟨kept, fun _ => agree⟩
  | deleteByTokenHash tokenHash =>
      cases reply with
      | error error => exact exact.elim
      | ok _ =>
          cases reply' with
          | error error => exact exact'.elim
          | ok _ =>
              obtain rfl := exact
              obtain rfl := exact'
              exact ⟨matched.without tokenHash, fun _ => .done⟩
  | rotateToken oldHash session =>
      cases reply with
      | error error =>
          obtain ⟨rfl, rfl, absent⟩ := exact
          cases reply' with
          | error error =>
              obtain ⟨rfl, rfl, _⟩ := exact'
              exact ⟨matched, fun _ => .sessionNotFound⟩
          | ok created' => exact absurd ((matched.live oldHash).mpr exact'.2.1) absent
      | ok created =>
          obtain ⟨filled, live, rfl⟩ := exact
          cases reply' with
          | error error => exact absurd ((matched.live oldHash).mp live) exact'.2.2
          | ok created' =>
              obtain ⟨filled', _, rfl⟩ := exact'
              obtain ⟨kept, agree⟩ := (matched.without oldHash).installs (fresh _ rfl) filled filled'
              exact ⟨kept, fun _ => agree⟩
  | deleteAllByUserID userID =>
      obtain ⟨hashes, error⟩ := reply
      obtain ⟨hashes', error'⟩ := reply'
      obtain ⟨kept, same⟩ := matched.cleared (fun _ _ twin => by rw [twin.userID]) exact exact'
      obtain rfl : error = none := exact.succeeded
      obtain rfl : error' = none := exact'.succeeded
      exact ⟨kept, fun _ => .tokenHashes same⟩
  | deleteAllByUserIDExcept userID keepTokenHash =>
      obtain ⟨hashes, error⟩ := reply
      obtain ⟨hashes', error'⟩ := reply'
      obtain ⟨kept, same⟩ :=
        matched.cleared (fun _ _ twin => by rw [twin.userID, twin.tokenHash]) exact exact'
      obtain rfl : error = none := exact.succeeded
      obtain rfl : error' = none := exact'.succeeded
      exact ⟨kept, fun _ => .tokenHashes same⟩
  | listByUserID userID => exact absurd rfl (listed userID)

end Twins

end AuthService
