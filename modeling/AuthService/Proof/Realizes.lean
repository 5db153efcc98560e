/-
This file relates the stores of the service to the state of its specification.
-/

import AuthService.Concurrency.Ensures
import AuthService.Construction.Specification
import AuthService.Proof.Frames
import AuthService.Proof.Lockout
import Mathlib.Data.List.Forall2
import Mathlib.Data.Set.Function

namespace AuthService
open Interleaving Program System

namespace Visit

/-- No call of a visit fails. -/
def choice (visit : Visit) : Choice := { id := visit.id, token := visit.token, otp := visit.otp, salt := visit.salt }

def turn (visit : Visit) : Turn Choice Tick Request := ⟨.clock visit.time, visit.choice, visit.request⟩

end Visit

/-- On the known texts the hash has no collisions, and a password verifies against its own encodings only. -/
structure Collisionless (service : Service) (known salts : Set String) : Prop where
  hash : Set.InjOn service.hash known
  proper : ∀ text ∈ known, text ≠ "" → service.hash text ≠ ""
  verify : ∀ salt ∈ salts, ∀ password ∈ known, ∀ guess ∈ known,
    service.verifyPassword guess (service.hashPassword salt password) = some (decide (guess = password))

/-- The row of a profile. -/
structure Profile.KeptAs (service : Service) (known salts : Set String) (profile : Profile) (row : User) : Prop where
  id : row.id = profile.id
  email : row.email = profile.email
  password : profile.password ∈ known
  encoded : ∃ salt ∈ salts, row.passwordHash = service.hashPassword salt profile.password

/-- The row of a grant. -/
def Grant.row (service : Service) (grant : Grant) : Session where
  id := grant.sessionID
  userID := grant.userID
  userEmail := ""
  tokenHash := service.hash grant.token
  deviceID := grant.deviceID
  userAgent := grant.client.userAgent
  ipAddress := grant.client.ipAddress
  expiresAt := grant.expiresAt
  lastUsedAt := grant.createdAt
  createdAt := grant.createdAt

/-- The cached copy of a grant. -/
def Grant.copy (grant : Grant) : CachedSession :=
  ⟨grant.sessionID, grant.userID, grant.email, grant.deviceID, grant.expiresAt⟩

def SentCode.record (service : Service) (sent : SentCode) : Expiring OTPRecord :=
  ⟨⟨sent.userID, service.hash sent.code, sent.attempts⟩, some sent.expiresAt⟩

def Permit.record (permit : Permit) : Expiring ResetTokenRecord :=
  ⟨⟨permit.userID, permit.email⟩, some permit.expiresAt⟩

def World.putCode {store : SessionStore} (service : Service) (email : String) (code : Option SentCode)
    (world : World store) : World store :=
  { world with otps := Function.update world.otps (service.hash email) (code.map (SentCode.record service)) }

def World.putPermit {store : SessionStore} (service : Service) (token : String) (permit : Option Permit)
    (world : World store) : World store :=
  { world with resetTokens := Function.update world.resetTokens (service.hash token) (permit.map Permit.record) }

/-- The user is registered with the address. -/
def Ideal.Has (ideal : Ideal) (userID email : String) : Prop :=
  ∃ profile ∈ ideal.profiles, profile.id = userID ∧ profile.email = email

/-- Grants, codes and permits belong to registered users. -/
structure Ideal.Owned (ideal : Ideal) : Prop where
  grants : ∀ grant ∈ ideal.grants, ideal.Has grant.userID grant.email
  codes : ∀ email code, ideal.codes email = some code → ∃ address, ideal.Has code.userID address
  permits : ∀ token permit, ideal.permits token = some permit → ∃ address, ideal.Has permit.userID address

/-- The session rows are those of the grants. The cache holds copies of them, and it may still have copies under the
stale hashes. -/
structure KeepsGrants (service : Service) (known : Set String) (grants : List Grant) (drawn stale : List String)
    (rows : List Session) (cache : String → Option (Expiring CachedSession)) (issued : List String) : Prop where
  rows : rows = grants.map (Grant.row service)
  tokens : ∀ grant ∈ grants, grant.token ∈ drawn
  copies : ∀ hash entry, cache hash = some entry → hash ∈ stale ∨
    ∃ grant ∈ grants, service.hash grant.token = hash ∧ entry.value = grant.copy
  issued : issued = drawn.map service.hash
  handed : ∀ token ∈ drawn, token ∈ known

/-- The reset store holds the codes and the permits. -/
structure KeepsResets (service : Service) (known : Set String) (codes : String → Option SentCode)
    (permits : String → Option Permit) (otps : String → Option (Expiring OTPRecord))
    (resetTokens : String → Option (Expiring ResetTokenRecord)) : Prop where
  code : ∀ email ∈ known, otps (service.hash email) = (codes email).map (SentCode.record service)
  sent : ∀ email code, codes email = some code → code.code ∈ known
  permit : ∀ token ∈ known, resetTokens (service.hash token) = (permits token).map Permit.record

/-- The stores of the service hold the state of the specification, each store its own part. -/
structure Realizes (service : Service) (known salts : Set String) {db : Database} (ideal : Ideal)
    (stale : List String) (world : World (postgres db)) : Prop where
  accounts : List.Forall₂ (Profile.KeptAs service known salts) ideal.profiles world.users.rows
  sessions : KeepsGrants service known ideal.grants ideal.drawn stale (SessionTable.rows world.sessions) world.cache
    world.issued
  resets : KeepsResets service known ideal.codes ideal.permits world.otps world.resetTokens
  lockout : ∀ email, Represents email (ideal.lockout email) world.guard
  owned : ideal.Owned

section Lists
variable {A B : Type} {related : A → B → Prop}

/-- Related lists give related results of a search. -/
theorem rel_find {first : List A} {second : List B} (same : List.Forall₂ related first second) {p : A → Bool}
    {q : B → Bool} (agree : ∀ a b, related a b → p a = q b) :
    Option.Rel related (first.find? p) (second.find? q) := by
  induction same with
  | nil => exact .none
  | @cons a b _ _ holds _ ih =>
      rw [List.find?_cons, List.find?_cons, agree a b holds]
      cases q b with
      | true => exact .some holds
      | false => exact ih

theorem rel_map_eq {C : Type} {first : List A} {second : List B} (same : List.Forall₂ related first second) {f : A → C}
    {g : B → C} (agree : ∀ a b, related a b → g b = f a) : second.map g = first.map f := by
  induction same with
  | nil => rfl
  | @cons a b _ _ holds _ ih => rw [List.map_cons, List.map_cons, agree a b holds, ih]

/-- Each item of a list is related to one of the other list. -/
theorem rel_mem {first : List A} {second : List B} (same : List.Forall₂ related first second) {a : A}
    (member : a ∈ first) : ∃ b ∈ second, related a b := by
  induction same with
  | nil => cases member
  | @cons c d _ _ holds _ ih =>
      rcases List.mem_cons.mp member with rfl | later
      · exact ⟨d, List.mem_cons_self, holds⟩
      · obtain ⟨b, inside, found⟩ := ih later
        exact ⟨b, List.mem_cons_of_mem _ inside, found⟩

end Lists

/-- A user stays registered when no profile is lost. -/
theorem Ideal.Owned.mono {ideal : Ideal} (owned : ideal.Owned) {profiles : List Profile}
    (has : ∀ userID email, ideal.Has userID email → { ideal with profiles }.Has userID email) :
    { ideal with profiles }.Owned where
  grants := fun grant member => has _ _ (owned.grants grant member)
  codes := fun email code present => (owned.codes email code present).imp fun _ => has _ _
  permits := fun token permit present => (owned.permits token permit present).imp fun _ => has _ _

/-- An entry that is written keeps what holds of all entries. -/
theorem forall_update {V : Type} {entries : String → Option V} {holds : V → Prop} {key : String} {value : Option V}
    (before : ∀ other entry, entries other = some entry → holds entry)
    (fits : ∀ entry, value = some entry → holds entry) (other : String) (entry : V)
    (present : Function.update entries key value other = some entry) : holds entry := by
  by_cases same : other = key
  · subst same
    rw [Function.update_self] at present
    exact fits entry present
  · rw [Function.update_of_ne same] at present
    exact before other entry present

namespace KeepsGrants
variable {service : Service} {known : Set String} {grants : List Grant} {drawn stale : List String}
variable {rows : List Session} {cache : String → Option (Expiring CachedSession)} {issued : List String}

/-- A revocation leaves the copies of the revoked grants stale. -/
theorem revoke (keeps : KeepsGrants service known grants drawn stale rows cache issued) {selected : Grant → Bool}
    {rows' : List Session} (left : rows' = (grants.filter fun grant => !selected grant).map (Grant.row service)) :
    KeepsGrants service known (grants.filter fun grant => !selected grant) drawn
      ((grants.filter selected).map (fun grant => service.hash grant.token) ++ stale) rows' cache issued :=
  { keeps with
    rows := left
    tokens := fun grant member => keeps.tokens grant (List.mem_of_mem_filter member)
    copies := by
      intro hash entry present
      rcases keeps.copies hash entry present with old | ⟨grant, member, hashed, copied⟩
      · exact .inl (List.mem_append_right _ old)
      · cases chosen : selected grant with
        | true =>
            refine .inl (List.mem_append_left _ ?_)
            exact List.mem_map.mpr ⟨grant, List.mem_filter.mpr ⟨member, chosen⟩, hashed⟩
        | false =>
            exact .inr ⟨grant, List.mem_filter.mpr ⟨member, by rw [chosen, Bool.not_false]⟩, hashed, copied⟩ }

theorem grant (keeps : KeepsGrants service known grants drawn stale rows cache issued) {grant : Grant}
    (handed : grant.token ∈ drawn) :
    KeepsGrants service known (grant :: grants) drawn stale (grant.row service :: rows) cache issued :=
  { keeps with
    rows := by rw [keeps.rows, List.map_cons]
    tokens := List.forall_mem_cons.mpr ⟨handed, keeps.tokens⟩
    copies := by
      intro hash entry present
      refine (keeps.copies hash entry present).imp id ?_
      rintro ⟨other, member, same⟩
      exact ⟨other, List.mem_cons_of_mem _ member, same⟩ }

theorem cacheSet (keeps : KeepsGrants service known grants drawn stale rows cache issued) {grant : Grant}
    (member : grant ∈ grants) (expiry : Option Time) :
    KeepsGrants service known grants drawn stale rows
      (Function.update cache (service.hash grant.token) (some ⟨grant.copy, expiry⟩)) issued :=
  { keeps with
    copies := by
      intro hash entry present
      by_cases same : hash = service.hash grant.token
      · subst same
        rw [Function.update_self, Option.some.injEq] at present
        subst present
        exact .inr ⟨grant, member, rfl, rfl⟩
      · rw [Function.update_of_ne same] at present
        exact keeps.copies hash entry present }

theorem cacheDelete {tokenHash : String}
    (keeps : KeepsGrants service known grants drawn (tokenHash :: stale) rows cache issued) :
    KeepsGrants service known grants drawn stale rows (Function.update cache tokenHash none) issued :=
  { keeps with
    copies := by
      intro hash entry present
      by_cases same : hash = tokenHash
      · subst same
        rw [Function.update_self] at present
        cases present
      · rw [Function.update_of_ne same] at present
        refine (keeps.copies hash entry present).imp ?_ id
        intro old
        exact (List.mem_cons.mp old).resolve_left same }

theorem mono_stale (keeps : KeepsGrants service known grants drawn stale rows cache issued) {stale' : List String}
    (more : stale ⊆ stale') : KeepsGrants service known grants drawn stale' rows cache issued :=
  { keeps with copies := fun hash entry present => (keeps.copies hash entry present).imp (fun old => more old) id }

theorem draw (keeps : KeepsGrants service known grants drawn stale rows cache issued) {token : String}
    (recognised : token ∈ known) :
    KeepsGrants service known grants (token :: drawn) stale rows cache (service.hash token :: issued) :=
  { keeps with
    tokens := fun grant member => List.mem_cons_of_mem _ (keeps.tokens grant member)
    issued := by rw [keeps.issued, List.map_cons]
    handed := List.forall_mem_cons.mpr ⟨recognised, keeps.handed⟩ }

end KeepsGrants

namespace KeepsResets
variable {service : Service} {known salts : Set String} {codes : String → Option SentCode}
variable {permits : String → Option Permit} {otps : String → Option (Expiring OTPRecord)}
variable {resetTokens : String → Option (Expiring ResetTokenRecord)}

/-- An entry under a known text and its record under the hash of the text are written together. -/
theorem record_update {K V : Type} {kept : String → Option K} {entries : String → Option V} {record : K → V}
    (collisionless : Collisionless service known salts)
    (before : ∀ text ∈ known, entries (service.hash text) = (kept text).map record) {text : String}
    (recognised : text ∈ known) (item : Option K) : ∀ other ∈ known,
      Function.update entries (service.hash text) (item.map record) (service.hash other) =
        (Function.update kept text item other).map record := by
  intro other recognised'
  by_cases same : other = text
  · subst same
    rw [Function.update_self, Function.update_self]
  · have apart : service.hash other ≠ service.hash text := fun clash =>
      same (collisionless.hash recognised' recognised clash)
    rw [Function.update_of_ne apart, Function.update_of_ne same, before other recognised']

theorem withCode (keeps : KeepsResets service known codes permits otps resetTokens)
    (collisionless : Collisionless service known salts) {email : String} (recognised : email ∈ known)
    {code : Option SentCode} (fits : ∀ sent, code = some sent → sent.code ∈ known) :
    KeepsResets service known (Function.update codes email code) permits
      (Function.update otps (service.hash email) (code.map (SentCode.record service))) resetTokens :=
  { keeps with
    code := record_update collisionless keeps.code recognised code
    sent := forall_update keeps.sent fits }

theorem withPermit (keeps : KeepsResets service known codes permits otps resetTokens)
    (collisionless : Collisionless service known salts) {token : String} (recognised : token ∈ known)
    (permit : Option Permit) :
    KeepsResets service known codes (Function.update permits token permit) otps
      (Function.update resetTokens (service.hash token) (permit.map Permit.record)) :=
  { keeps with permit := record_update collisionless keeps.permit recognised permit }

end KeepsResets

section Stores
variable {service : Service} {known salts : Set String} {db : Database} {ideal : Ideal} {stale : List String}
variable {world : World (postgres db)} {visit : Visit}

namespace Realizes

theorem empty (service : Service) (known salts : Set String) (db : Database) (now : Time) :
    Realizes service known salts Ideal.empty [] (World.empty (postgres db) now) where
  accounts := .nil
  sessions := ⟨rfl, List.forall_mem_nil _, (fun _ _ present => nomatch present), rfl, List.forall_mem_nil _⟩
  resets := ⟨fun _ _ => rfl, (fun _ _ present => nomatch present), fun _ _ => rfl⟩
  lockout := fun _ => .of_clear rfl rfl
  owned := ⟨List.forall_mem_nil _, (fun _ _ present => nomatch present), (fun _ _ present => nomatch present)⟩

/-- The clock and the background are not part of the state of the specification. -/
theorem aside (realizes : Realizes service known salts ideal stale world) (now : Time)
    (background : List BackgroundCommand) :
    Realizes service known salts ideal stale { world with now, background } := { realizes with }

theorem register (realizes : Realizes service known salts ideal stale world) {profile : Profile} {row : User}
    (kept : profile.KeptAs service known salts row) {users : UserTable} (rows : users.rows = row :: world.users.rows) :
    Realizes service known salts { ideal with profiles := profile :: ideal.profiles } stale { world with users } :=
  { realizes with
    accounts := by
      rw [rows]
      exact .cons kept realizes.accounts
    owned := by
      refine realizes.owned.mono ?_
      rintro userID email ⟨other, member, same⟩
      exact ⟨other, List.mem_cons_of_mem _ member, same⟩ }

theorem setPassword (realizes : Realizes service known salts ideal stale world) {userID password salt : String}
    (recognised : password ∈ known) (salted : salt ∈ salts) (now : Time) :
    Realizes service known salts (ideal.setPassword userID password) stale
      { world with users := world.users.setPassword userID (service.hashPassword salt password) now } :=
  { realizes with
    accounts := by
      refine List.rel_map ?_ realizes.accounts
      intro profile row kept
      simp only [UserTable.withPassword, kept.id]
      split
      · exact ⟨rfl, kept.email, recognised, salt, salted, rfl⟩
      · exact kept
    owned := by
      refine realizes.owned.mono ?_
      rintro other email ⟨profile, member, id, address⟩
      refine ⟨_, List.mem_map_of_mem member, ?_⟩
      split
      · exact ⟨id, address⟩
      · exact ⟨id, address⟩ }

theorem revoke (realizes : Realizes service known salts ideal stale world) {selected : Grant → Bool}
    {table : (postgres db).State}
    (rows : SessionTable.rows table = (ideal.grants.filter fun grant => !selected grant).map (Grant.row service)) :
    Realizes service known salts (ideal.revoke selected)
      ((ideal.grants.filter selected).map (fun grant => service.hash grant.token) ++ stale)
      { world with sessions := table } :=
  { realizes with
    sessions := realizes.sessions.revoke rows
    owned := { realizes.owned with
      grants := fun grant member => realizes.owned.grants grant (List.mem_of_mem_filter member) } }

theorem grant (realizes : Realizes service known salts ideal stale world) {grant : Grant}
    {table : (postgres db).State}
    (rows : SessionTable.rows table = grant.row service :: SessionTable.rows world.sessions)
    (handed : grant.token ∈ ideal.drawn) (owner : ideal.Has grant.userID grant.email) :
    Realizes service known salts { ideal with grants := grant :: ideal.grants } stale
      { world with sessions := table } :=
  { realizes with
    sessions := by
      rw [rows]
      exact realizes.sessions.grant handed
    owned := { realizes.owned with grants := List.forall_mem_cons.mpr ⟨owner, realizes.owned.grants⟩ } }

theorem cacheSet (realizes : Realizes service known salts ideal stale world) {grant : Grant}
    (member : grant ∈ ideal.grants) (expiry : Option Time) :
    Realizes service known salts ideal stale { world with
      cache := Function.update world.cache (service.hash grant.token) (some ⟨grant.copy, expiry⟩) } :=
  { realizes with sessions := realizes.sessions.cacheSet member expiry }

theorem cacheDelete {tokenHash : String}
    (realizes : Realizes service known salts ideal (tokenHash :: stale) world) :
    Realizes service known salts ideal stale { world with cache := Function.update world.cache tokenHash none } :=
  { realizes with sessions := realizes.sessions.cacheDelete }

theorem mono_stale (realizes : Realizes service known salts ideal stale world) {stale' : List String}
    (more : stale ⊆ stale') : Realizes service known salts ideal stale' world :=
  { realizes with sessions := realizes.sessions.mono_stale more }

/-- A call of the guard changes the lockout of one address. -/
theorem lock (realizes : Realizes service known salts ideal stale world) {email : String} {lockout : Lockout}
    {guard : GuardState} (here : Represents email lockout guard)
    (others : ∀ other spec, other ≠ email → Represents other spec world.guard → Represents other spec guard) :
    Realizes service known salts (ideal.withLockout email lockout) stale { world with guard } :=
  { realizes with
    lockout := by
      intro other
      by_cases same : other = email
      · subst same
        simp only [Ideal.withLockout, Function.update_self]
        exact here
      · simp only [Ideal.withLockout, Function.update_of_ne same]
        exact others other _ same (realizes.lockout other)
    owned := { realizes.owned with } }

theorem draw (realizes : Realizes service known salts ideal stale world) (recognised : visit.token ∈ known) :
    Realizes service known salts (ideal.draw visit) stale
      { world with issued := service.hash visit.token :: world.issued } :=
  { realizes with
    sessions := realizes.sessions.draw recognised
    owned := { realizes.owned with } }

theorem withCode (realizes : Realizes service known salts ideal stale world)
    (collisionless : Collisionless service known salts) {email : String} (recognised : email ∈ known)
    {code : Option SentCode}
    (fits : ∀ sent, code = some sent → sent.code ∈ known ∧ ∃ address, ideal.Has sent.userID address) :
    Realizes service known salts (ideal.withCode email code) stale (world.putCode service email code) :=
  { realizes with
    resets := realizes.resets.withCode collisionless recognised fun sent present => (fits sent present).1
    owned := { realizes.owned with
      codes := forall_update realizes.owned.codes fun sent present => (fits sent present).2 } }

theorem withPermit (realizes : Realizes service known salts ideal stale world)
    (collisionless : Collisionless service known salts) {token : String} (recognised : token ∈ known)
    {permit : Option Permit} (fits : ∀ given, permit = some given → ∃ address, ideal.Has given.userID address) :
    Realizes service known salts (ideal.withPermit token permit) stale (world.putPermit service token permit) :=
  { realizes with
    resets := realizes.resets.withPermit collisionless recognised permit
    owned := { realizes.owned with permits := forall_update realizes.owned.permits fits } }

end Realizes
end Stores
end AuthService
