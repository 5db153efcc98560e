/-
This file proves whose sessions the rows, the cached copies and the returned token hashes are.
-/

import AuthService.Proof.CachedSessions
import AuthService.Proof.SessionFrames

namespace AuthService
open Interleaving System

/-- A session with the token hash was created for the user. -/
def IssuedTo (history : List (Event Ports)) (tokenHash userID : String) : Prop :=
  ∃ event ∈ history, ∃ session created, installationBy event = some (session, created) ∧
    session.tokenHash = tokenHash ∧ session.userID = userID

theorem IssuedTo.mono {history later : List (Event Ports)} {tokenHash userID : String}
    (issued : IssuedTo history tokenHash userID) (kept : ∀ event ∈ history, event ∈ later) :
    IssuedTo later tokenHash userID := by
  obtain ⟨event, member, found⟩ := issued
  exact ⟨event, kept event member, found⟩

/-- A token hash has one owner. -/
theorem IssuedTo.unique {history : List (Event Ports)} {tokenHash first second : String}
    (installs : (history.filterMap installedBy).Nodup) (left : IssuedTo history tokenHash first)
    (right : IssuedTo history tokenHash second) : first = second := by
  obtain ⟨event, member, session, created, installed, hash, owner⟩ := left
  obtain ⟨event', member', session', created', installed', hash', owner'⟩ := right
  have observed : installedBy event = some tokenHash := by
    rw [installedBy_eq, installed, Option.map_some, hash]
  have observed' : installedBy event' = some tokenHash := by
    rw [installedBy_eq, installed', Option.map_some, hash']
  obtain rfl := eq_of_observed_once installedBy history installs member member'
    (observed.trans observed'.symm) (by rw [observed]; rfl)
  rw [installed, Option.some.injEq, Prod.mk.injEq] at installed'
  rw [← owner, ← owner', installed'.1]

/-- The copies of sessions that a configuration holds or has read name the owners of their token hashes. -/
structure Attributed {store : SessionStore} (config : ServiceConfig store) : Prop where
  cache : ∀ tokenHash entry, config.world.cache tokenHash = some entry →
    IssuedTo config.history tokenHash entry.value.userID
  hits : ∀ task tokenHash cached,
    (⟨task, .cache (.get tokenHash), .ok cached⟩ : Event Ports) ∈ config.history →
    IssuedTo config.history tokenHash cached.userID
  reads : ∀ task tokenHash session,
    (⟨task, .sessions (.getByTokenHash tokenHash), .ok session⟩ : Event Ports) ∈ config.history →
    IssuedTo config.history tokenHash session.userID

theorem Attributed.looked {store : SessionStore} {config : ServiceConfig store} (attributed : Attributed config)
    {task : Nat} {tokenHash : String} {cached : CachedSession}
    (looked : Looked (transcript task config.history) tokenHash cached) :
    IssuedTo config.history tokenHash cached.userID := by
  rcases looked with hit | ⟨session, read, rfl⟩
  · exact attributed.hits task tokenHash cached ((mem_transcript _ _ _).mp hit)
  · exact attributed.reads task tokenHash session ((mem_transcript _ _ _).mp read)

/-- A request caches a copy under a token hash that it has installed for the same user. -/
theorem issuedTo_of_set {service : Service} {store : SessionStore} {config : ServiceConfig store}
    (disciplined : Disciplined (Permits service) (Finishes service) config) {task : Nat} {request : Request}
    {tokenHash : String} {cached : CachedSession} {ttl : Duration}
    {rest : (CacheCommand.set tokenHash cached ttl).Reply → Program Ports Answer}
    (selected : config.tasks[task]? = some ⟨request, .call (.cache (.set tokenHash cached ttl)) rest⟩) :
    IssuedTo config.history tokenHash cached.userID := by
  obtain ⟨event, member, session, created, installed, hash, owner, _⟩ := installed_of_set disciplined selected
  exact ⟨event, member, session, created, installed, hash, owner⟩

section
variable {service : Service} {store : SessionStore} [lawful : store.Lawful] {now : Time} {requests : List Request}
variable {allowed : ServiceConfig store → ServiceLabel → Prop} {config : ServiceConfig store}

/-- A row belongs to the owner of its token hash. -/
theorem issuedTo_of_row
    (reached : (system service store).Reaches allowed
      ((system service store).begin (World.empty store now) requests) config)
    {row : Row} (present : row ∈ rowsOf config) : IssuedTo config.history row.tokenHash row.userID := by
  rcases reaches_rows (World.empty_sound now) reached row present with ⟨old, member, _⟩ |
    ⟨event, member, session, created, installed, filled, rfl⟩
  · have none : store.rows (World.empty store now).sessions = [] := lawful.empty_rows
    rw [none] at member
    cases member
  · exact ⟨event, member, session, created, installed, filled.tokenHash.symm, filled.userID.symm⟩

/-- The session that a read of the store returns belongs to the owner of the token hash. -/
theorem issuedTo_of_read
    (reached : (system service store).Reaches allowed
      ((system service store).begin (World.empty store now) requests) config)
    {task : Nat} {request : Request} {tokenHash : String} {session : Session} {choice : Choice} {world : World store}
    {rest : (SessionCommand.getByTokenHash tokenHash).Reply → Program Ports Answer}
    (selected : config.tasks[task]? = some ⟨request, .call (.sessions (.getByTokenHash tokenHash)) rest⟩)
    (executed : exec service (.sessions (.getByTokenHash tokenHash)) choice config.world =
      some (.ok session, world)) : IssuedTo config.history tokenHash session.userID := by
  obtain ⟨sessions, performed, rfl⟩ := exec_sessions executed
  obtain ⟨_, member, rfl⟩ := ((reaches_ledger (World.empty_sound now) reached).effect (World.empty_sound now)
    (reaches_disciplined reached) selected performed).2
  exact issuedTo_of_row reached member

theorem reaches_attributed
    (reached : (system service store).Reaches allowed
      ((system service store).begin (World.empty store now) requests) config) : Attributed config := by
  apply reached.invariant
  · exact ⟨nofun, nofun, nofun⟩
  · intro config label next reached attributed _ moved
    have kept {tokenHash userID : String} (issued : IssuedTo config.history tokenHash userID) :
        IssuedTo next.history tokenHash userID := issued.mono fun _ member => (step_suffix label moved).subset member
    obtain ⟨_, _, rfl⟩ | ⟨task, choice, request, command, rest, reply, world, _, selected, executed, rfl⟩ |
      ⟨tick, world, _, drifted, rfl⟩ := service_cases moved
    · exact ⟨attributed.cache, attributed.hits, attributed.reads⟩
    · refine ⟨?_, ?_, ?_⟩
      · intro tokenHash entry present
        rcases exec_cache_entry executed present with before | ⟨ttl, rfl⟩
        · exact kept (attributed.cache tokenHash entry before)
        · exact kept (issuedTo_of_set (reaches_disciplined reached) selected)
      · intro reader tokenHash cached member
        rcases List.mem_cons.mp member with same | before
        · cases same
          obtain ⟨entry, present, rfl⟩ := cacheGet_found executed
          exact kept (attributed.cache tokenHash entry present)
        · exact kept (attributed.hits reader tokenHash cached before)
      · intro reader tokenHash session member
        rcases List.mem_cons.mp member with same | before
        · cases same
          exact kept (issuedTo_of_read reached selected executed)
        · exact kept (attributed.reads reader tokenHash session before)
    · exact ⟨fun tokenHash entry present => attributed.cache tokenHash entry (drift_entry drifted present),
        attributed.hits, attributed.reads⟩

end

/-- The token hashes that a deletion returned belong to the user whose sessions it deleted. -/
theorem issuedTo_of_listed {service : Service} {backend : Backend} {now : Time} {requests : List Request}
    {allowed : ServiceConfig backend.store → ServiceLabel → Prop} {config : ServiceConfig backend.store}
    (reached : (system service backend.store).Reaches allowed
      ((system service backend.store).begin (World.empty backend.store now) requests) config)
    {event : Event Ports} (member : event ∈ config.history) {userID tokenHash : String}
    (lists : Lists event.exchange userID tokenHash) : IssuedTo config.history tokenHash userID := by
  have explained : Explained (fun (event : Event Ports) past => ∀ userID tokenHash,
      Lists event.exchange userID tokenHash → IssuedTo past tokenHash userID) config.history := by
    apply reaches_explained reached
    intro config task request command rest choice reply world reached selected executed userID tokenHash lists
    cases command with
    | sessions command =>
        obtain ⟨sessions, performed, _⟩ := exec_sessions executed
        obtain ⟨row, inside, rfl, rfl⟩ :=
          Backend.exec_listed (reaches_ledger (World.empty_sound now) reached).inv performed lists
        exact issuedTo_of_row reached inside
    | _ => exact lists.elim
  obtain ⟨later, past, same, satisfied⟩ := explained.mem member
  refine (satisfied userID tokenHash lists).mono fun earlier inside => ?_
  rw [same]
  exact List.mem_append_right _ (List.mem_cons_of_mem _ inside)

end AuthService
