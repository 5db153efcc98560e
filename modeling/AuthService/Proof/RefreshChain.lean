/-
This file proves that every refresh descends from a login, along a chain of refresh tokens.
-/

import AuthService.Proof.CachedSessions
import AuthService.Proof.SingleUse
import Mathlib.Data.Set.Function

namespace AuthService
open Interleaving System

/-- The task is a `Login` or a `RefreshToken` request that has returned the refresh token. -/
def Returned {store : SessionStore} (config : ServiceConfig store) (task : Nat) (plain : String) : Prop :=
  ∃ ctx access,
    (∃ req, config.request task = some (.login ctx req) ∧ config.Answered task (.ok (.login access plain))) ∨
    ∃ req, config.request task = some (.refreshToken ctx req) ∧
      config.Answered task (.ok (.refreshToken access plain))

/-- The chain of requests behind a refresh token. The first request is a login that verified the password
of the user, each later one is a refresh that presented the token of the one before, and the last request
drew the token and built its session at the given reading of the clock. -/
inductive Lineage {store : SessionStore} (service : Service) (config : ServiceConfig store) :
    Nat → Nat → String → User → Time → Prop where
  | login {task : Nat} {ctx : Context} {req : LoginRequest} {user : User} {plain : String} {now : Time}
      {created : Session} (started : config.request task = some (.login ctx req))
      (read : (⟨task, .users (.getByEmail req.email), .ok user⟩ : Event Ports) ∈ config.history)
      (verified : service.verifyPassword req.password user.passwordHash = some true)
      (drawn : (⟨task, .random .token, some plain⟩ : Event Ports) ∈ config.history)
      (clocked : (⟨task, .clock, now⟩ : Event Ports) ∈ config.history)
      (installed : (⟨task, .sessions (.create (loginSession service ctx req user plain now)), .ok created⟩ :
        Event Ports) ∈ config.history) :
      Lineage service config task task plain user now
  | refresh {root previous task : Nat} {ctx : Context} {req : RefreshTokenRequest} {user : User}
      {plain : String} {cached : CachedSession} {earlier now : Time} {created : Session}
      (issued : Lineage service config root previous req.refreshToken user earlier)
      (started : config.request task = some (.refreshToken ctx req))
      (drawn : (⟨task, .random .token, some plain⟩ : Event Ports) ∈ config.history)
      (clocked : (⟨task, .clock, now⟩ : Event Ports) ∈ config.history)
      (installed : (⟨task, .sessions (.rotateToken (service.hash req.refreshToken)
        (refreshSession service ctx req cached plain now)), .ok created⟩ : Event Ports) ∈ config.history) :
      Lineage service config root task plain user now

theorem mem_of_clocks {past : Past} {now : Time} (read : now ∈ clocks past) :
    (⟨.clock, now⟩ : Exchange Ports) ∈ past := by
  induction past with
  | nil => cases read
  | cons exchange past ih =>
      unfold clocks at read
      split at read
      · cases read
      · rename_i same
        cases same
        rcases List.mem_cons.mp read with rfl | before
        · exact List.mem_cons_self
        · exact List.mem_cons_of_mem _ (ih before)
      · rename_i same
        cases same
        exact List.mem_cons_of_mem _ (ih read)

section
variable {service : Service} {store : SessionStore} {config next : ServiceConfig store}

theorem Lineage.drawn {root task : Nat} {plain : String} {user : User} {now : Time}
    (lineage : Lineage service config root task plain user now) :
    (⟨task, .random .token, some plain⟩ : Event Ports) ∈ config.history := by
  cases lineage with
  | login started read verified drawn clocked installed => exact drawn
  | refresh issued started drawn clocked installed => exact drawn

theorem Lineage.step {label : ServiceLabel} (moved : (system service store).step config label = some next)
    {root task : Nat} {plain : String} {user : User} {now : Time}
    (lineage : Lineage service config root task plain user now) :
    Lineage service next root task plain user now := by
  have later {event : Event Ports} (member : event ∈ config.history) : event ∈ next.history :=
    (step_suffix label moved).subset member
  induction lineage with
  | login started read verified drawn clocked installed =>
      exact .login (step_request label moved _ _ started) (later read) verified (later drawn) (later clocked)
        (later installed)
  | refresh issued started drawn clocked installed ih =>
      exact .refresh ih (step_request label moved _ _ started) (later drawn) (later clocked) (later installed)

/-- The user at the root of a chain is still in the table, with the same identifier and address. -/
theorem Lineage.known {base : World store} {requests : List Request}
    {allowed : ServiceConfig store → ServiceLabel → Prop}
    (reached : (system service store).Reaches allowed ((system service store).begin base requests) config)
    {root task : Nat} {plain : String} {user : User} {now : Time}
    (lineage : Lineage service config root task plain user now) :
    ∃ later ∈ config.world.users.rows, later.id = user.id ∧ later.email = user.email := by
  induction lineage with
  | login started read verified drawn clocked installed => exact reaches_user reached _ read _ rfl
  | refresh issued started drawn clocked installed ih => exact ih

/-- A refresh token has one issuer and one login behind it. -/
theorem Lineage.unique (fresh : (config.history.filterMap (drawnBy service)).Nodup)
    {root task : Nat} {plain : String} {user : User} {now : Time}
    (lineage : Lineage service config root task plain user now)
    {root' task' : Nat} {user' : User} {now' : Time}
    (other : Lineage service config root' task' plain user' now') : root' = root ∧ task' = task := by
  induction lineage generalizing root' task' user' now' with
  | login started read verified drawn clocked installed =>
      have owner := draw_owner fresh other.drawn drawn rfl
      cases other with
      | login => exact ⟨owner, owner⟩
      | refresh issued' started' =>
          rw [owner, started] at started'
          cases started'
  | refresh issued started drawn clocked installed ih =>
      have owner := draw_owner fresh other.drawn drawn rfl
      cases other with
      | login started' =>
          rw [owner, started] at started'
          cases started'
      | refresh issued' started' =>
          rw [owner, started] at started'
          cases started'
          exact ⟨(ih issued').1, owner⟩

/-- The values that are hashed remain so. -/
theorem hashedValues_step {label : ServiceLabel} (moved : (system service store).step config label = some next) :
    hashedValues config ⊆ hashedValues next := by
  rintro value (⟨task, request, started, used⟩ | ⟨event, member, generated⟩)
  · exact .inl ⟨task, request, step_request label moved _ _ started, used⟩
  · exact .inr ⟨event, (step_suffix label moved).subset member, generated⟩

end

/-- Every installed session has a chain behind it and belongs to the user at its root. -/
def Chained {store : SessionStore} (service : Service) (config : ServiceConfig store) : Prop :=
  ∀ event ∈ config.history, ∀ session created, installationBy event = some (session, created) →
    ∃ root plain user now, Lineage service config root event.task plain user now ∧
      session.tokenHash = service.hash plain ∧ session.userID = user.id ∧
      session.expiresAt = now + service.refreshTTL

section
variable {service : Service} {db : Database} {base : World (postgres db)} {requests : List Request}
variable {allowed : ServiceConfig (postgres db) → ServiceLabel → Prop} {config : ServiceConfig (postgres db)}

/-- A copy that is found for a presented token belongs to the user at the root of its chain. -/
theorem Chained.backed (chained : Chained service config)
    (reached : (system service (postgres db)).Reaches allowed ((system service (postgres db)).begin base requests)
      config) (injective : Set.InjOn service.hash (hashedValues config)) {presented : String}
    (used : presented ∈ hashedValues config) {kept : Time → Time} {cached : CachedSession}
    (backed : Backed kept config (service.hash presented) cached) :
    ∃ root issuer user now, Lineage service config root issuer presented user now ∧
      cached.userID = user.id ∧ cached.userEmail = user.email ∧
      cached.expiresAt = kept (now + service.refreshTTL) := by
  obtain ⟨⟨owner, inside, identity, address⟩, event, member, session, created, installed, hash, copies⟩ := backed
  obtain ⟨root, plain, user, now, lineage, hash', userID, expiresAt⟩ :=
    chained event member session created installed
  obtain rfl : plain = presented :=
    injective (hashed_of_event lineage.drawn rfl) used (hash'.symm.trans hash)
  have same : cached.userID = user.id := copies.userID.trans userID
  obtain ⟨row, inside', identity', address'⟩ := lineage.known reached
  obtain rfl : row = owner :=
    config.world.users.id_injective inside' inside (identity'.trans (same.symm.trans identity.symm))
  exact ⟨root, _, user, now, lineage, same, address.symm.trans address', copies.expiresAt.trans (by rw [expiresAt])⟩

/-- A session that a request is about to install continues a chain. -/
theorem Chained.next_session (chained : Chained service config) (faithful : Faithful config)
    (reached : (system service (postgres db)).Reaches allowed ((system service (postgres db)).begin base requests)
      config) (injective : Set.InjOn service.hash (hashedValues config)) {task : Nat} {choice : Choice}
    {request : Request} {command : SessionCommand} {rest : command.Reply → Program Ports Answer}
    {reply : command.Reply} {next : ServiceConfig (postgres db)}
    (selected : config.tasks[task]? = some ⟨request, .call (.sessions command) rest⟩)
    (moved : (system service (postgres db)).step config (.advance task choice) = some next)
    (performed : (⟨task, .sessions command, reply⟩ : Event Ports) ∈ next.history) {session created : Session}
    (installed : command.installation reply = some (session, created)) :
    ∃ root plain user now, Lineage service next root task plain user now ∧
      session.tokenHash = service.hash plain ∧ session.userID = user.id ∧
      session.expiresAt = now + service.refreshTTL := by
  have started : config.request task = some request := by rw [Config.request, selected, Option.map_some]
  have later {exchange : Exchange Ports} (member : exchange ∈ transcript task config.history) :
      (⟨task, exchange⟩ : Event Ports) ∈ next.history :=
    (step_suffix _ moved).subset ((mem_transcript _ _ _).mp member)
  cases (reaches_disciplined reached).next_permitted selected with
  | free harmless =>
      have observed : command.installed reply = some session.tokenHash := by
        rw [command.installed_eq, installed, Option.map_some]
      obtain ⟨given, new, _⟩ := SessionCommand.newSession_of_installed observed
      have wrote := SessionCommand.writes_of_newSession new
      rw [(Command.free_spec harmless).1] at wrote
      cases wrote
  | login grant first =>
      cases reply with
      | error error => cases installed
      | ok result =>
          cases installed
          exact ⟨task, _, _, _, .login (step_request _ moved _ _ started) (later (mem_of_select grant.read))
            grant.verified (later (mem_of_select grant.drawn)) (later grant.read_clock) performed, rfl, rfl, rfl⟩
  | rotate grant first =>
      cases reply with
      | error error => cases installed
      | ok result =>
          cases installed
          have clocked := mem_of_clocks (grant.read_clock.subset List.mem_cons_self)
          obtain ⟨kept, _, backed⟩ := faithful.looked grant.looked
          obtain ⟨root, issuer, user, earlier, lineage, userID, _⟩ :=
            chained.backed reached injective (hashed_of_request started (by simp [Request.hashes])) backed
          exact ⟨root, _, user, _, .refresh (lineage.step moved) (step_request _ moved _ _ started)
            (later (mem_of_select grant.drawn)) (later clocked) performed, rfl, userID, rfl⟩
  | _ => cases installed

/-- Every run from a world without sessions and without cached copies is chained. -/
theorem reaches_chained (sound : base.Sound) (fresh : base.sessions.rows = [])
    (empty : base.cache = fun _ => none)
    (reached : (system service (postgres db)).Reaches allowed ((system service (postgres db)).begin base requests)
      config) (injective : Set.InjOn service.hash (hashedValues config)) : Chained service config := by
  induction reached with
  | refl => rintro event ⟨⟩
  | @step middle last label reached _ moved ih =>
      have injective' := injective.mono (hashedValues_step moved)
      have chained := ih injective'
      intro event member session created installed
      have old (before : event ∈ middle.history) :
          ∃ root plain user now, Lineage service last root event.task plain user now ∧
          session.tokenHash = service.hash plain ∧ session.userID = user.id ∧
          session.expiresAt = now + service.refreshTTL := by
        obtain ⟨root, plain, user, now, lineage, rest⟩ := chained event before session created installed
        exact ⟨root, plain, user, now, lineage.step moved, rest⟩
      obtain ⟨_, _, rfl⟩ | ⟨task, choice, request, command, following, reply, world, rfl, selected, executed,
        rfl⟩ | ⟨tick, world, _, drifted, rfl⟩ := service_cases moved
      · exact old member
      · rcases List.mem_cons.mp member with rfl | before
        · cases command with
          | sessions command =>
              exact chained.next_session (reaches_faithful sound fresh empty reached) reached injective'
                selected moved member installed
          | _ => cases installed
        · exact old before
      · exact old member

end

section
variable {service : Service} {store : SessionStore} {config : ServiceConfig store}

/-- A request that spared the sessions has installed none. -/
theorem not_spares_of_installation {command : SessionCommand} {reply : command.Reply}
    {pair : Session × Session} (installed : command.installation reply = some pair) :
    ¬ Spares ⟨.sessions command, reply⟩ := by
  cases command with
  | create session =>
      cases reply with
      | error error => cases installed
      | ok created => exact id
  | rotateToken oldHash session =>
      cases reply with
      | error error => cases installed
      | ok created => exact id
  | _ => cases installed

/-- The only success of a request with a chain is to return its token. -/
theorem Lineage.answer (disciplined : Disciplined (Permits service) (Finishes service) config)
    {root task : Nat} {plain : String} {user : User} {now : Time} {answer : Answer}
    (lineage : Lineage service config root task plain user now) (answered : config.Answered task answer) :
    ∃ ctx access, (∃ req, config.request task = some (.login ctx req) ∧ answer = .ok (.login access plain)) ∨
      ∃ req, config.request task = some (.refreshToken ctx req) ∧ answer = .ok (.refreshToken access plain) := by
  have drew {other : String} (drawn : select Command.drawsToken (transcript task config.history) =
      [⟨.random .token, some other⟩]) : other = plain := by
    have member : (⟨.random .token, some plain⟩ : Exchange Ports) ∈
        select Command.drawsToken (transcript task config.history) :=
      List.mem_filter.mpr ⟨(mem_transcript _ _ _).mpr lineage.drawn, rfl⟩
    rw [drawn, List.mem_singleton] at member
    cases member
    rfl
  cases lineage with
  | login started read verified drawn clocked installed =>
      cases disciplined.answered _ _ _ started answered with
      | failed sparing =>
          exact absurd (sparing _ ((mem_transcript _ _ _).mpr installed)) (not_spares_of_installation rfl)
      | plain ordinary => cases ordinary
      | login grant created =>
          obtain rfl := drew grant.drawn
          exact ⟨_, _, .inl ⟨_, started, rfl⟩⟩
  | refresh issued started drawn clocked installed =>
      cases disciplined.answered _ _ _ started answered with
      | failed sparing =>
          exact absurd (sparing _ ((mem_transcript _ _ _).mpr installed)) (not_spares_of_installation rfl)
      | expired looked read expired sparing =>
          rcases sparing _ ((mem_transcript _ _ _).mpr installed) with spared | other
          · exact absurd spared (not_spares_of_installation rfl)
          · cases other
      | plain ordinary => cases ordinary
      | refresh grant rotated =>
          obtain rfl := drew grant.drawn
          exact ⟨_, _, .inr ⟨_, started, rfl⟩⟩

/-- A request that returned a refresh token drew it. -/
theorem Returned.drawn (disciplined : Disciplined (Permits service) (Finishes service) config)
    {task : Nat} {plain : String} (returned : Returned config task plain) :
    (⟨task, .random .token, some plain⟩ : Event Ports) ∈ config.history := by
  obtain ⟨ctx, access, ⟨req, started, answered⟩ | ⟨req, started, answered⟩⟩ := returned
  · cases disciplined.answered task _ _ started answered with
    | plain ordinary => cases ordinary
    | login grant created => exact (mem_transcript _ _ _).mp (mem_of_select grant.drawn)
  · cases disciplined.answered task _ _ started answered with
    | plain ordinary => cases ordinary
    | refresh grant rotated => exact (mem_transcript _ _ _).mp (mem_of_select grant.drawn)

end

/-- The refresh token that a request presents. -/
def Request.presented : Request → Option String
  | .refreshToken _ req => some req.refreshToken
  | _ => none

/-- The token that an event generates. -/
def tokenBy : Event Ports → Option String
  | ⟨_, .random .token, reply⟩ => reply
  | _ => none

/-- Nobody guesses a refresh token: a request presents a generated token only after the request that
generated it has answered, and a generated token is none that was presented before. -/
def unguessed {store : SessionStore} (config : ServiceConfig store) : ServiceLabel → Bool
  | .start request => request.presented.all fun plain => config.history.all fun event =>
      tokenBy event ≠ some plain || (config.answer? event.task).isSome
  | .advance task choice =>
      match config.tasks[task]? with
      | some ⟨_, .call (.random .token) _⟩ =>
          choice.fails || config.tasks.all fun entry => entry.request.presented ≠ some choice.token
      | _ => true
  | .drift _ => true

section
variable {service : Service} {store : SessionStore} {base : World store} {config : ServiceConfig store}

theorem exec_draw_token {choice : Choice} {world next : World store} {plain : String}
    (executed : exec service (.random .token) choice world = some (some plain, next)) :
    choice.fails = false ∧ choice.token = plain := by
  simp only [exec, execRandom] at executed
  split at executed
  · cases executed
  · rename_i works
    split at executed
    · cases executed
    · cases executed
      exact ⟨Bool.eq_false_iff.mpr works, rfl⟩

/-- A token that is presented is not drawn any more. -/
theorem not_drawn_after {after : ServiceConfig store} {task : Nat} {ctx : Context} {req : RefreshTokenRequest}
    (started : after.request task = some (.refreshToken ctx req))
    (reached : (system service store).Reaches (fun config label => unguessed config label = true) after config)
    {issuer : Nat}
    (drawn : (⟨issuer, .random .token, some req.refreshToken⟩ : Event Ports) ∈ config.history) :
    (⟨issuer, .random .token, some req.refreshToken⟩ : Event Ports) ∈ after.history := by
  induction reached with
  | refl => exact drawn
  | @step middle last label reached permitted moved ih =>
      obtain ⟨_, _, rfl⟩ | ⟨owner, choice, request, command, following, reply, world, rfl, selected, executed,
        rfl⟩ | ⟨tick, world, _, drifted, rfl⟩ := service_cases moved
      · exact ih drawn
      · rcases List.mem_cons.mp drawn with same | before
        · cases same
          obtain ⟨works, same⟩ := exec_draw_token executed
          obtain ⟨entry, present, requested⟩ := Option.map_eq_some_iff.mp (reached.request task _ started)
          simp only [unguessed, selected, works, same, Bool.false_or, List.all_eq_true, decide_eq_true_eq] at permitted
          have apart := permitted entry (List.mem_of_getElem? present)
          rw [requested] at apart
          exact absurd rfl apart
        · exact ih before
      · exact ih drawn

/-- A presented token was returned before the request that presents it was started. -/
theorem Lineage.returned
    (reached : (system service store).Reaches (fun config label => unguessed config label = true)
      ((system service store).begin base []) config) {task : Nat} {ctx : Context} {req : RefreshTokenRequest}
    (presents : config.request task = some (.refreshToken ctx req)) {root issuer : Nat} {user : User} {now : Time}
    (lineage : Lineage service config root issuer req.refreshToken user now) :
    ∃ before, (system service store).Reaches (fun config label => unguessed config label = true)
        ((system service store).begin base []) before ∧ before.request task = none ∧
      Returned before issuer req.refreshToken ∧
      (system service store).Reaches (fun config label => unguessed config label = true) before config := by
  obtain ⟨before, after, first, absent, permitted, moved, started, rest⟩ := reached.started rfl presents
  have onward := (Reaches.step _ .refl permitted moved).trans rest
  have drawn : (⟨issuer, .random .token, some req.refreshToken⟩ : Event Ports) ∈ before.history := by
    have inside := not_drawn_after started rest lineage.drawn
    obtain rfl := Option.some.inj moved
    exact inside
  simp only [unguessed, Request.presented, Option.all_some, List.all_eq_true, Bool.or_eq_true] at permitted
  have done : (before.answer? issuer).isSome := by
    rcases permitted _ drawn with apart | done
    · exact absurd rfl (of_decide_eq_true apart)
    · exact done
  obtain ⟨answer, known⟩ := Option.isSome_iff_exists.mp done
  have answered := Config.answered_of_answer? known
  obtain ⟨entry, selected, _⟩ := Option.map_eq_some_iff.mp answered
  have requested : before.request issuer = some entry.request := by
    rw [Config.request, selected, Option.map_some]
  refine ⟨before, first, absent, ?_, onward⟩
  obtain ⟨ctx, access, ⟨req, same, rfl⟩ | ⟨req, same, rfl⟩⟩ :=
    lineage.answer (reaches_disciplined reached) (onward.answered issuer answer answered)
  · rw [onward.request issuer _ requested] at same
    exact ⟨ctx, access, .inl ⟨req, requested.trans same, answered⟩⟩
  · rw [onward.request issuer _ requested] at same
    exact ⟨ctx, access, .inr ⟨req, requested.trans same, answered⟩⟩

end

/-- What a successful refresh takes over from the user at the root of the chain and from the issue of the
token. -/
structure Inherits {store : SessionStore} (service : Service) (config : ServiceConfig store) (task : Nat)
    (presented access plain : String) (user : User) (issuedAt : Time) : Prop where
  signed : (⟨task, .tokens (.generate ⟨user.id, user.email, ["user"]⟩), some access⟩ : Event Ports) ∈
    config.history
  rotated : ∃ session created,
    (⟨task, .sessions (.rotateToken (service.hash presented) session), .ok created⟩ : Event Ports) ∈
      config.history ∧ created.tokenHash = service.hash plain ∧ created.userID = user.id
  rows : ∀ row ∈ rowsOf config, row.tokenHash = service.hash plain → row.userID = user.id
  intime : ∃ checked, (clocks (transcript task config.history)).getLast? = some checked ∧
    checked ≤ issuedAt + service.refreshTTL

section
variable {service : Service} {db : Database} {base : World (postgres db)} {requests : List Request}
variable {allowed : ServiceConfig (postgres db) → ServiceLabel → Prop} {config : ServiceConfig (postgres db)}

/-- A successful refresh inherits from the chain of the token that it presented. -/
theorem inherits_of_refresh (sound : base.Sound) (fresh : base.sessions.rows = [])
    (empty : base.cache = fun _ => none) (exact : db.stored = id)
    (reached : (system service (postgres db)).Reaches allowed ((system service (postgres db)).begin base requests)
      config) (injective : Set.InjOn service.hash (hashedValues config)) {task : Nat} {ctx : Context}
    {req : RefreshTokenRequest} {access plain : String}
    (started : config.request task = some (.refreshToken ctx req))
    (answered : config.Answered task (.ok (.refreshToken access plain))) :
    ∃ root issuer user issuedAt, Lineage service config root issuer req.refreshToken user issuedAt ∧
      Inherits service config task req.refreshToken access plain user issuedAt := by
  cases (reaches_disciplined reached).answered task _ _ started answered with
  | plain ordinary => cases ordinary
  | refresh grant written =>
      obtain ⟨kept, unchanged, backed⟩ :=
        (reaches_faithful sound fresh empty reached).looked grant.looked
      obtain rfl : kept = id := unchanged.elim id fun same => same.trans exact
      obtain ⟨root, issuer, user, issuedAt, lineage, userID, userEmail, expiresAt⟩ :=
        (reaches_chained sound fresh empty reached injective).backed reached injective
          (hashed_of_request started (by simp [Request.hashes])) backed
      have signed := (mem_transcript _ _ _).mp (mem_of_select grant.signed)
      have rotated := (mem_transcript _ _ _).mp (mem_of_select written)
      have filled := reaches_filled sound reached rotated rfl
      refine ⟨root, issuer, user, issuedAt, lineage, ?_, ⟨_, _, rotated, filled.tokenHash, ?_⟩, ?_, ?_⟩
      · rw [userID, userEmail] at signed
        exact signed
      · exact filled.userID.trans userID
      · intro row member same
        obtain ⟨_, rfl⟩ := row_of_installation sound reached rotated rfl member same
        exact filled.userID.trans userID
      · obtain ⟨later, same⟩ := grant.read_clock
        refine ⟨_, by rw [← same, List.getLast?_append]; rfl, ?_⟩
        have alive := grant.alive
        rw [expiresAt] at alive
        exact not_lt.mp alive

end

/-- In every run from empty stores, a successful refresh presents a token with exactly one issuer, whose chain
leads back to one login that verified the password of a user, and it takes over the identifier and the
address of that user before the lifetime of the token has passed. When nobody guesses a refresh token, the
issuer had returned the token before the refresh was started. -/
theorem refresh_descends_from_login (service : Service) (db : Database) (exact : db.stored = id) (now : Time) :
    let auth := system service (postgres db)
    let initial := auth.begin (World.empty (postgres db) now) []
    (∀ config, auth.Reaches Anything initial config → Set.InjOn service.hash (hashedValues config) →
      ∀ task presented access plain, Presents config task presented →
        config.Answered task (.ok (.refreshToken access plain)) →
        ∃ root issuer user issuedAt, Lineage service config root issuer presented user issuedAt ∧
          (∀ root' issuer' user' issuedAt', Lineage service config root' issuer' presented user' issuedAt' →
            root' = root ∧ issuer' = issuer) ∧
          (∀ other, Returned config other presented → other = issuer) ∧
          Inherits service config task presented access plain user issuedAt) ∧
    ∀ config, auth.Reaches (fun config label => unguessed config label = true) initial config →
      ∀ task presented root issuer user issuedAt, Presents config task presented →
        Lineage service config root issuer presented user issuedAt →
        ∃ before, auth.Reaches (fun config label => unguessed config label = true) initial before ∧
          before.request task = none ∧ Returned before issuer presented ∧
          auth.Reaches (fun config label => unguessed config label = true) before config := by
  intro auth initial
  have sound : (World.empty (postgres db) now).Sound := World.empty_sound now
  refine ⟨?_, ?_⟩
  · rintro config reached injective task presented access plain ⟨ctx, deviceID, started⟩ answered
    have drawnOnce := (reaches_ledger sound reached).fresh
    obtain ⟨root, issuer, user, issuedAt, lineage, inherits⟩ :=
      inherits_of_refresh sound rfl rfl exact reached injective started answered
    refine ⟨root, issuer, user, issuedAt, lineage, ?_, ?_, inherits⟩
    · intro root' issuer' user' issuedAt' other
      exact lineage.unique drawnOnce other
    · intro other returned
      exact draw_owner drawnOnce (returned.drawn (reaches_disciplined reached)) lineage.drawn rfl
  · rintro config reached task presented root issuer user issuedAt ⟨ctx, deviceID, started⟩ lineage
    exact lineage.returned reached started

theorem presents_of_presented {store : SessionStore} {config : ServiceConfig store} {task : Nat} {plain : String}
    (presented : (config.request task).bind Request.presented = some plain) : Presents config task plain := by
  obtain ⟨request, started, same⟩ := Option.bind_eq_some_iff.mp presented
  cases request with
  | refreshToken ctx req =>
      obtain rfl := Option.some.inj same
      exact ⟨ctx, req.deviceID, started⟩
  | _ => cases same

/-- In this run a user logs in and refreshes twice, and the second refresh descends from the login. -/
theorem second_refresh_descends :
    ∃ config before root issuer user issuedAt,
      sampleSystem.Reaches (fun config label => unguessed config label = true) (sampleStart []) config ∧
      Presents config 3 "next" ∧ Lineage sample config root issuer "next" user issuedAt ∧
      Inherits sample config 3 "next" "user" "last" user issuedAt ∧
      before.request 3 = none ∧ Returned before issuer "next" ∧
      sampleSystem.Reaches (fun config label => unguessed config label = true) before config := by
  let labels : List ServiceLabel :=
    [.start (.register bareContext ⟨"a@b.co", "passw0rd"⟩),
      .start (.login bareContext ⟨"a@b.co", "passw0rd", "phone"⟩)] ++
    advances 0 4 { id := "user" } ++ advances 1 9 { id := "first", token := "token" } ++
    [.start (.refreshToken bareContext ⟨"token", ""⟩)] ++ advances 2 11 { id := "second", token := "next" } ++
    [.start (.refreshToken bareContext ⟨"next", ""⟩)] ++ advances 3 11 { id := "third", token := "last" }
  obtain ⟨config, reached, checked⟩ :
      ∃ config, sampleSystem.Reaches (fun config label => unguessed config label = true) (sampleStart []) config ∧
        decide (config.answer? 3 = some (.ok (.refreshToken "user" "last")) ∧
          (config.request 3).bind Request.presented = some "next") = true :=
    exists_of_run labels _ (by decide +kernel)
  obtain ⟨answered, presented⟩ := of_decide_eq_true checked
  have presents := presents_of_presented presented
  obtain ⟨descends, returns⟩ := refresh_descends_from_login sample exactDatabase rfl 0
  obtain ⟨root, issuer, user, issuedAt, lineage, _, _, inherits⟩ :=
    descends config (reached.imp fun _ _ _ => rfl) sample_hash_injective.injOn 3 "next" "user" "last" presents
      (Config.answered_of_answer? answered)
  obtain ⟨before, _, absent, returned, onward⟩ :=
    returns config reached 3 "next" root issuer user issuedAt presents lineage
  exact ⟨config, before, root, issuer, user, issuedAt, reached, presents, lineage, inherits, absent, returned, onward⟩

end AuthService
