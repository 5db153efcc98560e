/-
This file proves that behind the claims of every accepted access token there is a login that verified the password of
their user.
-/

import AuthService.Proof.AccessTokens
import AuthService.Proof.RefreshChain

namespace AuthService
open Interleaving System

/-- The event has signed the claims. -/
def signsClaims (claims : Claims) : Event Ports → Bool
  | ⟨_, .tokens (.generate signed), some _⟩ => signed = claims
  | _ => false

/-- No signature is forged: the token manager accepts only claims that a request of the run has signed before. -/
def unforged {store : SessionStore} (service : Service) (config : ServiceConfig store) : ServiceLabel → Bool
  | .advance task _ =>
      match config.tasks[task]? with
      | some ⟨_, .call (.tokens (.validate token)) _⟩ =>
          (service.validate token config.world.now).all fun claims => config.history.any (signsClaims claims)
      | _ => true
  | _ => true

/-- What allows a request to sign the claims of a user: a login has verified the password of the user, and a refresh
has presented a refresh token whose chain begins with such a login. -/
inductive MaySign {store : SessionStore} (service : Service) (config : ServiceConfig store) (task : Nat)
    (user : User) : Prop where
  | login {ctx : Context} {req : LoginRequest} (started : config.request task = some (.login ctx req))
      (read : (⟨task, .users (.getByEmail req.email), .ok user⟩ : Event Ports) ∈ config.history)
      (verified : service.verifyPassword req.password user.passwordHash = some true) :
      MaySign service config task user
  | refresh {ctx : Context} {req : RefreshTokenRequest} {root issuer : Nat} {issuedAt : Time}
      (started : config.request task = some (.refreshToken ctx req))
      (issued : Lineage service config root issuer req.refreshToken user issuedAt) : MaySign service config task user

theorem signer_of_signsClaims {claims : Claims} {event : Event Ports} (signs : signsClaims claims event = true) :
    ∃ task access, event = ⟨task, .tokens (.generate claims), some access⟩ := by
  unfold signsClaims at signs
  split at signs
  · obtain rfl := of_decide_eq_true signs
    exact ⟨_, _, rfl⟩
  · cases signs

section
variable {service : Service} {store : SessionStore} {config last : ServiceConfig store}
variable {allowed : ServiceConfig store → ServiceLabel → Prop}

theorem hashedValues_reaches (reached : (system service store).Reaches allowed config last) :
    hashedValues config ⊆ hashedValues last := by
  induction reached with
  | refl => exact Set.Subset.rfl
  | step label _ _ moved ih => exact ih.trans (hashedValues_step moved)

/-- The user that a request signs for is still in the table. -/
theorem MaySign.known {base : World store} {requests : List Request}
    (reached : (system service store).Reaches allowed ((system service store).begin base requests) config) {task : Nat}
    {user : User} (signs : MaySign service config task user) :
    ∃ row ∈ config.world.users.rows, row.id = user.id ∧ row.email = user.email := by
  cases signs with
  | login started read verified => exact reaches_user reached _ read _ rfl
  | refresh started issued => exact issued.known reached

/-- A step that accepts a token without a forgery finds the claims signed. -/
theorem signed_of_accepted {task : Nat} {choice : Choice} {token : String} {claims : Claims}
    (permitted : unforged service config (.advance task choice) = true)
    (performs : (system service store).Performs config ⟨task, .tokens (.validate token), some claims⟩ last) :
    ∃ issuer access, (⟨issuer, .tokens (.generate claims), some access⟩ : Event Ports) ∈ config.history := by
  obtain ⟨_, request, rest, selected, executed⟩ := performs.executed
  have validated : service.validate token config.world.now = some claims :=
    congrArg Prod.fst (Option.some.inj executed)
  dsimp only at selected
  simp only [unforged, selected, validated, Option.all_some] at permitted
  obtain ⟨event, member, signs⟩ := List.any_eq_true.mp permitted
  obtain ⟨issuer, access, rfl⟩ := signer_of_signsClaims signs
  exact ⟨issuer, access, member⟩

end

section
variable {service : Service} {db : Database} {base : World (postgres db)} {requests : List Request}
variable {allowed : ServiceConfig (postgres db) → ServiceLabel → Prop} {config : ServiceConfig (postgres db)}

/-- Every request that signs claims may sign them for their user. -/
theorem maySign_of_signed (sound : base.Sound) (fresh : base.sessions.rows = []) (empty : base.cache = fun _ => none)
    (reached : (system service (postgres db)).Reaches allowed ((system service (postgres db)).begin base requests)
      config) (injective : Set.InjOn service.hash (hashedValues config)) {task : Nat} {claims : Claims}
    {reply : Option String} (signed : (⟨task, .tokens (.generate claims), reply⟩ : Event Ports) ∈ config.history) :
    ∃ user, MaySign service config task user ∧ claims = ⟨user.id, user.email, ["user"]⟩ := by
  obtain ⟨later, past, same, request, started, permitted⟩ := (reaches_disciplined reached).permitted.mem signed
  cases permitted with
  | free harmless => cases harmless
  | @signLogin _ _ _ user read verified =>
      exact ⟨user, .login started (mem_of_past same (mem_of_select read)) verified, rfl⟩
  | signRefresh looked =>
      have found := looked.mono fun _ member => (mem_transcript _ _ _).mpr (mem_of_past same member)
      obtain ⟨kept, _, backed⟩ := (reaches_faithful sound fresh empty reached).looked found
      obtain ⟨root, issuer, user, issuedAt, lineage, userID, userEmail, _⟩ :=
        (reaches_chained sound fresh empty reached injective).backed reached injective
          (hashed_of_request started (by simp [Request.hashes])) backed
      exact ⟨user, .refresh started lineage, by rw [userID, userEmail]⟩

end

/-- A deployment whose access tokens a token manager signs. -/
abbrev signingSample : Service := sample.withManager Jwt.sampleManager fun _ _ => []

abbrev signingStart : ServiceConfig (postgres exactDatabase) :=
  (system signingSample (postgres exactDatabase)).begin (World.empty (postgres exactDatabase) 0) []

/-- A context with the access token that the login of the sample user returns. -/
def signedContext : Context :=
  let token := signingSample.sign ⟨"user", "a@b.co", ["user"]⟩ 0
  ⟨some fun key => if key = "authorization" then ["Bearer " ++ token] else [], none⟩

/-- The event has accepted an access token. -/
def acceptsToken : Event Ports → Bool
  | ⟨_, .tokens (.validate _), reply⟩ => reply.isSome
  | _ => false

theorem acceptsToken_cases {event : Event Ports} (accepts : acceptsToken event = true) :
    ∃ task token claims, event = ⟨task, .tokens (.validate token), some claims⟩ := by
  unfold acceptsToken at accepts
  split at accepts
  · obtain ⟨claims, rfl⟩ := Option.isSome_iff_exists.mp accepts
    exact ⟨_, _, claims, rfl⟩
  · cases accepts

end AuthService
