/-
This file compares the reset requests for a registered address with those for an unknown one.
-/

import AuthService.Proof.AccountLockout
import AuthService.Proof.Expiry

namespace AuthService
open Interleaving Program System

/-- A request for a code, or an attempt to use one, for a given address. -/
inductive ProbeKind where
  | request (ctx : Context) (drawn : Nat)
  | verify (ctx : Context) (otp : String)

structure Probe where
  time : Time
  kind : ProbeKind

namespace Probe

/-- The code that is issued when the address is registered. -/
def issued (probe : Probe) : Option String :=
  match probe.kind with
  | .request _ drawn => some (otpCode drawn)
  | .verify _ _ => none

def submitted (probe : Probe) : Option String :=
  match probe.kind with
  | .request _ _ => none
  | .verify _ otp => some otp

def choice (probe : Probe) : Choice :=
  match probe.kind with
  | .request _ drawn => { otp := drawn }
  | .verify _ _ => {}

def request (email : String) (probe : Probe) : Request :=
  match probe.kind with
  | .request ctx _ => .requestPasswordReset ctx email
  | .verify ctx otp => .verifyResetCode ctx ⟨email, otp⟩

def turn (email : String) (probe : Probe) : System.Turn Choice Tick Request :=
  ⟨.clock probe.time, probe.choice, probe.request email⟩

end Probe

/-- Reset requests for one address are answered one after another. -/
def replies {store : SessionStore} (resets : ResetBackend) (service : Service) (email : String) :
    List Probe → World store → Option (List (Outcome Ports Answer) × World store) :=
  play fun probe => (systemWith resets service store).alone (probe.turn email)

def tooManyAttempts : Status := ⟨.unauthenticated, "too many attempts"⟩

/-- The stored record of an address. -/
abbrev CodeRecord := Option (Expiring OTPRecord)

namespace ResetBackend

/-- The record counts an attempt at this time. -/
def counts (resets : ResetBackend) (now : Time) (entry : Expiring OTPRecord) : Bool :=
  match resets with
  | .redis => entry.expiresAt.any fun expiry => now < expiry
  | .memory => entry.visible now

/-- A read of the in-memory store drops an expired record. -/
def settled (resets : ResetBackend) (now : Time) (record : CodeRecord) : CodeRecord :=
  match resets with
  | .redis => record
  | .memory => record.filter fun entry => entry.visible now

def expiry (resets : ResetBackend) (now : Time) (ttl : Duration) : Option Time :=
  match resets with
  | .redis => redisExpiry now ttl
  | .memory => some (now + ttl)

/-- What a wrong code does to the record: whether it was one attempt too many, and what is left. -/
def wrongCode (resets : ResetBackend) (now : Time) (record : CodeRecord) : Bool × CodeRecord :=
  match record.filter (resets.counts now) with
  | some entry =>
      if maxOTPAttempts ≤ entry.value.attempts + 1 then (true, none)
      else (false, some ⟨{ entry.value with attempts := entry.value.attempts + 1 }, entry.expiresAt⟩)
  | none => (false, resets.settled now record)

end ResetBackend

section Calls
variable {resets : ResetBackend} {service : Service} {store : SessionStore} {world : World store} {choice : Choice}
variable {email : String}

/-- The world with another record for the address. -/
def World.withCode (service : Service) (email : String) (world : World store) (record : CodeRecord) : World store :=
  { world with otps := Function.update world.otps (service.hash email) record }

theorem World.withCode_self (service : Service) (email : String) (world : World store) :
    world.withCode service email (world.otps (service.hash email)) = world := by
  rw [withCode, Function.update_eq_self]

theorem World.withCode_otps (service : Service) (email : String) (world : World store) (record : CodeRecord) :
    (world.withCode service email record).otps (service.hash email) = record := Function.update_self ..

theorem World.withCode_withCode (service : Service) (email : String) (world : World store) (first second : CodeRecord) :
    (world.withCode service email first).withCode service email second = world.withCode service email second := by
  rw [withCode, withCode, withCode, Function.update_idem]

/-- The record that a read finds. -/
def found (now : Time) (record : CodeRecord) : Except StoreError OTPRecord :=
  match record.filter fun entry => entry.visible now with
  | some entry => .ok entry.value
  | none => .error .resetCodeNotFound

/-- A read replies with the record that is visible, and the in-memory store drops an expired one. -/
theorem exec_getOTP (works : choice.fails = false) :
    (systemWith resets service store).exec (.resets (.getOTP email)) choice world =
      some (found world.now (world.otps (service.hash email)),
        world.withCode service email (resets.settled world.now (world.otps (service.hash email)))) := by
  cases resets with
  | redis =>
      change some (execResets service (.getOTP email) choice world) = _
      rw [execResets, works, if_neg Bool.false_ne_true, lookup_eq_filter, found, ResetBackend.settled,
        World.withCode_self]
      cases (world.otps (service.hash email)).filter fun entry => entry.visible world.now <;> rfl
  | memory =>
      change some (execMemoryResets service (.getOTP email) world) = _
      rw [execMemoryResets, lookup_eq_filter, found, ResetBackend.settled]
      cases visible : (world.otps (service.hash email)).filter fun entry => entry.visible world.now with
      | none => rfl
      | some entry =>
          have kept : world.withCode service email (some entry) = world := by
            rw [← (Option.filter_eq_some_iff.mp visible).1, World.withCode_self]
          rw [kept]
          rfl

/-- An attempt is counted by a record that counts at this time. -/
theorem exec_incrOTPAttempts (works : choice.fails = false) {entry : Expiring OTPRecord}
    (present : (world.otps (service.hash email)).filter (resets.counts world.now) = some entry) :
    (systemWith resets service store).exec (.resets (.incrOTPAttempts email)) choice world =
      some (.ok (entry.value.attempts + 1), world.withCode service email
        (some ⟨{ entry.value with attempts := entry.value.attempts + 1 }, entry.expiresAt⟩)) := by
  obtain ⟨stored, counts⟩ := Option.filter_eq_some_iff.mp present
  cases resets with
  | redis =>
      change some (execResets service (.incrOTPAttempts email) choice world) = _
      obtain ⟨expiry, lives, before⟩ := (Option.any_eq_true _ _).mp counts
      rw [execResets, works, if_neg Bool.false_ne_true, incrOTPAttempts, stored]
      simp only [lives, if_neg (Int.not_le.mpr (of_decide_eq_true before))]
      rfl
  | memory =>
      change some (execMemoryResets service (.incrOTPAttempts email) world) = _
      have visible : (world.otps (service.hash email)).filter (fun entry => entry.visible world.now) = some entry :=
        present
      simp only [execMemoryResets, visible]
      rfl

/-- Without a record that counts an attempt is refused. -/
theorem exec_incrOTPAttempts_none (works : choice.fails = false)
    (absent : (world.otps (service.hash email)).filter (resets.counts world.now) = none) :
    (systemWith resets service store).exec (.resets (.incrOTPAttempts email)) choice world =
      some (.error .resetCodeNotFound,
        world.withCode service email (resets.settled world.now (world.otps (service.hash email)))) := by
  cases resets with
  | redis =>
      change some (execResets service (.incrOTPAttempts email) choice world) = _
      rw [execResets, works, if_neg Bool.false_ne_true, ResetBackend.settled, World.withCode_self, incrOTPAttempts]
      cases stored : world.otps (service.hash email) with
      | none => rfl
      | some entry =>
          cases lives : entry.expiresAt with
          | none => simp only [lives]
          | some expiry =>
              rw [stored, Option.filter_some] at absent
              have ended : expiry ≤ world.now := by
                by_contra later
                rw [ResetBackend.counts, lives, Option.any_some, decide_eq_true (Int.not_le.mp later)] at absent
                cases absent
              simp only [lives, if_pos ended]
  | memory =>
      change some (execMemoryResets service (.incrOTPAttempts email) world) = _
      have hidden : (world.otps (service.hash email)).filter (fun entry => entry.visible world.now) = none := absent
      simp only [execMemoryResets, hidden, ResetBackend.settled]
      rfl

theorem exec_deleteOTP (works : choice.fails = false) :
    (systemWith resets service store).exec (.resets (.deleteOTP email)) choice world =
      some (.ok (), world.withCode service email none) := by
  cases resets with
  | redis =>
      change some (execResets service (.deleteOTP email) choice world) = _
      rw [execResets, works]
      rfl
  | memory => rfl

theorem exec_saveOTP (works : choice.fails = false) (userID otpHash : String) (ttl : Duration) :
    (systemWith resets service store).exec (.resets (.saveOTP userID email otpHash ttl)) choice world =
      some (.ok (), world.withCode service email (some ⟨⟨userID, otpHash, 0⟩, resets.expiry world.now ttl⟩)) := by
  cases resets with
  | redis =>
      change some (execResets service (.saveOTP userID email otpHash ttl) choice world) = _
      rw [execResets, works]
      rfl
  | memory => rfl

end Calls

section Handlers
variable {resets : ResetBackend} {service : Service} {store : SessionStore} {world : World store} {choice : Choice}
variable {email : String} {user : User}

theorem ResetBackend.visible_of_counts {now : Time} {entry : Expiring OTPRecord}
    (counts : resets.counts now entry = true) : entry.visible now = true := by
  cases resets with
  | redis =>
      obtain ⟨expiry, lives, before⟩ := (Option.any_eq_true _ _).mp counts
      rw [Expiring.visible, lives]
      exact decide_eq_true (Int.le_of_lt (of_decide_eq_true before))
  | memory => exact counts

/-- A record that is not visible counts nothing. -/
theorem ResetBackend.wrongCode_hidden {now : Time} {record : CodeRecord}
    (hidden : record.filter (fun entry => entry.visible now) = none) :
    resets.wrongCode now record = (false, resets.settled now record) := by
  have uncounted : record.filter (resets.counts now) = none := by
    rw [Option.filter_eq_none_iff] at hidden ⊢
    exact fun entry present counts => hidden entry present (visible_of_counts counts)
  rw [wrongCode, uncounted]

theorem ResetBackend.settled_visible {now : Time} {record : CodeRecord} {entry : Expiring OTPRecord}
    (visible : record.filter (fun entry => entry.visible now) = some entry) :
    resets.settled now record = record := by
  cases resets with
  | redis => rfl
  | memory =>
      rw [settled, visible]
      exact (Option.filter_eq_some_iff.mp visible).1.symm

/-- The attempt that reaches the limit deletes the record. -/
theorem eval_checkAttempts_limit (works : choice.fails = false) {attempts : Int} (limit : maxOTPAttempts ≤ attempts)
    (past : Past) :
    (checkAttempts email attempts).run.eval ((systemWith resets service store).recorded choice) (world, past) =
      some (.error tooManyAttempts, world.withCode service email none,
        ⟨.resets (.deleteOTP email), .ok ()⟩ :: past) := by
  rw [checkAttempts, if_pos limit, eval_ok (eval_recorded (exec_deleteOTP works) past)]
  rfl

theorem eval_checkAttempts_below {attempts : Int} (below : ¬ maxOTPAttempts ≤ attempts) (past : Past) :
    (checkAttempts email attempts).run.eval ((systemWith resets service store).recorded choice) (world, past) =
      some (.ok (), world, past) := by
  rw [checkAttempts, if_neg below]
  rfl

theorem eval_checkCode_wrong {otp : String} {record : OTPRecord} (wrong : service.hash otp ≠ record.otpHash)
    (past : Past) :
    (checkCode service otp record).run.eval ((systemWith resets service store).recorded choice) (world, past) =
      some (.error invalidCode, world, past) := by
  rw [checkCode, if_neg wrong]
  rfl

/-- A code that is wrong or one attempt too many is refused, and the record counts it. -/
theorem eval_verifyResetCode_wrong (resets : ResetBackend) (choice : Choice) (works : choice.fails = false)
    (valid : validateEmail email = none) {otp : String}
    (wrong : ∀ entry, world.otps (service.hash email) = some entry →
      maxOTPAttempts ≤ entry.value.attempts + 1 ∨ service.hash otp ≠ entry.value.otpHash) :
    ∃ past, (verifyResetCode service ⟨email, otp⟩).run.eval ((systemWith resets service store).recorded choice)
        (world, []) =
      some (.error (if (resets.wrongCode world.now (world.otps (service.hash email))).1 then tooManyAttempts
          else invalidCode),
        world.withCode service email (resets.wrongCode world.now (world.otps (service.hash email))).2, past) := by
  rw [verifyResetCode, eval_ok (eval_valid valid []), eval_ok (eval_recorded (exec_getOTP works) []), found]
  cases visible : (world.otps (service.hash email)).filter fun entry => entry.visible world.now with
  | none =>
      rw [ResetBackend.wrongCode_hidden visible]
      exact ⟨_, rfl⟩
  | some entry =>
      rw [ResetBackend.settled_visible visible, World.withCode_self]
      dsimp only
      rw [eval_ok (eval_orStatus_ok ..)]
      cases counted : (world.otps (service.hash email)).filter (resets.counts world.now) with
      | none =>
          rw [ResetBackend.wrongCode, counted]
          exact ⟨_, eval_ok (eval_recorded (exec_incrOTPAttempts_none works counted) _)⟩
      | some other =>
          obtain ⟨stored, _⟩ := Option.filter_eq_some_iff.mp visible
          obtain rfl : entry = other :=
            Option.some.inj (stored.symm.trans (Option.filter_eq_some_iff.mp counted).1)
          rw [ResetBackend.wrongCode, counted, eval_ok (eval_recorded (exec_incrOTPAttempts works counted) _),
            eval_ok (eval_orStatus_ok ..)]
          by_cases limit : maxOTPAttempts ≤ entry.value.attempts + 1
          · rw [eval_error (eval_checkAttempts_limit works limit _), World.withCode_withCode]
            simp only [if_pos limit, if_true]
            exact ⟨_, rfl⟩
          · rw [eval_ok (eval_checkAttempts_below limit _),
              eval_error (eval_checkCode_wrong ((wrong entry stored).resolve_left limit) _)]
            simp only [if_neg limit, Bool.false_eq_true, if_false]
            exact ⟨_, rfl⟩

/-- A request for a registered address saves a new record. -/
theorem eval_requestPasswordReset_known (resets : ResetBackend) (service : Service) (choice : Choice)
    (ctx : Context) {code : String} (works : choice.fails = false)
    (drawn : otpCode choice.otp = code) (valid : validateEmail email = none)
    (registered : world.users.getByEmail email = .ok user) :
    ∃ cache background past, (requestPasswordReset service ctx email).run.eval
        ((systemWith resets service store).recorded choice) (world, []) =
      some (.ok .requestPasswordReset,
        { world.withCode service email
            (some ⟨⟨user.id, service.hash code, 0⟩, resets.expiry world.now (15 * minute)⟩) with cache, background },
        past) := by
  have reads : (systemWith resets service store).exec (.users (.getByEmail email)) choice world =
      some (.ok user, world) := by
    change some (if choice.fails then .error .other else world.users.getByEmail email, world) = _
    rw [works, registered]
    rfl
  have draws : (systemWith resets service store).exec (.random .otp) choice world = some (some code, world) := by
    change some (if choice.fails then none else some (otpCode choice.otp), world) = _
    rw [works, drawn]
    rfl
  have given (state : World store × Past) : (orInternal (some code)).run.eval
      ((systemWith resets service store).recorded choice) state = some (.ok code, state) := rfl
  have saved (state : World store × Past) : (orInternalError (.ok ())).run.eval
      ((systemWith resets service store).recorded choice) state = some (.ok (), state) := rfl
  have reported : (report (some user.id) user.id user.email .passwordResetRequest (extractClientInfo ctx) []
      [("otp_code", code)] >>= fun _ => pure .requestPasswordReset : Handler Response).run.Follows Aside
        (fun _ result => result = .ok .requestPasswordReset) [] := ⟨⟨rfl⟩, fun _ => ⟨⟨rfl⟩, fun _ => rfl⟩⟩
  rw [requestPasswordReset, eval_ok (eval_valid valid []), eval_ok (eval_recorded reads _)]
  dsimp only
  rw [eval_ok (eval_recorded draws _), eval_ok (given _), eval_ok (eval_recorded (exec_saveOTP works ..) _),
    eval_ok (saved _)]
  obtain ⟨cache, background, side, runs, _⟩ := eval_beside resets service choice reported
    (world.withCode service email (some ⟨⟨user.id, service.hash code, 0⟩, resets.expiry world.now (15 * minute)⟩)) _
  exact ⟨cache, background, _, runs⟩

/-- A request for an unknown address changes nothing. -/
theorem eval_requestPasswordReset_unknown (resets : ResetBackend) (service : Service) (choice : Choice)
    (ctx : Context) (works : choice.fails = false) (valid : validateEmail email = none)
    (absent : world.users.getByEmail email = .error .userNotFound) :
    ∃ past, (requestPasswordReset service ctx email).run.eval ((systemWith resets service store).recorded choice)
      (world, []) = some (.ok .requestPasswordReset, world, past) := by
  have reads : (systemWith resets service store).exec (.users (.getByEmail email)) choice world =
      some (.error .userNotFound, world) := by
    change some (if choice.fails then .error .other else world.users.getByEmail email, world) = _
    rw [works, absent]
    rfl
  rw [requestPasswordReset, eval_ok (eval_valid valid []), eval_ok (eval_recorded reads _)]
  exact ⟨_, rfl⟩

end Handlers

/-- The answer to a reset request for a registered address whose code is not guessed. -/
def knownReply (resets : ResetBackend) (record : CodeRecord) (probe : Probe) : Answer :=
  match probe.kind with
  | .request _ _ => .ok .requestPasswordReset
  | .verify _ _ => .error (if (resets.wrongCode probe.time record).1 then tooManyAttempts else invalidCode)

/-- The record after a reset request for a registered address whose code is not guessed. -/
def afterProbe (resets : ResetBackend) (service : Service) (user : User) (record : CodeRecord) (probe : Probe) :
    CodeRecord :=
  match probe.kind with
  | .request _ drawn =>
      some ⟨⟨user.id, service.hash (otpCode drawn), 0⟩, resets.expiry probe.time (15 * minute)⟩
  | .verify _ _ => (resets.wrongCode probe.time record).2

/-- The answer to a reset request for an unknown address. -/
def unknownReply (probe : Probe) : Answer :=
  match probe.kind with
  | .request _ _ => .ok .requestPasswordReset
  | .verify _ _ => .error invalidCode

/-- Some submitted code is one attempt too many for a stored record. -/
def exhausts (resets : ResetBackend) (service : Service) (user : User) : CodeRecord → List Probe → Bool
  | _, [] => false
  | record, probe :: probes =>
      (probe.submitted.isSome && (resets.wrongCode probe.time record).1) ||
        exhausts resets service user (afterProbe resets service user record probe) probes

/-- The replies are the same exactly when no attempt is one too many. -/
theorem replies_eq_iff (resets : ResetBackend) (service : Service) (user : User) (probes : List Probe)
    (record : CodeRecord) :
    outputsOf (afterProbe resets service user) (knownReply resets) record probes =
        outputsOf (fun _ _ => ()) (fun _ => unknownReply) () probes ↔
      exhausts resets service user record probes = false := by
  induction probes generalizing record with
  | nil => simp only [outputsOf, exhausts]
  | cons probe probes ih =>
      rw [outputsOf, outputsOf, List.cons.injEq, exhausts, Bool.or_eq_false_iff]
      refine and_congr ?_ (ih _)
      obtain ⟨time, kind⟩ := probe
      cases kind with
      | request ctx drawn => exact iff_of_true rfl rfl
      | verify ctx otp =>
          simp only [knownReply, unknownReply, Probe.submitted, Option.isSome_some, Bool.true_and]
          cases (resets.wrongCode time record).1 with
          | true => exact iff_of_false (by decide) (by decide)
          | false => exact iff_of_true rfl rfl

section Steps
variable {resets : ResetBackend} {service : Service} {store : SessionStore} {world : World store} {email : String}
variable {user : User} {probe : Probe}

/-- No submitted code has the hash of the record. -/
def Unguessed (service : Service) (codes : List String) (record : CodeRecord) : Prop :=
  ∀ entry, record = some entry → ∀ code ∈ codes, service.hash code ≠ entry.value.otpHash

/-- Every probe leaves a record that is not guessed. -/
theorem Unguessed.step {codes : List String} {record : CodeRecord} (unguessed : Unguessed service codes record)
    (apart : ∀ issued, probe.issued = some issued → ∀ code ∈ codes, service.hash code ≠ service.hash issued) :
    Unguessed service codes (afterProbe resets service user record probe) := by
  obtain ⟨time, kind⟩ := probe
  cases kind with
  | request ctx drawn =>
      rintro entry ⟨⟩
      exact apart _ rfl
  | verify ctx otp =>
      intro entry left
      simp only [afterProbe, ResetBackend.wrongCode] at left
      split at left
      · rename_i other counted
        have stored := (Option.filter_eq_some_iff.mp counted).1
        split at left
        · cases left
        · cases left
          exact unguessed other stored
      · cases resets with
        | redis => exact unguessed entry left
        | memory => exact unguessed entry (Option.filter_eq_some_iff.mp left).1

/-- The world in which a probe is made. -/
def Probe.ready (probe : Probe) (world : World store) : World store := { world with now := probe.time }

theorem alone_probe {answer : Answer} {past : Past} {after : World store}
    (evaluated : (handle service (probe.request email)).run.eval
      ((systemWith resets service store).recorded probe.choice) (probe.ready world, []) = some (answer, after, past)) :
    (systemWith resets service store).alone (probe.turn email) world = some (⟨answer, past⟩, after) := by
  have drifted : (systemWith resets service store).drift (probe.turn email).tick world = some (probe.ready world) := rfl
  exact alone_eq drifted evaluated

/-- A probe of a registered address is answered by its record. -/
theorem known_replied (resets : ResetBackend) (valid : validateEmail email = none)
    (registered : world.users.getByEmail email = .ok user) {codes : List String}
    (unguessed : Unguessed service codes (world.otps (service.hash email)))
    (submitted : ∀ code, probe.submitted = some code → code ∈ codes) :
    ∃ outcome after, (systemWith resets service store).alone (probe.turn email) world = some (outcome, after) ∧
      outcome.answer = knownReply resets (world.otps (service.hash email)) probe ∧ after.users = world.users ∧
      after.otps (service.hash email) = afterProbe resets service user (world.otps (service.hash email)) probe := by
  obtain ⟨time, kind⟩ := probe
  cases kind with
  | request ctx drawn =>
      let probe : Probe := ⟨time, .request ctx drawn⟩
      have found : (probe.ready world).users.getByEmail email = .ok user := registered
      obtain ⟨cache, background, past, evaluated⟩ :=
        eval_requestPasswordReset_known resets service probe.choice ctx rfl rfl valid found
      exact ⟨_, _, alone_probe evaluated, rfl, rfl, World.withCode_otps ..⟩
  | verify ctx otp =>
      let probe : Probe := ⟨time, .verify ctx otp⟩
      have wrong : ∀ entry, (probe.ready world).otps (service.hash email) = some entry →
          maxOTPAttempts ≤ entry.value.attempts + 1 ∨ service.hash otp ≠ entry.value.otpHash :=
        fun entry present => .inr (unguessed entry present otp (submitted otp rfl))
      obtain ⟨past, evaluated⟩ := eval_verifyResetCode_wrong resets probe.choice rfl valid wrong
      exact ⟨_, _, alone_probe evaluated, rfl, rfl, World.withCode_otps ..⟩

/-- A probe of an unknown address without a record leaves no trace. -/
theorem unknown_replied (resets : ResetBackend) (service : Service) (valid : validateEmail email = none)
    (absent : world.users.getByEmail email = .error .userNotFound)
    (missing : world.otps (service.hash email) = none) :
    ∃ outcome after, (systemWith resets service store).alone (probe.turn email) world = some (outcome, after) ∧
      outcome.answer = unknownReply probe ∧ after.users = world.users ∧ after.otps (service.hash email) = none := by
  obtain ⟨time, kind⟩ := probe
  cases kind with
  | request ctx drawn =>
      let probe : Probe := ⟨time, .request ctx drawn⟩
      have unknown : (probe.ready world).users.getByEmail email = .error .userNotFound := absent
      obtain ⟨past, evaluated⟩ := eval_requestPasswordReset_unknown resets service probe.choice ctx rfl valid unknown
      exact ⟨_, _, alone_probe evaluated, rfl, rfl, missing⟩
  | verify ctx otp =>
      let probe : Probe := ⟨time, .verify ctx otp⟩
      have unset : (probe.ready world).otps (service.hash email) = none := missing
      have wrong : ∀ entry, (probe.ready world).otps (service.hash email) = some entry →
          maxOTPAttempts ≤ entry.value.attempts + 1 ∨ service.hash otp ≠ entry.value.otpHash := by
        intro entry present
        rw [unset] at present
        cases present
      have hidden : resets.wrongCode (probe.ready world).now none = (false, none) := by
        cases resets <;> rfl
      obtain ⟨past, evaluated⟩ := eval_verifyResetCode_wrong resets probe.choice rfl valid wrong
      rw [unset, hidden] at evaluated
      exact ⟨_, _, alone_probe evaluated, rfl, rfl, World.withCode_otps ..⟩

end Steps

/-- The reset requests for a registered address whose codes are not guessed get the same answers as those for an
unknown one exactly when no submitted code is one attempt too many. -/
theorem reset_privacy_iff (resets : ResetBackend) (service : Service) (backend : Backend) (email : String)
    (valid : validateEmail email = none) (world : World backend.store) (user : User)
    (registered : world.users.getByEmail email = .ok user) (users : UserTable)
    (absent : users.getByEmail email = .error .userNotFound) (probes : List Probe)
    (injective : Set.InjOn service.hash
      {code | code ∈ probes.filterMap Probe.submitted ∨ code ∈ probes.filterMap Probe.issued})
    (unissued : ∀ code ∈ probes.filterMap Probe.submitted, code ∉ probes.filterMap Probe.issued)
    (unguessed : Unguessed service (probes.filterMap Probe.submitted) (world.otps (service.hash email))) :
    ∃ known unknown last last', replies resets service email probes world = some (known, last) ∧
      replies resets service email probes ({ world with users }.withCode service email none) =
        some (unknown, last') ∧
      (known.map Outcome.answer = unknown.map Outcome.answer ↔
        exhausts resets service user (world.otps (service.hash email)) probes = false) := by
  let codes := probes.filterMap Probe.submitted
  have eachKnown (record : CodeRecord) (probe : Probe) (current : World backend.store)
      (holds : current.users.getByEmail email = .ok user ∧ current.otps (service.hash email) = record ∧
        Unguessed service codes record)
      (member : probe ∈ probes) :
      ∃ outcome after, (systemWith resets service backend.store).alone (probe.turn email) current =
          some (outcome, after) ∧ outcome.answer = knownReply resets record probe ∧
        after.users.getByEmail email = .ok user ∧
        after.otps (service.hash email) = afterProbe resets service user record probe ∧
        Unguessed service codes (afterProbe resets service user record probe) := by
    obtain ⟨found, rfl, safe⟩ := holds
    have submitted (code : String) (sent : probe.submitted = some code) : code ∈ codes :=
      List.mem_filterMap.mpr ⟨probe, member, sent⟩
    have apart (issued : String) (drawn : probe.issued = some issued) (code : String) (inside : code ∈ codes) :
        service.hash code ≠ service.hash issued := by
      have known : issued ∈ probes.filterMap Probe.issued := List.mem_filterMap.mpr ⟨probe, member, drawn⟩
      intro same
      exact unissued code inside (injective (.inl inside) (.inr known) same ▸ known)
    obtain ⟨outcome, after, ran, answered, users, left⟩ := known_replied resets valid found safe submitted
    exact ⟨outcome, after, ran, answered, users ▸ found, left, safe.step apart⟩
  have eachUnknown (_ : Unit) (probe : Probe) (current : World backend.store)
      (holds : current.users.getByEmail email = .error .userNotFound ∧ current.otps (service.hash email) = none)
      (_ : True) :
      ∃ outcome after, (systemWith resets service backend.store).alone (probe.turn email) current =
          some (outcome, after) ∧ outcome.answer = unknownReply probe ∧
        after.users.getByEmail email = .error .userNotFound ∧ after.otps (service.hash email) = none := by
    obtain ⟨missing, empty⟩ := holds
    obtain ⟨outcome, after, ran, answered, users, left⟩ := unknown_replied resets service valid missing empty
    exact ⟨outcome, after, ran, answered, users ▸ missing, left⟩
  have start : ({ world with users }.withCode service email none).users.getByEmail email = .error .userNotFound ∧
      ({ world with users }.withCode service email none).otps (service.hash email) = none :=
    ⟨absent, World.withCode_otps ..⟩
  obtain ⟨known, last, played, answers⟩ :=
    play_exists eachKnown ⟨registered, rfl, unguessed⟩ (.of_forall fun probe member _ => member)
  obtain ⟨unknown, last', played', answers'⟩ := play_exists eachUnknown start (.of_forall fun _ _ _ => trivial)
  refine ⟨known, unknown, last, last', played, played', ?_⟩
  rw [answers.outputs, answers'.outputs]
  exact replies_eq_iff resets service user probes (world.otps (service.hash email))

/-- A code is requested, and then a wrong one is submitted a number of times. -/
def wrongCodes (count : Nat) : List Probe :=
  ⟨0, .request bareContext 0⟩ :: List.replicate count ⟨second, .verify bareContext "111111"⟩

/-- Four wrong codes get the same answers in both worlds. -/
theorem four_wrong_codes_hidden :
    ∃ known unknown last last', replies .memory sample "ann@example.com" (wrongCodes 4) sampleWorld =
        some (known, last) ∧
      replies .memory sample "ann@example.com" (wrongCodes 4)
          ({ sampleWorld with users := .empty }.withCode sample "ann@example.com" none) = some (unknown, last') ∧
      known.map Outcome.answer = unknown.map Outcome.answer := by
  have unguessed : Unguessed sample ((wrongCodes 4).filterMap Probe.submitted)
      (sampleWorld.otps (sample.hash "ann@example.com")) := by
    rintro entry ⟨⟩
  obtain ⟨known, unknown, last, last', played, played', same⟩ := reset_privacy_iff .memory sample
    (.postgres exactDatabase) "ann@example.com" (by decide) sampleWorld sampleUser rfl .empty rfl (wrongCodes 4)
    (fun _ _ _ _ same => sample_hash_injective same) (by decide) unguessed
  exact ⟨known, unknown, last, last', played, played', same.mpr (by decide +kernel)⟩

/-- The answers to reset requests, one after another. -/
def replyAnswers {store : SessionStore} (resets : ResetBackend) (service : Service) (email : String)
    (probes : List Probe) (world : World store) : Option (List Answer) :=
  (replies resets service email probes world).map fun result => result.1.map Outcome.answer

/-- The fifth wrong code gets another message when the address is registered, with either reset store. -/
theorem fifth_wrong_code_reveals_account :
    validateEmail "ann@example.com" = none ∧ sampleWorld.users.getByEmail "ann@example.com" = .ok sampleUser ∧
      UserTable.empty.getByEmail "ann@example.com" = .error .userNotFound ∧
      (∀ code ∈ (wrongCodes 5).filterMap Probe.submitted, code ∉ (wrongCodes 5).filterMap Probe.issued) ∧
      ∀ resets : ResetBackend,
        replyAnswers resets sample "ann@example.com" (wrongCodes 5) sampleWorld =
          some [.ok .requestPasswordReset, .error invalidCode, .error invalidCode, .error invalidCode,
            .error invalidCode, .error tooManyAttempts] ∧
        replyAnswers resets sample "ann@example.com" (wrongCodes 5) { sampleWorld with users := .empty } =
          some [.ok .requestPasswordReset, .error invalidCode, .error invalidCode, .error invalidCode,
            .error invalidCode, .error invalidCode] := by
  refine ⟨by decide, rfl, rfl, by decide, fun resets => ?_⟩
  cases resets with
  | redis => exact ⟨by decide +kernel, by decide +kernel⟩
  | memory => exact ⟨by decide +kernel, by decide +kernel⟩

end AuthService
