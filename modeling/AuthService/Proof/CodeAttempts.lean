/-
This file proves how many wrong codes a reset code survives.
-/

import AuthService.Proof.ResetPrivacy

namespace AuthService
open Interleaving Program System

/-- One submission of a code for an address, with the reset token that it draws when the code is accepted. -/
structure Submission where
  time : Time
  ctx : Context
  otp : String
  token : String

namespace Submission

def choice (submission : Submission) : Choice := { token := submission.token }

def turn (email : String) (submission : Submission) : System.Turn Choice Tick Request :=
  ⟨.clock submission.time, submission.choice, .verifyResetCode submission.ctx ⟨email, submission.otp⟩⟩

/-- The world in which a code is submitted. -/
def ready {store : SessionStore} (submission : Submission) (world : World store) : World store :=
  { world with now := submission.time }

end Submission

/-- Codes for one address are submitted one after another. -/
def submissions {store : SessionStore} (resets : ResetBackend) (service : Service) (email : String) :
    List Submission → World store → Option (List (Outcome Ports Answer) × World store) :=
  play fun submission => (systemWith resets service store).alone (submission.turn email)

/-- The request returned a reset token. -/
def Accepts (outcome : Outcome Ports Answer) : Prop := ∃ token, outcome.answer = .ok (.verifyResetCode token)

/-- The wrong codes among the submitted ones. -/
def wrongsAmong (code : String) (list : List Submission) : Nat := (list.filter fun other => other.otp ≠ code).length

/-- The record of a code after a number of wrong ones. The attempt that reaches the limit deletes it. -/
def Stands {store : SessionStore} (service : Service) (email userID code : String) (expiry : Time) (wrongs : Nat)
    (world : World store) : Prop :=
  (world.otps (service.hash email) = some ⟨⟨userID, service.hash code, wrongs⟩, some expiry⟩ ∧
    (wrongs : Int) < maxOTPAttempts) ∨
  (world.otps (service.hash email) = none ∧ maxOTPAttempts ≤ (wrongs : Int) + 1)

section
variable {resets : ResetBackend} {service : Service} {store : SessionStore} {world : World store}
variable {email userID code : String} {expiry : Time} {wrongs : Nat} {submission : Submission}

theorem alone_submission {answer : Answer} {past : Past} {after : World store}
    (evaluated : (verifyResetCode service ⟨email, submission.otp⟩).run.eval
      ((systemWith resets service store).recorded submission.choice) (submission.ready world, []) =
        some (answer, after, past)) :
    (systemWith resets service store).alone (submission.turn email) world = some (⟨answer, past⟩, after) := by
  have drifted : (systemWith resets service store).drift (submission.turn email).tick world =
      some (submission.ready world) := rfl
  exact alone_eq drifted evaluated

theorem counts_unexpired (resets : ResetBackend) (record : OTPRecord) {now : Time} (unexpired : now < expiry) :
    resets.counts now ⟨record, some expiry⟩ = true := by
  cases resets with
  | redis => exact decide_eq_true unexpired
  | memory => exact decide_eq_true (Int.le_of_lt unexpired)

/-- A code that is wrong or one attempt too many is refused. -/
theorem submission_refused (resets : ResetBackend) (valid : validateEmail email = none)
    (wrong : ∀ entry, world.otps (service.hash email) = some entry →
      maxOTPAttempts ≤ entry.value.attempts + 1 ∨ service.hash submission.otp ≠ entry.value.otpHash) :
    ∃ outcome after, (systemWith resets service store).alone (submission.turn email) world = some (outcome, after) ∧
      ¬ Accepts outcome ∧ after.otps (service.hash email) =
        (resets.wrongCode submission.time (world.otps (service.hash email))).2 := by
  have ready : ∀ entry, (submission.ready world).otps (service.hash email) = some entry →
      maxOTPAttempts ≤ entry.value.attempts + 1 ∨ service.hash submission.otp ≠ entry.value.otpHash := wrong
  obtain ⟨past, evaluated⟩ := eval_verifyResetCode_wrong resets submission.choice rfl valid ready
  refine ⟨_, _, alone_submission evaluated, ?_, World.withCode_otps ..⟩
  rintro ⟨token, answered⟩
  cases answered

/-- The right code below the limit reaches the draw of a reset token. -/
theorem eval_verifyResetCode_right (resets : ResetBackend) (choice : Choice) (works : choice.fails = false)
    (valid : validateEmail email = none) {otp : String} {entry : Expiring OTPRecord}
    (stored : world.otps (service.hash email) = some entry) (counts : resets.counts world.now entry = true)
    (below : ¬ maxOTPAttempts ≤ entry.value.attempts + 1) (right : service.hash otp = entry.value.otpHash) :
    ∃ past, (verifyResetCode service ⟨email, otp⟩).run.eval ((systemWith resets service store).recorded choice)
        (world, []) =
      (do
        let plain ← orInternal (← draw .token)
        orInternalError (← resetStore (.saveResetToken (service.hash plain) entry.value.userID email (15 * minute)))
        return .verifyResetCode plain : Handler Response).run.eval
          ((systemWith resets service store).recorded choice) (world.withCode service email none, past) := by
  have visible : (world.otps (service.hash email)).filter (fun entry => entry.visible world.now) = some entry := by
    rw [stored, Option.filter_some, if_pos (ResetBackend.visible_of_counts counts)]
  have counted : (world.otps (service.hash email)).filter (resets.counts world.now) = some entry := by
    rw [stored, Option.filter_some, if_pos counts]
  have matched (state : World store × Past) : (checkCode service otp entry.value).run.eval
      ((systemWith resets service store).recorded choice) state = some (.ok (), state) := by
    rw [checkCode, if_pos right]
    rfl
  rw [verifyResetCode, eval_ok (eval_valid valid []), eval_ok (eval_recorded (exec_getOTP works) []), found, visible,
    ResetBackend.settled_visible visible, World.withCode_self]
  dsimp only
  rw [eval_ok (eval_orStatus_ok ..), eval_ok (eval_recorded (exec_incrOTPAttempts works counted) _),
    eval_ok (eval_orStatus_ok ..), eval_ok (eval_checkAttempts_below below _), eval_ok (matched _),
    eval_ok (eval_recorded (exec_deleteOTP works) _), World.withCode_withCode]
  exact ⟨_, rfl⟩

theorem exec_saveResetToken (resets : ResetBackend) (service : Service) (choice : Choice) (world : World store)
    (works : choice.fails = false) (tokenHash userID email : String) (ttl : Duration) :
    ∃ next, (systemWith resets service store).exec (.resets (.saveResetToken tokenHash userID email ttl)) choice world =
      some (.ok (), next) := by
  cases resets with
  | redis =>
      change ∃ next, some (execResets service (.saveResetToken tokenHash userID email ttl) choice world) = _
      rw [execResets, works, if_neg Bool.false_ne_true]
      exact ⟨_, rfl⟩
  | memory => exact ⟨_, rfl⟩

/-- The right code below the limit is accepted. -/
theorem submission_accepted (valid : validateEmail email = none) {entry : Expiring OTPRecord}
    (stored : world.otps (service.hash email) = some entry) (counts : resets.counts submission.time entry = true)
    (below : ¬ maxOTPAttempts ≤ entry.value.attempts + 1)
    (right : service.hash submission.otp = entry.value.otpHash) {outcome : Outcome Ports Answer} {after : World store}
    (ran : (systemWith resets service store).alone (submission.turn email) world = some (outcome, after)) :
    Accepts outcome := by
  have drifted : (systemWith resets service store).drift (submission.turn email).tick world =
      some (submission.ready world) := rfl
  have ready : (submission.ready world).otps (service.hash email) = some entry := stored
  have evaluated : (verifyResetCode service ⟨email, submission.otp⟩).run.eval
      ((systemWith resets service store).recorded submission.choice) (submission.ready world, []) =
        some (outcome.answer, after, outcome.past) := alone_inv drifted ran
  obtain ⟨past, same⟩ := eval_verifyResetCode_right resets submission.choice rfl valid ready counts below right
  rw [same] at evaluated
  obtain ⟨reply, drawn, draws, evaluated⟩ := eval_recorded_inv evaluated
  obtain ⟨rfl, _⟩ := exec_token Bool.false_ne_true draws
  obtain ⟨saved, _, saves, evaluated⟩ := eval_recorded_inv evaluated
  obtain ⟨last, stores⟩ := exec_saveResetToken resets service submission.choice drawn rfl
    (service.hash submission.choice.token) entry.value.userID email (15 * minute)
  obtain ⟨rfl, _⟩ := Prod.mk.inj (Option.some.inj (saves.symm.trans stores))
  exact ⟨_, (congrArg Prod.fst (Option.some.inj evaluated)).symm⟩

theorem submission_ends (resets : ResetBackend) (valid : validateEmail email = none) {entry : Expiring OTPRecord}
    (stored : world.otps (service.hash email) = some entry) (counts : resets.counts submission.time entry = true)
    (below : ¬ maxOTPAttempts ≤ entry.value.attempts + 1)
    (right : service.hash submission.otp = entry.value.otpHash)
    (unused : service.hash submission.token ∉ world.issued) :
    ∃ outcome after, (systemWith resets service store).alone (submission.turn email) world = some (outcome, after) := by
  have ready : (submission.ready world).otps (service.hash email) = some entry := stored
  let left : World store := (submission.ready world).withCode service email none
  let drawn : World store := { left with issued := service.hash submission.token :: world.issued }
  have draws : (systemWith resets service store).exec (.random .token) submission.choice left =
      some (some submission.token, drawn) := by
    have works : ¬ submission.choice.fails = true := Bool.false_ne_true
    have fresh : service.hash submission.choice.token ∉ left.issued := unused
    change execRandom service .token submission.choice left = _
    rw [execRandom, if_neg works, if_neg fresh]
    rfl
  obtain ⟨last, saves⟩ := exec_saveResetToken resets service submission.choice drawn rfl
    (service.hash submission.token) entry.value.userID email (15 * minute)
  obtain ⟨past, same⟩ := eval_verifyResetCode_right resets submission.choice rfl valid ready counts below right
  have given (state : World store × Past) : (orInternal (some submission.token)).run.eval
      ((systemWith resets service store).recorded submission.choice) state = some (.ok submission.token, state) := rfl
  rw [eval_ok (eval_recorded draws _), eval_ok (given _), eval_ok (eval_recorded saves _)] at same
  exact ⟨_, _, alone_submission same⟩

/-- A code that is not accepted keeps the record in step with the wrong codes. -/
theorem Stands.step (stands : Stands service email userID code expiry wrongs world) (valid : validateEmail email = none)
    (unexpired : submission.time < expiry)
    (apart : service.hash submission.otp = service.hash code → submission.otp = code)
    {outcome : Outcome Ports Answer} {after : World store}
    (ran : (systemWith resets service store).alone (submission.turn email) world = some (outcome, after)) :
    (Accepts outcome ↔ submission.otp = code ∧ (wrongs : Int) + 1 < maxOTPAttempts) ∧
      (¬ Accepts outcome →
        Stands service email userID code expiry (wrongs + if submission.otp ≠ code then 1 else 0) after) := by
  rcases stands with ⟨stored, few⟩ | ⟨absent, many⟩
  · have counts := counts_unexpired resets ⟨userID, service.hash code, wrongs⟩ unexpired
    by_cases accepted : submission.otp = code ∧ (wrongs : Int) + 1 < maxOTPAttempts
    · have accepts := submission_accepted valid stored counts (Int.not_le.mpr accepted.2)
        (congrArg service.hash accepted.1) ran
      exact ⟨iff_of_true accepts accepted, fun refused => absurd accepts refused⟩
    · have wrong : ∀ entry, world.otps (service.hash email) = some entry →
          maxOTPAttempts ≤ entry.value.attempts + 1 ∨ service.hash submission.otp ≠ entry.value.otpHash := by
        intro entry present
        obtain rfl := Option.some.inj (stored.symm.trans present)
        rw [Classical.or_iff_not_imp_left]
        exact fun below same => accepted ⟨apart same, Int.not_le.mp below⟩
      obtain ⟨_, _, refuses, refused, left⟩ := submission_refused resets valid wrong
      obtain ⟨rfl, rfl⟩ := Prod.mk.inj (Option.some.inj (ran.symm.trans refuses))
      refine ⟨iff_of_false refused accepted, fun _ => ?_⟩
      rw [stored, ResetBackend.wrongCode, Option.filter_some, if_pos counts] at left
      dsimp only at left
      by_cases limit : maxOTPAttempts ≤ (wrongs : Int) + 1
      · rw [if_pos limit] at left
        refine .inr ⟨left, ?_⟩
        split <;> omega
      · rw [if_neg limit] at left
        have other : submission.otp ≠ code := fun same => accepted ⟨same, Int.not_le.mp limit⟩
        rw [if_pos other]
        exact .inl ⟨left, Int.not_le.mp limit⟩
  · have wrong : ∀ entry, world.otps (service.hash email) = some entry →
        maxOTPAttempts ≤ entry.value.attempts + 1 ∨ service.hash submission.otp ≠ entry.value.otpHash := by
      intro entry present
      cases absent.symm.trans present
    obtain ⟨_, _, refuses, refused, left⟩ := submission_refused resets valid wrong
    obtain ⟨rfl, rfl⟩ := Prod.mk.inj (Option.some.inj (ran.symm.trans refuses))
    have missing : (resets.wrongCode submission.time none).2 = none := by cases resets <;> rfl
    rw [absent, missing] at left
    refine ⟨iff_of_false refused fun accepted => ?_, fun _ => .inr ⟨left, ?_⟩⟩
    · omega
    · split <;> omega

/-- Codes that are not accepted keep the record in step with the wrong ones among them. -/
theorem Stands.run {list : List Submission} (stands : Stands service email userID code expiry wrongs world)
    (valid : validateEmail email = none) (unexpired : ∀ submission ∈ list, submission.time < expiry)
    (apart : ∀ submission ∈ list, service.hash submission.otp = service.hash code → submission.otp = code)
    {outcomes : List (Outcome Ports Answer)} {last : World store}
    (played : submissions resets service email list world = some (outcomes, last))
    (refused : ∀ outcome ∈ outcomes, ¬ Accepts outcome) :
    Stands service email userID code expiry (wrongs + wrongsAmong code list) last := by
  induction list generalizing world wrongs outcomes with
  | nil =>
      cases played
      exact stands
  | cons submission list ih =>
      obtain ⟨outcome, middle, rest, first, continued, rfl⟩ := play_cons_inv played
      rw [List.forall_mem_cons] at unexpired apart refused
      have kept := (stands.step valid unexpired.1 apart.1 first).2 refused.1
      have later := ih kept unexpired.2 apart.2 continued refused.2
      have counted : wrongsAmong code (submission :: list) =
          (if submission.otp ≠ code then 1 else 0) + wrongsAmong code list := by
        simp only [wrongsAmong, List.filter_cons, decide_eq_true_eq]
        split
        · rw [List.length_cons, Nat.add_comm]
        · rw [Nat.zero_add]
      rw [counted, ← Nat.add_assoc]
      exact later

/-- The next right code comes to its end when the token that it draws is not in use. -/
theorem Stands.ends (stands : Stands service email userID code expiry wrongs world) (resets : ResetBackend)
    (valid : validateEmail email = none) (unexpired : submission.time < expiry) (right : submission.otp = code)
    (unused : service.hash submission.token ∉ world.issued) :
    ∃ outcome after, (systemWith resets service store).alone (submission.turn email) world = some (outcome, after) := by
  by_cases wrong : ∀ entry, world.otps (service.hash email) = some entry →
      maxOTPAttempts ≤ entry.value.attempts + 1 ∨ service.hash submission.otp ≠ entry.value.otpHash
  · obtain ⟨outcome, after, refuses, _⟩ := submission_refused resets valid wrong
    exact ⟨outcome, after, refuses⟩
  · rcases stands with ⟨stored, few⟩ | ⟨absent, _⟩
    · have below : ¬ maxOTPAttempts ≤ (wrongs : Int) + 1 := by
        intro limit
        refine wrong fun entry present => .inl ?_
        obtain rfl := Option.some.inj (stored.symm.trans present)
        exact limit
      exact submission_ends resets valid stored (counts_unexpired resets _ unexpired) below (right ▸ rfl) unused
    · refine absurd (fun entry present => ?_) wrong
      cases absent.symm.trans present

end

/-- A right code that was not accepted before is answered, and the documented limit of wrong codes decides whether
it is accepted exactly when the wrong codes before it are not one less than the limit. -/
theorem right_code_accepted_iff (resets : ResetBackend) (service : Service) (backend : Backend) (email : String)
    (valid : validateEmail email = none) (world : World backend.store) (userID code : String) (expiry : Time)
    (issued : world.otps (service.hash email) = some ⟨⟨userID, service.hash code, 0⟩, some expiry⟩)
    (earlier : List Submission) (unexpired : ∀ submission ∈ earlier, submission.time < expiry)
    (apart : ∀ submission ∈ earlier, service.hash submission.otp = service.hash code → submission.otp = code)
    (outcomes : List (Outcome Ports Answer)) (last : World backend.store)
    (played : submissions resets service email earlier world = some (outcomes, last))
    (refused : ∀ outcome ∈ outcomes, ¬ Accepts outcome) (submission : Submission)
    (right : submission.otp = code) (current : submission.time < expiry)
    (unused : service.hash submission.token ∉ last.issued) :
    ∃ outcome after, (systemWith resets service backend.store).alone (submission.turn email) last =
        some (outcome, after) ∧
      ((Accepts outcome ↔ (wrongsAmong code earlier : Int) < maxOTPAttempts) ↔
        (wrongsAmong code earlier : Int) + 1 ≠ maxOTPAttempts) := by
  have start : Stands service email userID code expiry 0 world := .inl ⟨issued, by decide⟩
  have stands := start.run valid unexpired apart played refused
  rw [Nat.zero_add] at stands
  obtain ⟨outcome, after, ran⟩ := stands.ends resets valid current right unused
  refine ⟨outcome, after, ran, ?_⟩
  rw [(stands.step valid current (fun _ => right) ran).1, and_iff_right right]
  omega

/-- The sample account with the code `000007`. -/
def codeWorld : World (postgres exactDatabase) :=
  sampleWorld.withCode sample "ann@example.com" (some ⟨⟨"user", sample.hash "000007", 0⟩, some (15 * minute)⟩)

def submitted (otp : String) : Submission := ⟨second, bareContext, otp, "token"⟩

/-- After three wrong codes the right one is accepted. -/
theorem three_wrong_codes_survived :
    ∃ outcomes last outcome after,
      submissions .redis sample "ann@example.com" (List.replicate 3 (submitted "000001")) codeWorld =
        some (outcomes, last) ∧
      (systemWith .redis sample (postgres exactDatabase)).alone ((submitted "000007").turn "ann@example.com") last =
        some (outcome, after) ∧ Accepts outcome := by
  let wrongs := List.replicate 3 (submitted "000001")
  have completes : (submissions .redis sample "ann@example.com" wrongs codeWorld).any (fun result =>
      decide (result.1.map Outcome.answer = List.replicate 3 (.error invalidCode) ∧ result.2.issued = [])) = true := by
    decide +kernel
  obtain ⟨⟨outcomes, last⟩, played, facts⟩ := (Option.any_eq_true _ _).mp completes
  obtain ⟨answers, issued⟩ := of_decide_eq_true facts
  have refused : ∀ outcome ∈ outcomes, ¬ Accepts outcome := by
    rintro outcome member ⟨token, accepted⟩
    have known : outcome.answer ∈ outcomes.map Outcome.answer := List.mem_map_of_mem member
    rw [answers, accepted] at known
    cases (List.mem_replicate.mp known).2
  obtain ⟨outcome, after, ran, decided⟩ := right_code_accepted_iff .redis sample (.postgres exactDatabase)
    "ann@example.com" (by decide) codeWorld "user" "000007" (15 * minute) (World.withCode_otps ..) wrongs (by decide)
    (fun _ _ same => sample_hash_injective same) outcomes last played refused (submitted "000007") rfl (by decide)
    (by rw [issued]; exact List.not_mem_nil)
  exact ⟨outcomes, last, outcome, after, played, ran, (decided.mpr (by decide)).mpr (by decide)⟩

/-- After four wrong codes the right one is refused, with either reset store. -/
theorem right_code_refused_after_four :
    codeWorld.otps (sample.hash "ann@example.com") =
        some ⟨⟨"user", sample.hash "000007", 0⟩, some (15 * minute)⟩ ∧
      (wrongsAmong "000007" (List.replicate 4 (submitted "000001")) : Int) < maxOTPAttempts ∧
      ∀ resets : ResetBackend,
        (submissions resets sample "ann@example.com" (List.replicate 4 (submitted "000001") ++ [submitted "000007"])
          codeWorld).map (fun result => result.1.map Outcome.answer) =
            some (List.replicate 4 (.error invalidCode) ++ [.error tooManyAttempts]) := by
  refine ⟨World.withCode_otps .., by decide, fun resets => ?_⟩
  cases resets with
  | redis => decide +kernel
  | memory => decide +kernel

end AuthService
