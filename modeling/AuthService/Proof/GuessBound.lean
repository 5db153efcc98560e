/-
This file bounds how many codes are compared between two saves of a code for one address.
-/

import AuthService.Proof.ResetCodes
import AuthService.Proof.SingleUse
import Mathlib.Order.Interval.Finset.Basic
import Mathlib.Data.Int.Interval

namespace AuthService
open Interleaving Program System

/-- The request that an event lets compare its code for the address: its count is below the limit, so
`checkAttempts` passes. -/
def letThrough (email : String) : Event Ports → Option Nat
  | ⟨task, .resets (.incrOTPAttempts address), .ok attempts⟩ =>
      if address = email ∧ attempts < maxOTPAttempts then some task else none
  | _ => none

/-- The requests that compared their code for the address in a part of the history. -/
def comparing (email : String) (segment : List (Event Ports)) : List Nat := segment.filterMap (letThrough email)

/-- The numbers that were counted under the key since its last save, with the newest first. -/
def countsSinceSave (service : Service) (key : String) : List (Event Ports) → List Int
  | [] => []
  | event :: past =>
      if savesCode service key event.exchange then []
      else (countedCode service key event.exchange).toList ++ countsSinceSave service key past

/-- The stored count is at least every number that was counted since the save. -/
def Bounded {store : SessionStore} (service : Service) (config : ServiceConfig store) : Prop :=
  ∀ key entry, config.world.otps key = some entry → 0 ≤ entry.value.attempts ∧
    ∀ count ∈ countsSinceSave service key config.history, count ≤ entry.value.attempts

/-- Each counted number is positive and above those that were counted since the save. -/
def Rises (service : Service) (event : Event Ports) (past : List (Event Ports)) : Prop :=
  ∀ key count, countedCode service key event.exchange = some count →
    0 < count ∧ ∀ earlier ∈ countsSinceSave service key past, earlier < count

section
variable {service : Service} {resets : ResetBackend} {store : SessionStore} {now : Time} {requests : List Request}
variable {allowed : ServiceConfig store → ServiceLabel → Prop} {config : ServiceConfig store}

theorem reaches_bounded
    (reached : (systemWith resets service store).Reaches allowed
      ((systemWith resets service store).begin (World.empty store now) requests) config) :
    Bounded service config := by
  apply reached.invariant
  · intro key entry present
    cases present
  · intro config label next _ bounded _ moved
    obtain ⟨_, _, rfl⟩ | ⟨task, choice, request, command, rest, reply, world, _, selected, executed, rfl⟩ |
      ⟨tick, world, _, drifted, rfl⟩ := systemWith_cases moved
    · exact bounded
    · intro key entry present
      cases execWith_code executed key with
      | kept unsaved uncounted _ same =>
          simp only [countsSinceSave, unsaved, uncounted, Bool.false_eq_true, if_false, Option.toList_none,
            List.nil_append]
          exact bounded key entry (same ▸ present)
      | gone _ _ none => exact absurd (none.symm.trans present) (by simp)
      | saved saves _ new fresh =>
          obtain rfl := Option.some.inj (new.symm.trans present)
          simp [countsSinceSave, saves, fresh]
      | @counted old unsaved _ counts before next =>
          obtain rfl := Option.some.inj (next.symm.trans present)
          obtain ⟨positive, above⟩ := bounded key old before
          simp only [countsSinceSave, unsaved, counts, Bool.false_eq_true, if_false, Option.toList_some,
            List.singleton_append, List.mem_cons, forall_eq_or_imp]
          refine ⟨by omega, le_rfl, fun count member => ?_⟩
          have earlier := above count member
          omega
    · obtain ⟨cache, now, rfl⟩ := drift_frame drifted
      exact bounded

theorem reaches_rises
    (reached : (systemWith resets service store).Reaches allowed
      ((systemWith resets service store).begin (World.empty store now) requests) config) :
    Explained (Rises service) config.history := by
  apply reached.explained trivial
  intro config task request command rest choice reply world reached _ selected executed key count counted
  have change : CodeChange service key ⟨command, reply⟩ (config.world.otps key) (world.otps key) :=
    execWith_code executed key
  cases change with
  | kept _ uncounted => exact absurd (uncounted.symm.trans counted) (by simp)
  | gone _ uncounted => exact absurd (uncounted.symm.trans counted) (by simp)
  | saved _ uncounted => exact absurd (uncounted.symm.trans counted) (by simp)
  | @counted entry _ _ counts before =>
      obtain rfl := Option.some.inj (counts.symm.trans counted)
      obtain ⟨positive, above⟩ := reaches_bounded reached key entry before
      refine ⟨by omega, fun earlier member => ?_⟩
      have bound := above earlier member
      omega

/-- Counting keeps the expiry of every code record. -/
theorem count_keeps_expiry {task : Nat} {email : String} {choice : Choice} {next : ServiceConfig store}
    (counting : config.Next task (.resets (.incrOTPAttempts email)))
    (moved : (systemWith resets service store).step config (.advance task choice) = some next) {key : String}
    {entry : Expiring OTPRecord} (present : next.world.otps key = some entry) :
    ∃ old, config.world.otps key = some old ∧ entry.expiresAt = old.expiresAt := by
  obtain ⟨request, rest, selected⟩ := counting
  obtain ⟨_, label, _⟩ | ⟨_, _, _, command, _, reply, world, same, performs, executed, rfl⟩ |
    ⟨_, _, label, _⟩ := systemWith_cases moved
  · cases label
  · cases same
    cases selected.symm.trans performs
    cases execWith_code executed key with
    | kept _ _ _ same => exact ⟨entry, same ▸ present, rfl⟩
    | gone _ _ none => exact absurd (none.symm.trans present) (by simp)
    | saved saves => cases saves
    | counted _ _ _ before next =>
        obtain rfl := Option.some.inj (next.symm.trans present)
        exact ⟨_, before, rfl⟩
  · cases label

end

section Comparison
variable {service : Service} {resets : ResetBackend} {store : SessionStore} {world : World store}
variable {requests : List Request} {allowed : ServiceConfig store → ServiceLabel → Prop} {config : ServiceConfig store}

/-- The part of `verifyResetCode` that begins with the comparison of the code. -/
def compareCode (service : Service) (req : VerifyResetCodeRequest) (otpRecord : OTPRecord) : Handler Response := do
  checkCode service req.otp otpRecord
  let _ ← resetStore (.deleteOTP req.email)
  let plain ← orInternal (← draw .token)
  orInternalError (← resetStore
    (.saveResetToken (service.hash plain) otpRecord.userID req.email (15 * minute)))
  return .verifyResetCode plain

theorem verifyResetCode_eq (service : Service) (req : VerifyResetCodeRequest) :
    verifyResetCode service req = (do
      checkArgument (validateEmail req.email)
      let otpRecord ← orStatus .resetCodeNotFound invalidCode (← resetStore (.getOTP req.email))
      let attempts ← orStatus .resetCodeNotFound invalidCode (← resetStore (.incrOTPAttempts req.email))
      checkAttempts req.email attempts
      compareCode service req otpRecord) := rfl

/-- What a counted attempt leaves of its request. Within the limit it compares the code, and otherwise it deletes the
record and refuses. -/
def afterCount (service : Service) (req : VerifyResetCodeRequest) (otpRecord : OTPRecord) (attempts : Int) :
    Program Ports Answer :=
  if attempts < maxOTPAttempts then (compareCode service req otpRecord).run
  else .call (.resets (.deleteOTP req.email)) fun _ => .done (.error ⟨.unauthenticated, "too many attempts"⟩)

theorem checkAttempts_eq (req : VerifyResetCodeRequest) (otpRecord : OTPRecord) (attempts : Int) :
    (checkAttempts req.email attempts >>= fun _ => compareCode service req otpRecord).run =
      afterCount service req otpRecord attempts := by
  unfold checkAttempts afterCount
  by_cases limit : maxOTPAttempts ≤ attempts
  · rw [if_pos limit, if_neg (Int.not_lt.mpr limit)]
    rfl
  · rw [if_neg limit, if_pos (Int.not_le.mp limit)]
    rfl

/-- A program that counts an attempt next belongs to a verification and goes on with what the count leaves. -/
def CountsNext (service : Service) (request : Request) (program : Program Ports Answer) : Prop :=
  ∀ email rest, program = .call (.resets (.incrOTPAttempts email)) rest →
    ∃ ctx req otpRecord, request = .verifyResetCode ctx req ∧ req.email = email ∧
      ∀ attempts, rest (.ok attempts) = afterCount service req otpRecord attempts

/-- No other command counts an attempt. -/
theorem countsNext_of_only {request : Request} {program : Program Ports Answer}
    (only : program.Only fun command => ∀ email, command ≠ Command.resets (.incrOTPAttempts email)) :
    program.Everywhere (CountsNext service request) := by
  refine everywhere_of_only only (fun _ _ _ same => nomatch same) ?_
  rintro command next other email rest same
  cases same
  exact absurd rfl (other email)

/-- After the count nothing is counted again. -/
theorem only_afterCount (req : VerifyResetCodeRequest) (otpRecord : OTPRecord) (attempts : Int) :
    (afterCount service req otpRecord attempts).Only fun command =>
      ∀ email, command ≠ Command.resets (.incrOTPAttempts email) := by
  unfold afterCount
  split
  · unfold compareCode checkCode
    split
    · refine ⟨nofun, fun _ => ⟨nofun, fun drawn => ?_⟩⟩
      cases drawn with
      | none => trivial
      | some plain =>
          refine ⟨nofun, fun saved => ?_⟩
          cases saved <;> trivial
    · trivial
  · exact ⟨nofun, fun _ => trivial⟩

/-- A request that ends with an error counts nothing. -/
theorem countsNext_orStatus_error {A : Type} {request : Request} (named : StoreError) (status : Status)
    (error : StoreError) (rest : A → Handler Response) :
    (orStatus named status (.error error) >>= rest).run.Everywhere (CountsNext service request) := by
  unfold orStatus
  dsimp only
  by_cases known : error = named
  · rw [if_pos known]
    exact fun _ _ same => nomatch same
  · rw [if_neg known]
    exact fun _ _ same => nomatch same

theorem countsNext_verifyResetCode (ctx : Context) (req : VerifyResetCodeRequest) :
    (verifyResetCode service req).run.Everywhere (CountsNext service (.verifyResetCode ctx req)) := by
  rw [verifyResetCode_eq]
  cases validateEmail req.email with
  | some message => exact fun _ _ same => nomatch same
  | none =>
      refine ⟨fun _ _ same => (nomatch same), fun read => ?_⟩
      cases read with
      | error error => exact countsNext_orStatus_error .resetCodeNotFound invalidCode error _
      | ok otpRecord =>
          have counts (attempts : Int) :
              (orStatus .resetCodeNotFound invalidCode (.ok attempts) >>= fun attempts =>
                checkAttempts req.email attempts >>= fun _ => compareCode service req otpRecord).run =
              afterCount service req otpRecord attempts := checkAttempts_eq req otpRecord attempts
          refine ⟨?_, fun counted => ?_⟩
          · rintro email rest same
            cases same
            exact ⟨ctx, req, otpRecord, rfl, rfl, counts⟩
          · cases counted with
            | error error => exact countsNext_orStatus_error .resetCodeNotFound invalidCode error _
            | ok attempts =>
                have rest : (afterCount service req otpRecord attempts).Everywhere
                    (CountsNext service (.verifyResetCode ctx req)) :=
                  countsNext_of_only (only_afterCount req otpRecord attempts)
                rw [← counts attempts] at rest
                exact rest

/-- Only verifications count attempts. -/
theorem countsNext_handle (service : Service) (request : Request) :
    (handle service request).run.Everywhere (CountsNext service request) := by
  cases request with
  | verifyResetCode ctx req => exact countsNext_verifyResetCode ctx req
  | _ =>
      refine everywhere_of_only (only_of_follows (follows_handle service _)) (fun _ _ _ same => nomatch same) ?_
      rintro command next ⟨past, permitted⟩ email rest same
      cases same
      cases permitted with
      | free harmless => cases harmless

/-- A counted attempt leaves its request at the comparison or at the refusal. -/
theorem reaches_afterCount
    (reached : (systemWith resets service store).Reaches allowed
      ((systemWith resets service store).begin world requests) config) {task : Nat} {email : String} {attempts : Int}
    {past : List (Event Ports)}
    (newest : config.history = ⟨task, .resets (.incrOTPAttempts email), .ok attempts⟩ :: past) :
    ∃ ctx req otpRecord, req.email = email ∧
      config.tasks[task]? = some ⟨.verifyResetCode ctx req, afterCount service req otpRecord attempts⟩ := by
  induction reached with
  | refl => cases newest
  | @step before next label reached permitted moved ih =>
      obtain ⟨_, _, rfl⟩ | ⟨index, choice, request, command, rest, reply, after, _, selected, executed, rfl⟩ |
        ⟨tick, after, _, drifted, rfl⟩ := step_cases label moved
      · obtain ⟨ctx, req, otpRecord, address, found⟩ := ih newest
        exact ⟨ctx, req, otpRecord, address,
          (List.getElem?_append_left (List.getElem?_eq_some_iff.mp found).1).trans found⟩
      · obtain ⟨rfl, same⟩ := Event.mk.inj (List.cons.inj newest).1
        cases same
        obtain ⟨ctx, req, otpRecord, rfl, address, leaves⟩ :=
          (reached.everywhere (countsNext_handle service) _ (List.mem_of_getElem? selected)).here email rest rfl
        refine ⟨ctx, req, otpRecord, address, ?_⟩
        rw [List.getElem?_set_self (List.getElem?_eq_some_iff.mp selected).1, leaves]
      · exact ih newest

end Comparison

section Segments
variable {service : Service} {key : String} {segment earlier : List (Event Ports)}

/-- The numbers that were counted under the key in a part of the history. -/
def segmentCounts (service : Service) (key : String) (segment : List (Event Ports)) : List Int :=
  segment.filterMap fun event => countedCode service key event.exchange

theorem segmentCounts_cons (event : Event Ports) :
    segmentCounts service key (event :: segment) =
      (countedCode service key event.exchange).toList ++ segmentCounts service key segment := by
  simp only [segmentCounts, List.filterMap_cons]
  cases countedCode service key event.exchange <;> rfl

theorem countsSinceSave_append (unsaved : ∀ event ∈ segment, savesCode service key event.exchange = false) :
    countsSinceSave service key (segment ++ earlier) =
      segmentCounts service key segment ++ countsSinceSave service key earlier := by
  induction segment with
  | nil => rfl
  | cons event segment ih =>
      rw [List.forall_mem_cons] at unsaved
      simp only [List.cons_append, countsSinceSave, unsaved.1, Bool.false_eq_true, if_false, ih unsaved.2,
        segmentCounts_cons, List.append_assoc]

/-- Without a save the counted numbers are positive and rise. -/
theorem segmentCounts_rise (rises : Explained (Rises service) (segment ++ earlier))
    (unsaved : ∀ event ∈ segment, savesCode service key event.exchange = false) :
    (segmentCounts service key segment).Pairwise (· > ·) ∧ ∀ count ∈ segmentCounts service key segment, 0 < count := by
  induction segment with
  | nil => exact ⟨List.Pairwise.nil, nofun⟩
  | cons event segment ih =>
      rw [List.forall_mem_cons] at unsaved
      rw [List.cons_append] at rises
      obtain ⟨rising, positive⟩ := ih rises.2 unsaved.2
      rw [segmentCounts_cons]
      cases counted : countedCode service key event.exchange with
      | none => exact ⟨rising, positive⟩
      | some count =>
          obtain ⟨first, above⟩ := rises.1 key count counted
          rw [countsSinceSave_append unsaved.2] at above
          exact ⟨List.pairwise_cons.mpr ⟨fun other member => above other (List.mem_append_left _ member), rising⟩,
            List.forall_mem_cons.mpr ⟨first, positive⟩⟩

/-- Fewer different positive numbers than the limit lie below it. -/
theorem length_below {counts : List Int} (rising : counts.Pairwise (· > ·)) (positive : ∀ count ∈ counts, 0 < count)
    {limit : Int} (allowed : 0 < limit) : ((counts.filter fun count => count < limit).length : Int) < limit := by
  have distinct : (counts.filter fun count => count < limit).Nodup :=
    (rising.imp fun above => ne_of_gt above).filter _
  have within : (counts.filter fun count => count < limit).toFinset ⊆ Finset.Ioo 0 limit := by
    intro count member
    obtain ⟨inside, below⟩ := List.mem_filter.mp (List.mem_toFinset.mp member)
    exact Finset.mem_Ioo.mpr ⟨positive count inside, of_decide_eq_true below⟩
  have bound := Finset.card_le_card within
  rw [List.toFinset_card_of_nodup distinct, Int.card_Ioo] at bound
  omega

theorem counted_of_letThrough {email : String} {event : Event Ports} {task : Nat}
    (passed : letThrough email event = some task) :
    ∃ count < maxOTPAttempts, countedCode service (service.hash email) event.exchange = some count := by
  unfold letThrough at passed
  split at passed
  · rename_i attempts
    split at passed
    · rename_i facts
      exact ⟨attempts, facts.2, if_pos (congrArg service.hash facts.1)⟩
    · cases passed
  · cases passed

theorem length_comparing (service : Service) (email : String) (segment : List (Event Ports)) :
    (comparing email segment).length ≤
      ((segmentCounts service (service.hash email) segment).filter fun count => count < maxOTPAttempts).length := by
  induction segment with
  | nil => rfl
  | cons event segment ih =>
      rw [segmentCounts_cons, List.filter_append, List.length_append]
      cases passed : letThrough email event with
      | none =>
          rw [comparing, List.filterMap_cons_none passed]
          exact ih.trans (Nat.le_add_left ..)
      | some task =>
          obtain ⟨count, below, counted⟩ := counted_of_letThrough passed
          rw [comparing, List.filterMap_cons_some passed, counted, List.length_cons]
          simp only [Option.toList_some, List.filter_cons, below, decide_true, if_true, List.filter_nil,
            List.length_singleton, Nat.add_comm 1]
          exact Nat.succ_le_succ ih

end Segments

/-- The newest event is the fifth count, by the seventh request. -/
def fifthCounted : List (Event Ports) → Bool
  | ⟨6, .resets (.incrOTPAttempts "a@b.co"), .ok 5⟩ :: _ => true
  | _ => false

theorem fifthCounted_eq {history : List (Event Ports)} (last : fifthCounted history = true) :
    ∃ past, history = ⟨6, .resets (.incrOTPAttempts "a@b.co"), .ok 5⟩ :: past := by
  unfold fifthCounted at last
  split at last
  · exact ⟨_, rfl⟩
  · cases last

end AuthService
