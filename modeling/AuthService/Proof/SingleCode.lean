/-
This file proves when one code buys at most one reset token.
-/

import AuthService.Proof.ResetCodes
import AuthService.Proof.ResetToken

namespace AuthService
open Interleaving Program System

/-- The task is a `VerifyResetCode` request for the address. -/
def PresentsCode {store : SessionStore} (config : ServiceConfig store) (task : Nat) (email : String) : Prop :=
  ∃ ctx otp, config.request task = some (.verifyResetCode ctx ⟨email, otp⟩)

/-- The task read the code of this save: no other save under the key lies between the save and its read. -/
def ReadsSave (service : Service) (history : List (Event Ports)) (email : String) (save : Event Ports)
    (past : List (Event Ports)) (task : Nat) : Prop :=
  ∃ later found between, history = later ++ ⟨task, .resets (.getOTP email), .ok found⟩ :: (between ++ save :: past) ∧
    ∀ event ∈ between, savesCode service (service.hash email) event.exchange = false

/-- The event found the code under the key. -/
def findsCode (service : Service) (key : String) : Event Ports → Bool
  | ⟨_, .resets (.getOTP email), .ok _⟩ => service.hash email = key
  | _ => false

/-- Some running request has found the code under the key and has not deleted it yet. -/
def busy {store : SessionStore} (service : Service) (config : ServiceConfig store) (key : String) : Bool :=
  config.history.any fun event => findsCode service key event && (config.answer? event.task).isNone &&
    !config.history.any fun other => other.task = event.task && dropsCode service key other.exchange

/-- A request reads the code of an address only while no other request is between its own `GetOTP` and its
own `DeleteOTP` for that address, and no `DeleteOTP` fails. -/
def serialized {store : SessionStore} (service : Service) (config : ServiceConfig store) : ServiceLabel → Bool
  | .advance task choice =>
      match config.tasks[task]? with
      | some ⟨_, .call (.resets (.getOTP email)) _⟩ => !busy service config (service.hash email)
      | some ⟨_, .call (.resets (.deleteOTP _)) _⟩ => !choice.fails
      | _ => true
  | _ => true

section Conduct
variable {service : Service}

/-- A `VerifyResetCode` request reads the code before every other call. -/
def ReadsFirst : Request → Past → Command → Prop
  | .verifyResetCode _ _, past, .resets (.getOTP _) => past = []
  | _, _, _ => True

/-- A `VerifyResetCode` request has called `DeleteOTP` before it succeeds. -/
def DropsFirst : Request → Past → Answer → Prop
  | .verifyResetCode _ req, past, .ok _ => ∃ reply, (⟨.resets (.deleteOTP req.email), reply⟩ : Exchange Ports) ∈ past
  | _, _, _ => True

theorem ordered_verifyResetCode (ctx : Context) (req : VerifyResetCodeRequest) :
    (verifyResetCode service req).run.Follows (ReadsFirst (.verifyResetCode ctx req))
      (DropsFirst (.verifyResetCode ctx req)) [] := by
  unfold verifyResetCode
  simp only [follows_run_bind]
  apply follows_checkArgument
  · intro status
    trivial
  rw [continues_ok, follows_run_bind]
  refine follows_call rfl fun read => ?_
  rw [continues_ok, follows_run_bind]
  apply follows_orStatus
  · intro error status _
    trivial
  rintro found rfl
  rw [continues_ok, follows_run_bind]
  refine follows_call trivial fun counted => ?_
  rw [continues_ok, follows_run_bind]
  apply follows_orStatus
  · intro error status _
    trivial
  rintro attempts rfl
  rw [continues_ok, follows_run_bind]
  unfold checkAttempts
  split
  · rw [follows_run_bind]
    exact follows_call trivial fun dropped => trivial
  rw [follows_run_pure, continues_ok, follows_run_bind]
  unfold checkCode
  split
  · rw [follows_run_pure, continues_ok, follows_run_bind]
    refine follows_call trivial fun dropped => ?_
    rw [continues_ok, follows_run_bind]
    refine follows_call trivial fun drawn => ?_
    rw [continues_ok, follows_run_bind]
    apply follows_orInternal
    · intro _
      trivial
    rintro plain rfl
    rw [continues_ok, follows_run_bind]
    refine follows_call trivial fun saved => ?_
    rw [continues_ok, follows_run_bind]
    apply follows_orInternalError
    · rintro error rfl
      trivial
    rintro _ rfl
    exact ⟨dropped, by simp⟩
  · trivial

theorem ordered_handle (service : Service) (request : Request) :
    (handle service request).run.Follows (ReadsFirst request) (DropsFirst request) [] := by
  cases request with
  | verifyResetCode ctx req => exact ordered_verifyResetCode ctx req
  | _ => exact follows_anything (fun _ _ => trivial) (fun _ _ => trivial) _ _

end Conduct

/-- By its history the store holds a code under the key: it was saved and not deleted since. -/
def codeStored (service : Service) (key : String) : List (Event Ports) → Bool
  | [] => false
  | event :: past => savesCode service key event.exchange ||
      (!dropsCode service key event.exchange && codeStored service key past)

/-- A deletion with no save after it leaves no code. -/
theorem codeStored_dropped {service : Service} {key : String} {segment past : List (Event Ports)}
    (unsaved : ∀ event ∈ segment, savesCode service key event.exchange = false)
    (dropped : ∃ event ∈ segment, dropsCode service key event.exchange = true) :
    codeStored service key (segment ++ past) = false := by
  induction segment with
  | nil =>
      obtain ⟨event, member, _⟩ := dropped
      cases member
  | cons event segment ih =>
      rw [List.forall_mem_cons] at unsaved
      obtain ⟨drop, member, drops⟩ := dropped
      rw [List.cons_append, codeStored, unsaved.1, Bool.false_or, Bool.and_eq_false_iff]
      rcases List.mem_cons.mp member with rfl | inside
      · exact .inl (by rw [drops]; rfl)
      · exact .inr (ih unsaved.2 ⟨drop, inside, drops⟩)

/-- Every `DeleteOTP` took effect. -/
def Deletes (event : Event Ports) (_ : List (Event Ports)) : Prop :=
  ∀ email reply, event.exchange = ⟨.resets (.deleteOTP email), reply⟩ → reply = .ok ()

/-- A code that is read is stored by the history. -/
def ReadsStored (service : Service) (event : Event Ports) (past : List (Event Ports)) : Prop :=
  ∀ email found, event.exchange = ⟨.resets (.getOTP email), .ok found⟩ →
    codeStored service (service.hash email) past = true

/-- Every request that found a code before this read has deleted it, or had answered. -/
def Waits {store : SessionStore} (service : Service) (config : ServiceConfig store) (event : Event Ports)
    (past : List (Event Ports)) : Prop :=
  ∀ email found, event.exchange = ⟨.resets (.getOTP email), .ok found⟩ →
    ∀ other ∈ past, findsCode service (service.hash email) other = true →
      (∃ drop ∈ past, drop.task = other.task ∧ dropsCode service (service.hash email) drop.exchange = true) ∨
        ∃ answer, config.Answered other.task answer ∧
          transcript other.task config.history = transcript other.task past

section Runs
variable {service : Service} {resets : ResetBackend} {store : SessionStore} {now : Time} {requests : List Request}
variable {allowed : ServiceConfig store → ServiceLabel → Prop} {config : ServiceConfig store}

theorem reaches_codeStored
    (reached : (systemWith resets service store).Reaches allowed
      ((systemWith resets service store).begin (World.empty store now) requests) config) :
    ∀ key entry, config.world.otps key = some entry → codeStored service key config.history = true := by
  apply reached.invariant
  · intro key entry present
    cases present
  · intro config label next _ stored _ moved
    obtain ⟨_, _, rfl⟩ | ⟨task, choice, request, command, rest, reply, world, _, selected, executed, rfl⟩ |
      ⟨tick, world, _, drifted, rfl⟩ := systemWith_cases moved
    · exact stored
    · intro key entry present
      cases execWith_code executed key with
      | kept unsaved _ undropped same =>
          simp only [codeStored, unsaved, undropped, Bool.false_or, Bool.not_false, Bool.true_and]
          exact stored key entry (same ▸ present)
      | gone _ _ none => exact absurd (none.symm.trans present) (by simp)
      | saved saves => simp only [codeStored, saves, Bool.true_or]
      | @counted old unsaved undropped _ before _ =>
          simp only [codeStored, unsaved, undropped, Bool.false_or, Bool.not_false, Bool.true_and]
          exact stored key old before
    · obtain ⟨cache, now, rfl⟩ := drift_frame drifted
      exact stored

theorem reaches_readsStored
    (reached : (systemWith resets service store).Reaches allowed
      ((systemWith resets service store).begin (World.empty store now) requests) config) :
    Explained (ReadsStored service) config.history := by
  refine reached.explained trivial ?_
  intro config task request command rest choice reply world reached _ selected executed email found same
  cases same
  obtain ⟨entry, present, _⟩ := execWith_getOTP executed
  exact reaches_codeStored reached _ entry present

theorem reaches_deletes
    (reached : (systemWith resets service store).Reaches (fun config label => serialized service config label = true)
      ((systemWith resets service store).begin (World.empty store now) requests) config) :
    Explained Deletes config.history := by
  refine reached.explained trivial ?_
  intro config task request command rest choice reply world _ permitted selected executed email deleted same
  cases same
  have succeeds : choice.fails = false := by
    simpa only [serialized, selected, Bool.not_eq_true'] using permitted
  exact execWith_deleteOTP succeeds executed

theorem not_busy {key : String} (idle : busy service config key = false) {event : Event Ports}
    (member : event ∈ config.history) (finds : findsCode service key event = true) :
    (∃ drop ∈ config.history, drop.task = event.task ∧ dropsCode service key drop.exchange = true) ∨
      ∃ answer, config.Answered event.task answer := by
  have released := List.any_eq_false.mp idle event member
  rw [finds, Bool.true_and, Bool.and_eq_true, not_and_or] at released
  rcases released with running | kept
  · rw [Option.isNone_iff_eq_none] at running
    obtain ⟨answer, known⟩ := Option.ne_none_iff_exists'.mp running
    exact .inr ⟨answer, Config.answered_of_answer? known⟩
  · rw [Bool.not_eq_true', Bool.not_eq_false] at kept
    obtain ⟨drop, inside, facts⟩ := List.any_eq_true.mp kept
    obtain ⟨own, drops⟩ := Bool.and_eq_true_iff.mp facts
    exact .inl ⟨drop, inside, of_decide_eq_true own, drops⟩

theorem reaches_waits
    (reached : (systemWith resets service store).Reaches (fun config label => serialized service config label = true)
      ((systemWith resets service store).begin (World.empty store now) requests) config) :
    Explained (Waits service config) config.history := by
  apply reached.invariant
  · trivial
  · intro config label next _ waits permitted moved
    have kept : ∀ (event : Event Ports) (past : List (Event Ports)), Waits service config event past →
        Waits service next event past := by
      intro event past waits email found same other member finds
      refine (waits email found same other member finds).imp_right ?_
      rintro ⟨answer, answered, quiet⟩
      exact ⟨answer, step_answered label moved _ answer answered, (step_transcript label moved answered).trans quiet⟩
    have older := waits.imp kept
    obtain ⟨_, _, rfl⟩ | ⟨task, choice, request, command, rest, reply, world, rfl, selected, executed, rfl⟩ |
      ⟨tick, world, _, drifted, rfl⟩ := systemWith_cases moved
    · exact older
    · refine ⟨?_, older⟩
      intro email found same other member finds
      cases same
      have idle : busy service config (service.hash email) = false := by
        simpa only [serialized, selected, Bool.not_eq_true'] using permitted
      refine (not_busy idle member finds).imp_right ?_
      rintro ⟨answer, answered⟩
      exact ⟨answer, step_answered _ moved _ answer answered, step_transcript _ moved answered⟩
    · exact older

/-- A request that presents a code has done nothing before it reads the code. -/
theorem nothing_before_read
    (reached : (systemWith resets service store).Reaches allowed
      ((systemWith resets service store).begin (World.empty store now) requests) config)
    {task : Nat} {email : String} (presents : PresentsCode config task email) {later past : List (Event Ports)}
    {found : OTPRecord}
    (same : config.history = later ++ ⟨task, .resets (.getOTP email), .ok found⟩ :: past) :
    transcript task past = [] := by
  obtain ⟨ctx, otp, started⟩ := presents
  obtain ⟨request, known, first⟩ :=
    (reached.disciplined (ordered_handle service)).permitted.split later _ past same
  obtain rfl : request = .verifyResetCode ctx ⟨email, otp⟩ := Option.some.inj (known.symm.trans started)
  exact first

/-- A request that has succeeded deleted the code before any later request read one. -/
theorem dropped_before_read
    (reached : (systemWith resets service store).Reaches (fun config label => serialized service config label = true)
      ((systemWith resets service store).begin (World.empty store now) requests) config)
    {first second : Nat} {email : String} {response : Response} (presents : PresentsCode config first email)
    (succeeds : config.Answered first (.ok response)) {later past : List (Event Ports)} {found found' : OTPRecord}
    (same : config.history = later ++ ⟨second, .resets (.getOTP email), .ok found'⟩ :: past)
    (read : (⟨first, .resets (.getOTP email), .ok found⟩ : Event Ports) ∈ past) :
    ∃ drop ∈ past, drop.task = first ∧ dropsCode service (service.hash email) drop.exchange = true := by
  have waits := (reaches_waits reached).split later _ past same email found' rfl _ read (decide_eq_true rfl)
  rcases waits with dropped | ⟨_, _, quiet⟩
  · exact dropped
  · obtain ⟨ctx, otp, started⟩ := presents
    obtain ⟨reply, deleted⟩ :=
      (reached.disciplined (ordered_handle service)).answered first _ _ started succeeds
    obtain ⟨_, _, _, effective⟩ := (reaches_deletes reached).mem ((mem_transcript _ _ _).mp deleted)
    obtain rfl := effective email reply rfl
    rw [quiet] at deleted
    exact ⟨_, (mem_transcript _ _ _).mp deleted, rfl, decide_eq_true rfl⟩

/-- After a request that succeeds, no request reads the code of the same save. -/
theorem no_later_read
    (reached : (systemWith resets service store).Reaches (fun config label => serialized service config label = true)
      ((systemWith resets service store).begin (World.empty store now) requests) config)
    {first second : Nat} {email : String} {response : Response} (presents : PresentsCode config first email)
    (succeeds : config.Answered first (.ok response)) {later middle past : List (Event Ports)}
    {found found' : OTPRecord}
    (same : config.history = later ++ ⟨second, .resets (.getOTP email), .ok found'⟩ ::
      (middle ++ ⟨first, .resets (.getOTP email), .ok found⟩ :: past))
    (unsaved : ∀ event ∈ middle, savesCode service (service.hash email) event.exchange = false) : False := by
  have stored := (reaches_readsStored reached).split later _ _ same email found' rfl
  obtain ⟨drop, member, own, drops⟩ := dropped_before_read reached presents succeeds same
    (List.mem_append_right _ List.mem_cons_self)
  rcases List.mem_append.mp member with inside | outside
  · rw [codeStored_dropped unsaved ⟨drop, inside, drops⟩] at stored
    cases stored
  · rcases List.mem_cons.mp outside with rfl | before
    · cases drops
    · have whole : config.history = (later ++ ⟨second, .resets (.getOTP email), .ok found'⟩ :: middle) ++
          ⟨first, .resets (.getOTP email), .ok found⟩ :: past := by
        rw [same, List.append_assoc, List.cons_append]
      have nothing := nothing_before_read reached presents whole
      have performed : drop.exchange ∈ transcript first past := (mem_transcript _ _ _).mpr (own ▸ before)
      rw [nothing] at performed
      cases performed

end Runs

/-- In every run from empty stores, with either reset store and any requests, in which each code is read only
while no other request is between its read and its deletion of a code for that address, and no deletion of a
code fails: of the requests that read the code of one save, at most one returns a reset token. -/
theorem code_single_use (service : Service) (resets : ResetBackend) (store : SessionStore) (now : Time) :
    let auth := systemWith resets service store
    let initial := auth.begin (World.empty store now) []
    ∀ config, auth.Reaches (fun config label => serialized service config label = true) initial config →
      ∀ email save past first second, PresentsCode config first email → PresentsCode config second email →
        ReadsSave service config.history email save past first →
        ReadsSave service config.history email save past second →
        (∃ token, config.Answered first (.ok (.verifyResetCode token))) →
        (∃ token, config.Answered second (.ok (.verifyResetCode token))) → first = second := by
  rintro auth initial config reached email save past first second presents presents'
    ⟨later, found, between, same, unsaved⟩ ⟨later', found', between', same', unsaved'⟩
    ⟨token, succeeds⟩ ⟨token', succeeds'⟩
  have reads : later ++ ⟨first, .resets (.getOTP email), .ok found⟩ :: between =
      later' ++ ⟨second, .resets (.getOTP email), .ok found'⟩ :: between' := by
    apply (List.append_left_inj (save :: past)).mp
    rw [List.append_assoc, List.append_assoc, List.cons_append, List.cons_append, ← same, ← same']
  rcases List.append_eq_append_iff.mp reads with ⟨middle, _, split⟩ | ⟨middle, _, split⟩
  · cases middle with
    | nil =>
        cases split
        rfl
    | cons event middle =>
        rw [List.cons_append] at split
        obtain ⟨rfl, rfl⟩ := List.cons.inj split
        rw [List.append_assoc, List.cons_append] at same
        exact (no_later_read reached presents' succeeds' same fun event member =>
          unsaved event (List.mem_append_left _ member)).elim
  · cases middle with
    | nil =>
        cases split
        rfl
    | cons event middle =>
        rw [List.cons_append] at split
        obtain ⟨rfl, rfl⟩ := List.cons.inj split
        rw [List.append_assoc, List.cons_append] at same'
        exact (no_later_read reached presents succeeds same' fun event member =>
          unsaved' event (List.mem_append_left _ member)).elim

/-- The task that found the code of the address at an event. -/
def readsCode (email : String) : Event Ports → Option Nat
  | ⟨task, .resets (.getOTP address), .ok _⟩ => if address = email then some task else none
  | _ => none

theorem readsCode_eq_some {email : String} {event : Event Ports} {task : Nat}
    (reads : readsCode email event = some task) :
    ∃ found, event = ⟨task, .resets (.getOTP email), .ok found⟩ := by
  unfold readsCode at reads
  split at reads
  · rename_i found
    split at reads
    · rename_i same
      subst same
      cases reads
      exact ⟨found, rfl⟩
    · cases reads
  · cases reads

theorem drop_of_getElem? {history : List (Event Ports)} {index : Nat} {event : Event Ports}
    (present : history[index]? = some event) : history.drop index = event :: history.drop (index + 1) := by
  obtain ⟨inside, rfl⟩ := List.getElem?_eq_some_iff.mp present
  exact List.drop_eq_getElem_cons inside

/-- A read at one place of the history is a read of the save at an older place when no save lies between. -/
theorem readsSave_of_places {service : Service} {history : List (Event Ports)} {email : String} {task : Nat}
    {save : Event Ports} (place gap : Nat) (read : (history[place]?).bind (readsCode email) = some task)
    (saved : history[place + 1 + gap]? = some save)
    (unsaved : ∀ event ∈ (history.drop (place + 1)).take gap,
      savesCode service (service.hash email) event.exchange = false) :
    ReadsSave service history email save (history.drop (place + 1 + gap + 1)) task := by
  obtain ⟨event, present, reads⟩ := Option.bind_eq_some_iff.mp read
  obtain ⟨found, rfl⟩ := readsCode_eq_some reads
  refine ⟨history.take place, found, (history.drop (place + 1)).take gap, ?_, unsaved⟩
  have rest : (history.drop (place + 1)).take gap ++ save :: history.drop (place + 1 + gap + 1) =
      history.drop (place + 1) := by
    rw [← drop_of_getElem? saved, ← List.drop_drop (i := gap), List.take_append_drop]
  rw [rest, ← drop_of_getElem? present, List.take_append_drop]

/-- Two requests present the same code. -/
def twoVerifications : List Request :=
  [.register bareContext ⟨"a@b.co", "passw0rd"⟩, .requestPasswordReset bareContext "a@b.co",
    .verifyResetCode bareContext ⟨"a@b.co", "000007"⟩, .verifyResetCode bareContext ⟨"a@b.co", "000007"⟩]

/-- The steps that save the code. -/
def saveCode : List ServiceLabel := advances 0 4 { id := "user" } ++ advances 1 3 { otp := 7 }

/-- In this run of reliable calls, both requests read and count the code before either deletes it, and both
return a reset token. -/
theorem code_used_twice :
    let auth := systemWith .redis sample (postgres exactDatabase)
    ∃ config save past, auth.Reaches (fun config label => reliable config label = true)
        (auth.begin (World.empty _ 0) []) config ∧
      PresentsCode config 2 "a@b.co" ∧ PresentsCode config 3 "a@b.co" ∧
      ReadsSave sample config.history "a@b.co" save past 2 ∧ ReadsSave sample config.history "a@b.co" save past 3 ∧
      config.Answered 2 (.ok (.verifyResetCode "one")) ∧ config.Answered 3 (.ok (.verifyResetCode "two")) := by
  intro auth
  let labels := saveCode ++ advances 2 1 {} ++ advances 3 1 {} ++ advances 2 1 {} ++ advances 3 1 {} ++
    advances 2 3 { token := "one" } ++ advances 3 3 { token := "two" }
  obtain ⟨config, reached, checked⟩ :
      ∃ config, auth.Reaches (fun config label => reliable config label = true)
          (auth.begin (World.empty _ 0) twoVerifications) config ∧
        ((config.history[10]?).any fun _ => decide
          ((config.history[9]?).bind (readsCode "a@b.co") = some 2 ∧
            (config.history[8]?).bind (readsCode "a@b.co") = some 3 ∧
            (∀ event ∈ (config.history.drop 9).take 1, savesCode sample "#a@b.co" event.exchange = false) ∧
            config.answer? 2 = some (.ok (.verifyResetCode "one")) ∧
            config.answer? 3 = some (.ok (.verifyResetCode "two")))) = true :=
    exists_of_run labels _ (by decide +kernel)
  obtain ⟨save, saved, facts⟩ := (Option.any_eq_true _ _).mp checked
  obtain ⟨read, read', unsaved, answered, answered'⟩ := of_decide_eq_true facts
  have started : auth.Reaches (fun config label => reliable config label = true) (auth.begin (World.empty _ 0) [])
      (auth.begin (World.empty _ 0) twoVerifications) := reaches_started _ _ fun _ _ => rfl
  exact ⟨config, save, _, started.trans reached, ⟨bareContext, "000007", reached.request 2 _ rfl⟩,
    ⟨bareContext, "000007", reached.request 3 _ rfl⟩, readsSave_of_places 9 0 read saved (by simp),
    readsSave_of_places 8 1 read' saved unsaved, Config.answered_of_answer? answered,
    Config.answered_of_answer? answered'⟩

/-- In this run the second request finds no code, and only the first returns a reset token. -/
theorem code_used_once :
    let auth := systemWith .memory sample (postgres exactDatabase)
    ∃ config save past, auth.Reaches (fun config label => serialized sample config label = true)
        (auth.begin (World.empty _ 0) []) config ∧
      PresentsCode config 2 "a@b.co" ∧ ReadsSave sample config.history "a@b.co" save past 2 ∧
      config.Answered 2 (.ok (.verifyResetCode "one")) ∧
      ∀ other, PresentsCode config other "a@b.co" → ReadsSave sample config.history "a@b.co" save past other →
        (∃ token, config.Answered other (.ok (.verifyResetCode token))) → 2 = other := by
  intro auth
  let labels := saveCode ++ advances 2 3 { token := "one" } ++ advances 3 1 {} ++ advances 2 2 { token := "one" }
  obtain ⟨config, reached, checked⟩ :
      ∃ config, auth.Reaches (fun config label => serialized sample config label = true)
          (auth.begin (World.empty _ 0) twoVerifications) config ∧
        ((config.history[6]?).any fun _ => decide
          ((config.history[5]?).bind (readsCode "a@b.co") = some 2 ∧
            config.answer? 2 = some (.ok (.verifyResetCode "one")))) = true :=
    exists_of_run labels _ (by decide +kernel)
  obtain ⟨save, saved, facts⟩ := (Option.any_eq_true _ _).mp checked
  obtain ⟨read, answered⟩ := of_decide_eq_true facts
  have started : auth.Reaches (fun config label => serialized sample config label = true)
      (auth.begin (World.empty _ 0) []) (auth.begin (World.empty _ 0) twoVerifications) :=
    reaches_started _ _ fun _ _ => rfl
  have whole := started.trans reached
  have presents : PresentsCode config 2 "a@b.co" := ⟨bareContext, "000007", reached.request 2 _ rfl⟩
  have reads : ReadsSave sample config.history "a@b.co" save _ 2 := readsSave_of_places 5 0 read saved (by simp)
  have succeeds := Config.answered_of_answer? answered
  refine ⟨config, save, _, whole, presents, reads, succeeds, ?_⟩
  intro other presents' reads' succeeds'
  exact code_single_use sample .memory (postgres exactDatabase) 0 config whole "a@b.co" save _ 2 other
    presents presents' reads reads' ⟨"one", succeeds⟩ succeeds'

end AuthService
