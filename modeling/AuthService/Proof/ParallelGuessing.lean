/-
This file proves when the lockout bounds the passwords that parallel logins can try.
-/

import AuthService.Proof.AccountLockout
import AuthService.Proof.ResetRecords
import AuthService.Proof.Users

namespace AuthService
open Interleaving Program System

/-- The lockout check let the request pass. -/
def passesCheck : Exchange Ports → Bool
  | ⟨.guard (.isLocked _), .ok true⟩ => false
  | ⟨.guard (.isLocked _), _⟩ => true
  | _ => false

theorem passesCheck_of_ne {email : String} {reply : Except StoreError Bool} (other : reply ≠ .ok true) :
    passesCheck ⟨.guard (.isLocked email), reply⟩ = true := by
  unfold passesCheck
  split
  · rename_i same
    cases same
    exact absurd rfl other
  · rfl
  · rename_i none
    exact absurd rfl (none _ _)

/-- The request has read the stored hash and checks its password against it. -/
def checksPassword : Exchange Ports → Bool
  | ⟨.users (.getByEmail _), .ok _⟩ => true
  | _ => false

def recordsFailure : Exchange Ports → Bool
  | ⟨.guard (.recordFailure _), _⟩ => true
  | _ => false

/-- The request has recorded its failure or read no user. -/
def settles : Exchange Ports → Bool
  | ⟨.users (.getByEmail _), .error _⟩ => true
  | exchange => recordsFailure exchange

/-- The tasks of the events of one kind. -/
def tasksOf (kind : Exchange Ports → Bool) (history : List (Event Ports)) : List Nat :=
  (history.filter fun event => kind event.exchange).map Event.task

section Tasks
variable {kind : Exchange Ports → Bool} {history : List (Event Ports)} {task : Nat}

theorem mem_tasksOf : task ∈ tasksOf kind history ↔ ∃ exchange ∈ transcript task history, kind exchange = true := by
  simp only [tasksOf, List.mem_map, List.mem_filter, mem_transcript]
  constructor
  · rintro ⟨event, ⟨member, same⟩, rfl⟩
    exact ⟨event.exchange, member, same⟩
  · rintro ⟨exchange, member, same⟩
    exact ⟨⟨task, exchange⟩, ⟨member, same⟩, rfl⟩

theorem not_mem_tasksOf (none : ∀ exchange ∈ transcript task history, kind exchange = false) :
    task ∉ tasksOf kind history := by
  intro member
  obtain ⟨exchange, inside, same⟩ := mem_tasksOf.mp member
  exact Bool.false_ne_true ((none exchange inside).symm.trans same)

end Tasks

/-- Every request that passed the lockout check has settled. -/
def idle (history : List (Event Ports)) : Bool :=
  (tasksOf passesCheck history).all fun task => decide (task ∈ tasksOf settles history)

theorem settled_of_idle {history : List (Event Ports)} (quiet : idle history = true) :
    ∀ task ∈ tasksOf passesCheck history, task ∈ tasksOf settles history := fun task passed =>
  of_decide_eq_true (List.all_eq_true.mp quiet task passed)

/-- The time lies within the window and the lockout that would begin at the start. -/
def within (settings : GuardConfig) (start now : Time) : Bool :=
  decide (start ≤ now) && decide (now ≤ start + wholeSeconds settings.window * second) &&
    (redisExpiry start settings.lockoutTTL).all fun expiry => decide (now ≤ expiry)

/-- The run consists of logins for one address with wrong passwords, Redis answers, and the clock stays within one
window and one lockout. -/
def guessing {store : SessionStore} (service : Service) (settings : GuardConfig) (email : String) (user : User)
    (start : Time) (_ : ServiceConfig store) : ServiceLabel → Bool
  | .start (.login _ req) =>
      decide (req.email = email ∧ service.verifyPassword req.password user.passwordHash = some false)
  | .start _ => false
  | .advance _ choice => !choice.down 0 && !choice.down 1 && !choice.down 2
  | .drift (.clock time) => within settings start time
  | .drift (.evict _) => true

/-- A request checks the lockout only while no other request is between its own check and its own
`RecordFailure`. -/
def unhurried {store : SessionStore} (config : ServiceConfig store) : ServiceLabel → Bool
  | .advance task _ =>
      match config.tasks[task]? with
      | some ⟨_, .call (.guard (.isLocked _)) _⟩ => idle config.history
      | _ => true
  | _ => true

section Conduct
variable {service : Service} {settings : GuardConfig}

/-- The calls of a login to the guard and the users table come in one order. -/
def GuessOrder (service : Service) (req : LoginRequest) (past : Past) : Command → Prop
  | .guard (.isLocked email) => email = req.email ∧ past = []
  | .users (.getByEmail email) => email = req.email ∧
      ∃ reply, reply ≠ .ok true ∧ past = [⟨.guard (.isLocked req.email), reply⟩]
  | .users _ => False
  | .guard (.recordFailure email) => email = req.email ∧ ∃ user reply, reply ≠ .ok true ∧
      past = [⟨.users (.getByEmail req.email), .ok user⟩, ⟨.guard (.isLocked req.email), reply⟩]
  | .guard (.reset _) => ∃ user, (⟨.users (.getByEmail req.email), .ok user⟩ : Exchange Ports) ∈ past ∧
      service.verifyPassword req.password user.passwordHash = some true
  | _ => True

/-- The calls that concern neither the guard nor the users table. -/
def Calm : Command → Prop
  | .guard _ | .users _ => False
  | _ => True

theorem follows_calm {req : LoginRequest} {A : Type} {program : Program Ports A} (only : program.Only Calm)
    (past : Past) : program.Follows (GuessOrder service req) (fun _ _ => True) past := by
  refine follows_of_only only ?_ (fun _ _ _ _ _ => trivial) past trivial
  intro past command calm
  cases command with
  | guard => exact calm.elim
  | users => exact calm.elim
  | _ => trivial

/-- A login with a right password clears the guard and then leaves it alone. -/
theorem calm_loginEnd (ctx : Context) (req : LoginRequest) (user : User) :
    (do
      let accessToken ← orInternal (← tokenMgr (.generate ⟨user.id, user.email, ["user"]⟩))
      let plainRefresh ← orInternal (← draw .token)
      let now ← clock
      let built := loginSession service ctx req user plainRefresh now
      let sess ← orInternalError (← sessionStore (.create built))
      cacheSession built.tokenHash ⟨sess.id, user.id, user.email, built.deviceID, sess.expiresAt⟩
      let details := [("email", user.email), ("device_id", built.deviceID), ("session_id", sess.id)]
      report (some user.id) user.id user.email .loginSuccess (extractClientInfo ctx) details details
      return .login accessToken plainRefresh : Handler Response).run.Only Calm := by
  refine only_run_bind (only_run_perform trivial) fun signed => ?_
  refine only_run_bind (only_orInternal _) fun accessToken => ?_
  refine only_run_bind (only_run_perform trivial) fun drawn => ?_
  refine only_run_bind (only_orInternal _) fun plainRefresh => ?_
  refine only_run_bind (only_run_perform trivial) fun now => ?_
  refine only_run_bind (only_run_perform trivial) fun created => ?_
  refine only_run_bind (only_orInternalError _) fun sess => ?_
  refine only_run_bind (only_cacheSession Calm trivial (fun _ _ _ => trivial) _ _) fun _ => ?_
  exact only_run_bind (only_report Calm (fun _ => trivial) _ _ _ _ _ _ _) fun _ => trivial

/-- A login with the guard keeps the order. -/
theorem order_login (guarded : service.bruteGuard = some settings) (ctx : Context) (req : LoginRequest) :
    (login service ctx req).run.Follows (GuessOrder service req) (fun _ _ => True) [] := by
  unfold login
  simp only [follows_run_bind]
  apply follows_checkArgument
  · intro status
    trivial
  rw [continues_ok, follows_run_bind, checkLockout, if_pos (guarded ▸ rfl), follows_run_bind]
  refine follows_call ⟨rfl, rfl⟩ fun checked => ?_
  rw [continues_ok]
  split
  · exact follows_reportThrow _ (fun _ _ => trivial) (fun _ => trivial) ..
  rename_i passed
  rw [follows_run_pure, continues_ok, follows_run_bind, getLoginUser, follows_run_bind]
  refine follows_call ⟨rfl, checked, passed, rfl⟩ fun read => ?_
  rw [continues_ok]
  cases read with
  | error error =>
      dsimp only
      split
      · exact follows_reportThrow _ (fun _ _ => trivial) (fun _ => trivial) ..
      · trivial
  | ok user =>
      dsimp only
      rw [follows_run_pure, continues_ok, follows_run_bind, checkLoginPassword, follows_run_bind]
      apply follows_orInternal
      · intro _
        trivial
      intro isMatch verified
      rw [continues_ok]
      split
      · rename_i right
        rw [follows_run_pure, continues_ok, follows_run_bind, resetGuard, if_pos (guarded ▸ rfl)]
        refine follows_call ⟨user, List.mem_cons_self, right ▸ verified⟩ fun _ => ?_
        exact follows_calm (calm_loginEnd ctx req user) _
      · rw [follows_run_bind, recordFailure, if_pos (guarded ▸ rfl), follows_run_bind]
        refine follows_call ⟨rfl, user, checked, passed, rfl⟩ fun recorded => ?_
        rw [continues_ok]
        split
        · exact follows_reportThrow _ (fun _ _ => trivial) (fun _ => trivial) ..
        · exact follows_reportThrow _ (fun _ _ => trivial) (fun _ => trivial) ..

/-- The order for every request. -/
def OrderOf (service : Service) : Request → Past → Command → Prop
  | .login _ req => GuessOrder service req
  | _ => fun _ _ => True

theorem order_handle (guarded : service.bruteGuard = some settings) (request : Request) :
    (handle service request).run.Follows (OrderOf service request) (fun _ _ => True) [] := by
  cases request with
  | login ctx req => exact order_login guarded ctx req
  | _ => exact follows_anything (fun _ _ => trivial) (fun _ _ => trivial) _ _

end Conduct

section Window
variable {settings : GuardConfig} {start now time : Time} {email : String} {guard : GuardState} {count : Nat}

/-- A window of at least one second contains its start. -/
theorem within_self (window : second ≤ settings.window) : within settings start start = true := by
  have whole : 0 ≤ wholeSeconds settings.window * second :=
    Int.mul_nonneg (Int.le_of_lt (wholeSeconds_pos window)) (by decide)
  simp only [within, Bool.and_eq_true, decide_eq_true_eq]
  refine ⟨⟨Int.le_refl _, Int.le_add_of_nonneg_right whole⟩, ?_⟩
  unfold redisExpiry
  split
  · rfl
  · exact decide_eq_true (Int.le_add_of_nonneg_right (Int.le_trans (by decide) (Int.le_max_left ..)))

/-- What begins within the window is still there at every other time within it. -/
theorem within_window (first : within settings start now = true) (later : within settings start time = true) :
    time ≤ now + wholeSeconds settings.window * second := by
  simp only [within, Bool.and_eq_true, decide_eq_true_eq] at first later
  exact Int.le_trans later.1.2 (Int.add_le_add_right first.1.1 _)

theorem within_lockout (first : within settings start now = true) (later : within settings start time = true) :
    (⟨(), redisExpiry now settings.lockoutTTL⟩ : Expiring Unit).visible time = true := by
  simp only [within, Bool.and_eq_true, decide_eq_true_eq] at first later
  obtain ⟨⟨begun, _⟩, _⟩ := first
  obtain ⟨_, locked⟩ := later
  unfold Expiring.visible redisExpiry
  unfold redisExpiry at locked
  by_cases forever : settings.lockoutTTL ≤ 0
  · rw [if_pos forever]
  · rw [if_neg forever] at locked ⊢
    exact decide_eq_true (Int.le_trans (of_decide_eq_true locked) (Int.add_le_add_right begun _))

/-- The Redis keys after a number of failures within the window. -/
structure GuardAt (settings : GuardConfig) (start : Time) (email : String) (count : Nat) (guard : GuardState) :
    Prop where
  counting : (count : Int) < settings.maxAttempts → ∀ now, within settings start now = true →
    lookup guard.attempts now email = if count = 0 then none else some (count : Int)
  locked : settings.maxAttempts ≤ count → ∀ now, within settings start now = true →
    (lookup guard.locked now email).isSome = true

/-- No failure has been counted while no counter is visible. -/
theorem GuardAt.initial (positive : 1 ≤ settings.maxAttempts) (fresh : lookup guard.attempts start email = none) :
    GuardAt settings start email 0 guard := by
  refine ⟨fun _ time later => ?_, fun reached => absurd (Int.le_trans positive reached) (by decide)⟩
  simp only [within, Bool.and_eq_true, decide_eq_true_eq] at later
  exact lookup_none later.1.1 fresh

/-- Within the window the script counts one more failure. -/
theorem luaIncrExpire_within (window : second ≤ settings.window) (current : within settings start now = true)
    (counting : ∀ now, within settings start now = true →
      lookup guard.attempts now email = if count = 0 then none else some (count : Int)) :
    (guard.luaIncrExpire (wholeSeconds settings.window) now email).1 = count + 1 ∧
      ∀ time, within settings start time = true →
        lookup (guard.luaIncrExpire (wholeSeconds settings.window) now email).2.attempts time email =
          some ((count : Int) + 1) := by
  have found : (lookup guard.attempts now email).getD 0 = count := by
    rw [counting now current]
    split
    · rename_i zero
      rw [zero]
      rfl
    · rfl
  have positive : ¬ wholeSeconds settings.window ≤ 0 := Int.not_le.mpr (wholeSeconds_pos window)
  rw [GuardState.luaIncrExpire_eq]
  refine ⟨?_, fun time later => ?_⟩
  · rw [luaIncrExpire_value, found]
  · have alive := (counting time later).trans (counting now current).symm
    rw [luaIncrExpire_later positive alive (within_window current later), found]

/-- A failure within the window is counted, and the one that reaches the limit locks the address. -/
theorem GuardAt.recordFailure {down : Nat → Bool} (answers : down 0 = false ∧ down 1 = false ∧ down 2 = false)
    (window : second ≤ settings.window) (current : within settings start now = true)
    (held : GuardAt settings start email count guard) (room : (count : Int) < settings.maxAttempts) :
    GuardAt settings start email (count + 1) (guard.recordFailure settings down now email).2 := by
  obtain ⟨counted, kept⟩ := luaIncrExpire_within window current (held.counting room)
  unfold GuardState.recordFailure
  simp only [answers, if_neg Bool.false_ne_true, counted]
  by_cases limit : settings.maxAttempts ≤ (count : Int) + 1
  · simp only [if_pos limit]
    refine ⟨fun below => absurd below (by omega), fun _ time later => ?_⟩
    rw [lookup_update (within_lockout current later)]
    rfl
  · simp only [if_neg limit]
    refine ⟨fun _ time later => ?_, fun reached => absurd reached (by omega)⟩
    rw [kept time later, if_neg (Nat.succ_ne_zero _)]
    rfl

/-- An address that is not locked has had fewer failures than the limit. -/
theorem GuardAt.below (current : within settings start now = true) (held : GuardAt settings start email count guard)
    (unlocked : (lookup guard.locked now email).isSome = false) : (count : Int) < settings.maxAttempts := by
  by_contra reached
  have locked := held.locked (Int.not_lt.mp reached) now current
  rw [unlocked] at locked
  cases locked

end Window

/-- The account of a run, by the tasks that have passed the lockout check, checked a password, recorded a failure
and settled. Each checked password is recorded or its task is underway, at most one task is underway, and while
one is underway the limit is not reached. -/
structure Gauge (limit : Int) (passed checked recorded settled : List Nat) : Prop where
  once : checked.Nodup
  accounted : ∀ task ∈ checked, task ∈ recorded ∨ task ∈ passed ∧ task ∉ settled
  single : ∀ first ∈ passed, ∀ second ∈ passed, first ∉ settled → second ∉ settled → first = second
  room : ∀ task ∈ passed, task ∉ settled → (recorded.length : Int) < limit
  bound : (recorded.length : Int) ≤ limit

namespace Gauge
variable {limit : Int} {passed checked recorded settled : List Nat} {task : Nat}

theorem empty (positive : 0 ≤ limit) : Gauge limit [] [] [] [] where
  once := List.nodup_nil
  accounted := fun _ member => absurd member List.not_mem_nil
  single := fun _ member => absurd member List.not_mem_nil
  room := fun _ member => absurd member List.not_mem_nil
  bound := positive

/-- At most the limit of passwords has been checked. -/
theorem checked_le (gauge : Gauge limit passed checked recorded settled) : (checked.length : Int) ≤ limit := by
  by_cases running : ∃ task ∈ passed, task ∉ settled
  · obtain ⟨task, inside, unsettled⟩ := running
    have covered : checked ⊆ task :: recorded := by
      intro other member
      rcases gauge.accounted other member with known | ⟨inside', unsettled'⟩
      · exact List.mem_cons_of_mem _ known
      · exact gauge.single other inside' task inside unsettled' unsettled ▸ List.mem_cons_self
    have length := (List.subperm_of_subset gauge.once covered).length_le
    have room := gauge.room task inside unsettled
    rw [List.length_cons] at length
    omega
  · have covered : checked ⊆ recorded := by
      intro other member
      refine (gauge.accounted other member).resolve_right ?_
      rintro ⟨inside, unsettled⟩
      exact running ⟨other, inside, unsettled⟩
    have length := (List.subperm_of_subset gauge.once covered).length_le
    have bound := gauge.bound
    omega

/-- A task passes while no other one is underway and the limit is not reached. -/
theorem pass (gauge : Gauge limit passed checked recorded settled) (idle : ∀ task ∈ passed, task ∈ settled)
    (below : (recorded.length : Int) < limit) : Gauge limit (task :: passed) checked recorded settled where
  once := gauge.once
  accounted := fun other member =>
    .inl ((gauge.accounted other member).resolve_right fun running => running.2 (idle other running.1))
  single := by
    intro first left second right running running'
    rcases List.mem_cons.mp left with rfl | inside
    · rcases List.mem_cons.mp right with rfl | inside'
      · rfl
      · exact absurd (idle second inside') running'
    · exact absurd (idle first inside) running
  room := fun _ _ _ => below
  bound := gauge.bound

/-- A task that is underway checks its password once. -/
theorem check (gauge : Gauge limit passed checked recorded settled) (inside : task ∈ passed)
    (unsettled : task ∉ settled) (unchecked : task ∉ checked) :
    Gauge limit passed (task :: checked) recorded settled where
  once := List.nodup_cons.mpr ⟨unchecked, gauge.once⟩
  accounted := by
    intro other member
    rcases List.mem_cons.mp member with rfl | before
    · exact .inr ⟨inside, unsettled⟩
    · exact gauge.accounted other before
  single := gauge.single
  room := gauge.room
  bound := gauge.bound

/-- A task that has checked no password settles without a record. -/
theorem miss (gauge : Gauge limit passed checked recorded settled) (unchecked : task ∉ checked) :
    Gauge limit passed checked recorded (task :: settled) where
  once := gauge.once
  accounted := by
    intro other member
    refine (gauge.accounted other member).imp_right fun running => ⟨running.1, ?_⟩
    rw [List.mem_cons, not_or]
    exact ⟨fun same => unchecked (same ▸ member), running.2⟩
  single := fun first left second right running running' => gauge.single first left second right
    (fun settled => running (List.mem_cons_of_mem _ settled)) fun settled => running' (List.mem_cons_of_mem _ settled)
  room := fun other member running => gauge.room other member fun settled => running (List.mem_cons_of_mem _ settled)
  bound := gauge.bound

/-- The task that is underway records its failure and settles. -/
theorem record (gauge : Gauge limit passed checked recorded settled) (inside : task ∈ passed)
    (unsettled : task ∉ settled) : Gauge limit passed checked (task :: recorded) (task :: settled) where
  once := gauge.once
  accounted := by
    intro other member
    by_cases same : other = task
    · exact .inl (same ▸ List.mem_cons_self)
    · refine (gauge.accounted other member).imp (List.mem_cons_of_mem _) fun running => ⟨running.1, ?_⟩
      rw [List.mem_cons, not_or]
      exact ⟨same, running.2⟩
  single := by
    intro first left second right running running'
    rw [List.mem_cons, not_or] at running running'
    exact gauge.single first left second right running.2 running'.2
  room := by
    intro other member running
    rw [List.mem_cons, not_or] at running
    exact absurd (gauge.single other member task inside running.2 unsettled) running.1
  bound := by
    have room := gauge.room task inside unsettled
    rw [List.length_cons]
    omega

end Gauge

/-- The account of a history. -/
def Accounts (limit : Int) (history : List (Event Ports)) : Prop :=
  Gauge limit (tasksOf passesCheck history) (tasksOf checksPassword history) (tasksOf recordsFailure history)
    (tasksOf settles history)

/-- What the run keeps: the users table, the clock within the window, the keys of the guard, the user that was read
and the account. -/
structure Tracked {store : SessionStore} (settings : GuardConfig) (email : String) (user : User) (base : World store)
    (world : World store) (history : List (Event Ports)) : Prop where
  users : world.users = base.users
  current : within settings base.now world.now = true
  guard : GuardAt settings base.now email (tasksOf recordsFailure history).length world.guard
  read : ∀ event ∈ history, ∀ found, readUser event = some found → found = user
  accounts : Accounts settings.maxAttempts history

namespace Tracked
variable {service : Service} {store : SessionStore} {settings : GuardConfig} {email : String} {user : User}
variable {base world next : World store} {history : List (Event Ports)} {choice : Choice} {task : Nat}

theorem read_cons (tracked : Tracked settings email user base world history) {event : Event Ports}
    (unread : readUser event = none) :
    ∀ other ∈ event :: history, ∀ found, readUser other = some found → found = user := by
  intro other member found known
  rcases List.mem_cons.mp member with rfl | before
  · rw [unread] at known
    cases known
  · exact tracked.read other before found known

/-- A call that concerns neither the guard nor the users table keeps everything. -/
theorem calm {command : Command} {reply : command.Reply} (tracked : Tracked settings email user base world history)
    (other : Calm command) (changes : Changes world command next) :
    Tracked settings email user base next (⟨task, command, reply⟩ :: history) := by
  have now := changes.keeps_now
  cases command with
  | guard => exact other.elim
  | users => exact other.elim
  | _ =>
      exact ⟨(changes.keeps_users nofun).trans tracked.users, now ▸ tracked.current,
        changes.keeps_guard nofun ▸ tracked.guard, tracked.read_cons rfl, tracked.accounts⟩

/-- The lockout check lets a request pass only below the limit. -/
theorem isLocked (tracked : Tracked settings email user base world history)
    (guarded : service.bruteGuard = some settings) (answers : choice.down 0 = false) (quiet : idle history = true)
    {reply : Except StoreError Bool}
    (executed : exec service (.guard (.isLocked email)) choice world = some (reply, next)) :
    Tracked settings email user base next (⟨task, .guard (.isLocked email), reply⟩ :: history) := by
  have checked : world.guard.isLocked (choice.down 0) world.now email =
      ((lookup world.guard.locked world.now email).isSome, world.guard) := by
    rw [answers]
    rfl
  have performed := exec_guard guarded executed
  simp only [execGuard, checked] at performed
  obtain ⟨rfl, rfl⟩ := Prod.mk.inj performed
  refine ⟨tracked.users, tracked.current, tracked.guard, tracked.read_cons rfl, ?_⟩
  cases locked : (lookup world.guard.locked world.now email).isSome with
  | true => exact tracked.accounts
  | false =>
      exact Gauge.pass tracked.accounts (settled_of_idle quiet) (tracked.guard.below tracked.current locked)

/-- A request that passed the check reads the user and checks its password once, or reads nothing. -/
theorem getByEmail (tracked : Tracked settings email user base world history)
    (registered : base.users.getByEmail email = .ok user) {checked : Except StoreError Bool}
    (passed : checked ≠ .ok true) (past : transcript task history = [⟨.guard (.isLocked email), checked⟩])
    {reply : Except StoreError User}
    (executed : exec service (.users (.getByEmail email)) choice world = some (reply, next)) :
    Tracked settings email user base next (⟨task, .users (.getByEmail email), reply⟩ :: history) := by
  obtain ⟨users, performed, rfl⟩ := exec_users executed
  obtain ⟨replied, rfl⟩ := Prod.mk.inj (Option.some.inj performed)
  have unchecked : task ∉ tasksOf checksPassword history :=
    not_mem_tasksOf (past ▸ List.forall_mem_singleton.mpr rfl)
  by_cases fails : choice.fails = true
  · rw [if_pos fails] at replied
    subst replied
    exact ⟨tracked.users, tracked.current, tracked.guard, tracked.read_cons rfl,
      Gauge.miss tracked.accounts unchecked⟩
  · rw [if_neg fails, tracked.users, registered] at replied
    subst replied
    have inside : task ∈ tasksOf passesCheck history :=
      mem_tasksOf.mpr ⟨_, past ▸ List.mem_singleton_self _, passesCheck_of_ne passed⟩
    have unsettled : task ∉ tasksOf settles history := not_mem_tasksOf (past ▸ List.forall_mem_singleton.mpr rfl)
    refine ⟨tracked.users, tracked.current, tracked.guard, ?_, Gauge.check tracked.accounts inside unsettled unchecked⟩
    exact List.forall_mem_cons.mpr ⟨fun _ found => (Option.some.inj found).symm, tracked.read⟩

/-- The request that is underway records its failure in the counter. -/
theorem recordFailure (tracked : Tracked settings email user base world history)
    (guarded : service.bruteGuard = some settings) (window : second ≤ settings.window)
    (answers : choice.down 0 = false ∧ choice.down 1 = false ∧ choice.down 2 = false)
    {checked : Except StoreError Bool} {found : User} (passed : checked ≠ .ok true)
    (past : transcript task history =
      [⟨.users (.getByEmail email), .ok found⟩, ⟨.guard (.isLocked email), checked⟩])
    {reply : Except StoreError Bool}
    (executed : exec service (.guard (.recordFailure email)) choice world = some (reply, next)) :
    Tracked settings email user base next (⟨task, .guard (.recordFailure email), reply⟩ :: history) := by
  obtain ⟨rfl, rfl⟩ := Prod.mk.inj (exec_guard guarded executed)
  have inside : task ∈ tasksOf passesCheck history :=
    mem_tasksOf.mpr ⟨_, past ▸ List.mem_cons_of_mem _ (List.mem_singleton_self _), passesCheck_of_ne passed⟩
  have unsettled : task ∉ tasksOf settles history :=
    not_mem_tasksOf (past ▸ List.forall_mem_cons.mpr ⟨rfl, List.forall_mem_singleton.mpr rfl⟩)
  have room := Gauge.room tracked.accounts task inside unsettled
  exact ⟨tracked.users, tracked.current, tracked.guard.recordFailure answers window tracked.current room,
    tracked.read_cons rfl, Gauge.record tracked.accounts inside unsettled⟩

end Tracked

section Runs
variable {service : Service} {store : SessionStore} {settings : GuardConfig} {email : String} {user : User}
variable {base : World store} {config : ServiceConfig store}

/-- Every task is a login for the address with a wrong password. -/
theorem guessing_request {allowed : ServiceConfig store → ServiceLabel → Prop} {start : Time}
    (guesses : ∀ config label, allowed config label → guessing service settings email user start config label = true)
    (reached : (system service store).Reaches allowed ((system service store).begin base []) config) {task : Nat}
    {request : Request} (known : config.request task = some request) :
    ∃ ctx req, request = .login ctx req ∧ req.email = email ∧
      service.verifyPassword req.password user.passwordHash = some false := by
  obtain ⟨before, _, _, _, permitted, _⟩ := reached.started rfl known
  have started := guesses before (.start request) permitted
  cases request with
  | login ctx req => exact ⟨ctx, req, rfl, of_decide_eq_true started⟩
  | _ => cases started

theorem reaches_tracked (guarded : service.bruteGuard = some settings) (positive : 1 ≤ settings.maxAttempts)
    (window : second ≤ settings.window) (registered : base.users.getByEmail email = .ok user)
    (fresh : lookup base.guard.attempts base.now email = none)
    (reached : (system service store).Reaches (fun config label =>
      (guessing service settings email user base.now config label && unhurried config label) = true)
      ((system service store).begin base []) config) :
    Tracked settings email user base config.world config.history := by
  apply reached.invariant
  · exact ⟨rfl, within_self window, .initial positive fresh, fun _ member => absurd member List.not_mem_nil,
      Gauge.empty (Int.le_trans (by decide) positive)⟩
  · intro config label next reached tracked permitted moved
    obtain ⟨guesses, unhurried⟩ := Bool.and_eq_true_iff.mp permitted
    obtain ⟨_, _, rfl⟩ | ⟨task, choice, request, command, rest, reply, world, rfl, selected, executed, rfl⟩ |
      ⟨tick, world, rfl, drifted, rfl⟩ := service_cases moved
    · exact tracked
    · obtain ⟨ctx, req, rfl, rfl, wrong⟩ := guessing_request (fun _ _ both => (Bool.and_eq_true_iff.mp both).1)
        reached (congrArg (Option.map Task.request) selected)
      have order : GuessOrder service req (transcript task config.history) command :=
        (reached.disciplined (order_handle guarded)).next_permitted selected
      have answers : choice.down 0 = false ∧ choice.down 1 = false ∧ choice.down 2 = false := by
        simpa [guessing, and_assoc] using guesses
      cases command with
      | guard command =>
          cases command with
          | isLocked address =>
              obtain ⟨rfl, _⟩ := order
              simp only [AuthService.unhurried, selected] at unhurried
              exact tracked.isLocked guarded answers.1 unhurried executed
          | recordFailure address =>
              obtain ⟨rfl, found, checked, passed, past⟩ := order
              exact tracked.recordFailure guarded window answers passed past executed
          | reset address =>
              obtain ⟨found, member, right⟩ := order
              obtain rfl := tracked.read _ ((mem_transcript ..).mp member) found rfl
              rw [wrong] at right
              cases right
      | users command =>
          cases command with
          | getByEmail address =>
              obtain ⟨rfl, checked, passed, past⟩ := order
              exact tracked.getByEmail registered passed past executed
          | _ => exact order.elim
      | _ => exact tracked.calm trivial (exec_changes executed)
    · cases tick with
      | clock time =>
          cases drifted
          exact ⟨tracked.users, guesses, tracked.guard, tracked.read, tracked.accounts⟩
      | evict tokenHash =>
          cases drifted
          exact ⟨tracked.users, tracked.current, tracked.guard, tracked.read, tracked.accounts⟩

end Runs

/-- In every run of logins for one account with wrong passwords within one window and one lockout, in which each
checks the lockout only while no other is between its check and its `RecordFailure`, no more passwords than the limit
are checked. -/
theorem guesses_bounded (service : Service) (backend : Backend) (settings : GuardConfig)
    (guarded : service.bruteGuard = some settings) (positive : 1 ≤ settings.maxAttempts)
    (window : second ≤ settings.window) (base : World backend.store) (email : String) (user : User)
    (registered : base.users.getByEmail email = .ok user)
    (fresh : lookup base.guard.attempts base.now email = none) :
    let auth := system service backend.store
    ∀ config, auth.Reaches (fun config label =>
        (guessing service settings email user base.now config label && unhurried config label) = true)
        (auth.begin base []) config →
      ((tasksOf checksPassword config.history).length : Int) ≤ settings.maxAttempts := by
  intro auth config reached
  have tracked : Tracked settings email user base config.world config.history :=
    reaches_tracked guarded positive window registered fresh reached
  exact Gauge.checked_le tracked.accounts

/-- A login with a wrong password. -/
def wrongLogin : ServiceLabel := .start (.login bareContext ⟨"ann@example.com", "wrong", "device"⟩)

/-- One after another, two of three logins have their passwords checked. -/
theorem two_guesses_checked :
    let auth := system guardedSample (postgres exactDatabase)
    ∃ config, auth.Reaches (fun config label => (guessing guardedSample shortLockout "ann@example.com" sampleUser 0
        config label && unhurried config label) = true) (auth.begin sampleWorld []) config ∧
      tasksOf checksPassword config.history = [1, 0] ∧
      ((tasksOf checksPassword config.history).length : Int) ≤ shortLockout.maxAttempts := by
  intro auth
  let labels := [wrongLogin, wrongLogin, wrongLogin] ++ advances 0 5 {} ++ advances 1 5 {} ++ advances 2 1 {}
  obtain ⟨config, reached, checked⟩ :
      ∃ config, auth.Reaches (fun config label => (guessing guardedSample shortLockout "ann@example.com" sampleUser 0
        config label && unhurried config label) = true) (auth.begin sampleWorld []) config ∧
        decide (tasksOf checksPassword config.history = [1, 0]) = true :=
    exists_of_run labels _ (by decide +kernel)
  exact ⟨config, reached, of_decide_eq_true checked, guesses_bounded guardedSample (.postgres exactDatabase)
    shortLockout rfl (by decide) (by decide) sampleWorld "ann@example.com" sampleUser rfl rfl config reached⟩

/-- Three logins in parallel pass the lockout check before any of them records its failure, and the passwords of
all three are checked against a limit of two. -/
theorem parallel_guesses_exceed :
    let auth := system guardedSample (postgres exactDatabase)
    sampleWorld.users.getByEmail "ann@example.com" = .ok sampleUser ∧
    lookup sampleWorld.guard.attempts sampleWorld.now "ann@example.com" = none ∧
    ∃ config, auth.Reaches (fun config label =>
        guessing guardedSample shortLockout "ann@example.com" sampleUser sampleWorld.now config label = true)
        (auth.begin sampleWorld []) config ∧
      shortLockout.maxAttempts < (tasksOf checksPassword config.history).length := by
  intro auth
  let labels := [wrongLogin, wrongLogin, wrongLogin] ++ advances 0 1 {} ++ advances 1 1 {} ++ advances 2 1 {} ++
    advances 0 4 {} ++ advances 1 4 {} ++ advances 2 4 {}
  obtain ⟨config, reached, checked⟩ :
      ∃ config, auth.Reaches (fun config label =>
        guessing guardedSample shortLockout "ann@example.com" sampleUser sampleWorld.now config label = true)
        (auth.begin sampleWorld []) config ∧
        decide (shortLockout.maxAttempts < (tasksOf checksPassword config.history).length) = true :=
    exists_of_run labels _ (by decide +kernel)
  exact ⟨rfl, rfl, config, reached, of_decide_eq_true checked⟩

end AuthService
