/-
This file proves when a reset token is used at most once, and shows a run in which it is used twice.
-/

import AuthService.Proof.ResetRecords
import AuthService.Proof.SingleUse

namespace AuthService
open Interleaving System

/-- The task is a `ResetPassword` request for this reset token. -/
def PresentsReset {store : SessionStore} (config : ServiceConfig store) (task : Nat) (token : String) : Prop :=
  ∃ ctx newPassword, config.request task = some (.resetPassword ctx ⟨token, newPassword⟩)

/-- The task has come to its `UpdatePasswordHash` call. -/
def ReachesUpdate {store : SessionStore} (config : ServiceConfig store) (task : Nat) : Prop :=
  ∃ userID passwordHash, config.Next task (.users (.updatePasswordHash userID passwordHash)) ∨
    ∃ reply, (⟨task, .users (.updatePasswordHash userID passwordHash), reply⟩ : Event Ports) ∈ config.history

/-- Every store call succeeds and none is lost. -/
def reliable {store : SessionStore} (_ : ServiceConfig store) : ServiceLabel → Bool
  | .advance _ choice => !choice.fails && !choice.lost && choice.statement.isNone
  | _ => true

/-- The event found the record of this reset token. -/
def readsToken (tokenHash : String) : Event Ports → Bool
  | ⟨_, .resets (.getResetToken key), .ok _⟩ => key = tokenHash
  | _ => false

/-- The event is the deletion of this reset token by this task. -/
def dropsToken (task : Nat) (tokenHash : String) : Event Ports → Bool
  | ⟨owner, .resets (.deleteResetToken key), _⟩ => owner = task && key = tokenHash
  | _ => false

/-- Some request has found the reset token and has not deleted it yet. -/
def held (history : List (Event Ports)) (tokenHash : String) : Bool :=
  history.any fun event => readsToken tokenHash event && !history.any (dropsToken event.task tokenHash)

/-- A request reads a reset token only while no other request is between its own `GetResetToken`
and its own `DeleteResetToken` for that token. -/
def exclusive {store : SessionStore} (config : ServiceConfig store) : ServiceLabel → Bool
  | .advance task _ =>
      match config.tasks[task]? with
      | some ⟨_, .call (.resets (.getResetToken tokenHash)) _⟩ => !held config.history tokenHash
      | _ => true
  | _ => true

/-- The task has found the reset token and has not deleted it yet. -/
def Holds (history : List (Event Ports)) (task : Nat) (tokenHash : String) : Prop :=
  (∃ found, (⟨task, .resets (.getResetToken tokenHash), .ok found⟩ : Event Ports) ∈ history) ∧
    ∀ reply, (⟨task, .resets (.deleteResetToken tokenHash), reply⟩ : Event Ports) ∉ history

/-- The reset token that an event deletes. -/
def redeemedBy : Event Ports → Option String
  | ⟨_, .resets (.deleteResetToken tokenHash), .ok _⟩ => some tokenHash
  | _ => none

theorem redeemedBy_eq_some {event : Event Ports} {tokenHash : String}
    (redeemed : redeemedBy event = some tokenHash) :
    event = ⟨event.task, .resets (.deleteResetToken tokenHash), .ok ()⟩ := by
  obtain ⟨task, command, reply⟩ := event
  cases command with
  | resets command =>
      cases command with
      | deleteResetToken key =>
          cases reply with
          | ok _ =>
              obtain rfl := Option.some.inj redeemed
              rfl
          | error error => cases redeemed
      | _ => cases redeemed
  | _ => cases redeemed

/-- A task that holds a token shows up as a holder. -/
theorem held_of_holds {history : List (Event Ports)} {task : Nat} {tokenHash : String}
    (holds : Holds history task tokenHash) : held history tokenHash = true := by
  obtain ⟨⟨found, member⟩, kept⟩ := holds
  refine List.any_eq_true.mpr ⟨_, member, ?_⟩
  simp only [readsToken, decide_true, Bool.true_and, Bool.not_eq_true', List.any_eq_false]
  rintro ⟨owner, command, reply⟩ inside dropped
  unfold dropsToken at dropped
  split at dropped
  · rename_i same
    cases same
    simp only [Bool.and_eq_true, decide_eq_true_eq] at dropped
    obtain ⟨rfl, rfl⟩ := dropped
    exact kept _ inside
  · cases dropped

/-- A new holder has just found the token. -/
theorem holds_step {history : List (Event Ports)} {event : Event Ports} {task : Nat} {tokenHash : String}
    (holds : Holds (event :: history) task tokenHash) :
    Holds history task tokenHash ∨
      ∃ found, event = ⟨task, .resets (.getResetToken tokenHash), .ok found⟩ := by
  obtain ⟨⟨found, member⟩, kept⟩ := holds
  rcases List.mem_cons.mp member with same | inside
  · exact .inr ⟨found, same.symm⟩
  · exact .inl ⟨⟨found, inside⟩, fun reply dropped => kept reply (List.mem_cons_of_mem _ dropped)⟩

section
variable {service : Service} {store : SessionStore} {config : ServiceConfig store}

/-- A task that comes to its deletion holds the token. -/
theorem holds_of_next (disciplined : Disciplined (Permits service) (Finishes service) config) {task : Nat}
    {request : Request} {tokenHash : String}
    {rest : (ResetCommand.deleteResetToken tokenHash).Reply → Program Ports Answer}
    (selected : config.tasks[task]? = some ⟨request, .call (.resets (.deleteResetToken tokenHash)) rest⟩) :
    Holds config.history task tokenHash := by
  cases disciplined.next_permitted selected with
  | free harmless => cases harmless
  | dropToken grant first =>
      refine ⟨⟨_, (mem_transcript _ _ _).mp (mem_of_select grant.read)⟩, ?_⟩
      intro reply dropped
      have written : (⟨_, reply⟩ : Exchange Ports) ∈
          select Command.writes (transcript task config.history) :=
        List.mem_filter.mpr ⟨(mem_transcript _ _ _).mpr dropped, rfl⟩
      rw [first] at written
      cases written

/-- A reset token that was deleted had been found before. -/
theorem found_of_redeemed (disciplined : Disciplined (Permits service) (Finishes service) config)
    {task : Nat} {tokenHash : String} {reply : Except StoreError Unit}
    (member : (⟨task, .resets (.deleteResetToken tokenHash), reply⟩ : Event Ports) ∈ config.history) :
    ∃ found, (⟨task, .resets (.getResetToken tokenHash), .ok found⟩ : Event Ports) ∈ config.history := by
  obtain ⟨later, past, same, request, _, permitted⟩ := disciplined.permitted.mem member
  cases permitted with
  | free harmless => cases harmless
  | dropToken grant first => exact ⟨_, mem_of_past same (mem_of_select grant.read)⟩

/-- A task that comes to its `UpdatePasswordHash` call as a reset has deleted its token. -/
theorem redeemed_of_update (disciplined : Disciplined (Permits service) (Finishes service) config)
    {task : Nat} {token : String} (presents : PresentsReset config task token)
    (updates : ReachesUpdate config task) :
    (⟨task, .resets (.deleteResetToken (service.hash token)), .ok ()⟩ : Event Ports) ∈ config.history := by
  obtain ⟨ctx, newPassword, started⟩ := presents
  obtain ⟨userID, passwordHash, ⟨request, rest, selected⟩ | ⟨reply, member⟩⟩ := updates
  · rw [Config.request, selected, Option.map_some, Option.some.injEq] at started
    subst started
    cases disciplined.next_permitted selected with
    | free harmless => cases harmless
    | reset grant dropped => exact (mem_transcript _ _ _).mp (mem_of_select dropped)
  · obtain ⟨later, past, same, request, known, permitted⟩ := disciplined.permitted.mem member
    dsimp only at known permitted
    rw [started, Option.some.injEq] at known
    subst known
    cases permitted with
    | free harmless => cases harmless
    | reset grant dropped => exact mem_of_past same (mem_of_select dropped)

/-- A reset that succeeds came to its `UpdatePasswordHash` call. -/
theorem update_of_success (disciplined : Disciplined (Permits service) (Finishes service) config)
    {task : Nat} {token : String} (presents : PresentsReset config task token)
    (succeeds : Succeeds config task) : ReachesUpdate config task := by
  obtain ⟨ctx, newPassword, started⟩ := presents
  obtain ⟨response, answered⟩ := succeeds
  cases disciplined.answered task _ _ started answered with
  | plain ordinary => cases ordinary
  | @reset _ _ _ found salt _ grant revoked =>
      have updated : (⟨.users (.updatePasswordHash found.userID (service.hashPassword salt newPassword)),
          .ok ()⟩ : Exchange Ports) ∈ select Command.writes (transcript task config.history) := by
        rw [revoked]
        exact List.mem_cons_of_mem _ List.mem_cons_self
      exact ⟨_, _, .inr ⟨_, (mem_transcript _ _ _).mp (mem_of_mem_select updated)⟩⟩

end

/-- The reset tokens of a run in which a token is read by one request at a time. -/
structure Custody {store : SessionStore} (config : ServiceConfig store) : Prop where
  holder : ∀ first second tokenHash, Holds config.history first tokenHash →
    Holds config.history second tokenHash → first = second
  once : (config.history.filterMap redeemedBy).Nodup
  gone : ∀ tokenHash ∈ config.history.filterMap redeemedBy, config.world.resetTokens tokenHash = none
  released : ∀ tokenHash ∈ config.history.filterMap redeemedBy, ∀ task,
    ¬ Holds config.history task tokenHash

section
variable {service : Service} {store : SessionStore} {config : ServiceConfig store}

/-- A task saves a reset token that was not saved before. -/
theorem next_save_fresh (disciplined : Disciplined (Permits service) (Finishes service) config)
    (fresh : (config.history.filterMap (drawnBy service)).Nodup) {task saver : Nat} {request : Request}
    {tokenHash userID email userID' email' : String} {ttl ttl' : Duration} {reply : Except StoreError Unit}
    {rest : (ResetCommand.saveResetToken tokenHash userID email ttl).Reply → Program Ports Answer}
    (selected : config.tasks[task]? =
      some ⟨request, .call (.resets (.saveResetToken tokenHash userID email ttl)) rest⟩) :
    (⟨saver, .resets (.saveResetToken tokenHash userID' email' ttl'), reply⟩ : Event Ports) ∉
      config.history := by
  intro member
  obtain ⟨later, past, same, request', _, permitted'⟩ := disciplined.permitted.mem member
  generalize saved : tokenHash = savedHash at permitted'
  have permitted := disciplined.next_permitted selected
  cases permitted with
  | free harmless => cases harmless
  | saveToken grant drawn first =>
      cases permitted' with
      | free harmless => cases harmless
      | saveToken grant' drawn' first' =>
          have event := (mem_transcript _ _ _).mp (mem_of_select drawn)
          have event' := mem_of_past same (mem_of_select drawn')
          obtain rfl : task = saver := draw_owner fresh event event' saved
          exact first _ ((mem_transcript _ _ _).mpr member) _ _ _ _ rfl

end

section
variable {service : Service} {store : SessionStore} {config : ServiceConfig store}
variable {task : Nat} {choice : Choice} {request : Request} {command : Command}
variable {rest : command.Reply → Program Ports Answer} {reply : command.Reply} {world : World store}

namespace Custody

/-- A request that finds a reset token is its only holder, and the token was not deleted before. -/
theorem read_step (custody : Custody config) (permitted : exclusive config (.advance task choice) = true)
    (selected : config.tasks[task]? = some ⟨request, .call command rest⟩)
    (executed : exec service command choice config.world = some (reply, world)) {tokenHash : String}
    {found : ResetTokenRecord}
    (read : (⟨command, reply⟩ : Exchange Ports) = ⟨.resets (.getResetToken tokenHash), .ok found⟩) :
    (∀ other, ¬ Holds config.history other tokenHash) ∧
      tokenHash ∉ config.history.filterMap redeemedBy := by
  cases read
  constructor
  · intro other holds
    simp only [exclusive, selected, held_of_holds holds] at permitted
    cases permitted
  · intro redeemed
    obtain ⟨entry, present, _⟩ := getResetToken_found executed
    rw [custody.gone tokenHash redeemed] at present
    cases present

/-- A step leaves at most one holder of each token. -/
theorem holder_step (custody : Custody config) (permitted : exclusive config (.advance task choice) = true)
    (selected : config.tasks[task]? = some ⟨request, .call command rest⟩)
    (executed : exec service command choice config.world = some (reply, world)) {first second : Nat}
    {tokenHash : String} (left : Holds (⟨task, command, reply⟩ :: config.history) first tokenHash)
    (right : Holds (⟨task, command, reply⟩ :: config.history) second tokenHash) : first = second := by
  rcases holds_step left with before | ⟨found, same⟩
  · rcases holds_step right with before' | ⟨found', same'⟩
    · exact custody.holder first second tokenHash before before'
    · have alone := (custody.read_step permitted selected executed (Event.mk.inj same').2).1
      exact absurd before (alone first)
  · rcases holds_step right with before' | ⟨found', same'⟩
    · have alone := (custody.read_step permitted selected executed (Event.mk.inj same).2).1
      exact absurd before' (alone second)
    · exact (Event.mk.inj same).1.symm.trans (Event.mk.inj same').1

/-- A deleted token gets no new holder. -/
theorem released_step (custody : Custody config) (permitted : exclusive config (.advance task choice) = true)
    (selected : config.tasks[task]? = some ⟨request, .call command rest⟩)
    (executed : exec service command choice config.world = some (reply, world)) {tokenHash : String}
    (redeemed : tokenHash ∈ config.history.filterMap redeemedBy) (other : Nat) :
    ¬ Holds (⟨task, command, reply⟩ :: config.history) other tokenHash := by
  intro holds
  rcases holds_step holds with before | ⟨found, same⟩
  · exact custody.released tokenHash redeemed other before
  · exact (custody.read_step permitted selected executed (Event.mk.inj same).2).2 redeemed

/-- The record of a deleted token does not come back. -/
theorem gone_step [store.Lawful] {now : Time} {allowed : ServiceConfig store → ServiceLabel → Prop}
    (custody : Custody config)
    (reached : (system service store).Reaches allowed
      ((system service store).begin (World.empty store now) []) config)
    (selected : config.tasks[task]? = some ⟨request, .call command rest⟩)
    (executed : exec service command choice config.world = some (reply, world)) {tokenHash : String}
    (redeemed : tokenHash ∈ config.history.filterMap redeemedBy) : world.resetTokens tokenHash = none := by
  cases present : world.resetTokens tokenHash with
  | none => rfl
  | some entry =>
      rcases exec_resetTokens executed present with before | ⟨ttl, saves⟩
      · rw [custody.gone tokenHash redeemed] at before
        cases before
      · cases saves
        have disciplined := reaches_disciplined reached
        obtain ⟨event, member, observed⟩ := List.mem_filterMap.mp redeemed
        rw [redeemedBy_eq_some observed] at member
        obtain ⟨found, read⟩ := found_of_redeemed disciplined member
        obtain ⟨saver, ttl', saved⟩ := saved_of_found reached read
        have fresh := (reaches_ledger (World.empty_sound now) reached).fresh
        exact absurd saved (next_save_fresh disciplined fresh selected)

/-- Each call of such a run keeps the custody of the reset tokens. -/
theorem event_step [store.Lawful] {now : Time} (custody : Custody config)
    (reached : (system service store).Reaches (fun config label => exclusive config label = true)
      ((system service store).begin (World.empty store now) []) config)
    (permitted : exclusive config (.advance task choice) = true)
    (selected : config.tasks[task]? = some ⟨request, .call command rest⟩)
    (executed : exec service command choice config.world = some (reply, world))
    (tasks : List (Task Ports Request Answer)) :
    Custody (⟨world, tasks, ⟨task, command, reply⟩ :: config.history⟩ : ServiceConfig store) := by
  have holder : ∀ first second tokenHash, Holds (⟨task, command, reply⟩ :: config.history) first tokenHash →
      Holds (⟨task, command, reply⟩ :: config.history) second tokenHash → first = second := by
    intro first second tokenHash left right
    exact custody.holder_step permitted selected executed left right
  cases redeemed : redeemedBy ⟨task, command, reply⟩ with
  | none =>
      refine ⟨holder, ?_, ?_, ?_⟩
      · rw [List.filterMap_cons_none redeemed]
        exact custody.once
      · rw [List.filterMap_cons_none redeemed]
        intro tokenHash member
        exact custody.gone_step reached selected executed member
      · rw [List.filterMap_cons_none redeemed]
        intro tokenHash member
        exact custody.released_step permitted selected executed member
  | some tokenHash =>
      cases redeemedBy_eq_some redeemed
      have holds := holds_of_next (reaches_disciplined reached) selected
      refine ⟨holder, ?_, ?_, ?_⟩
      · rw [List.filterMap_cons_some redeemed]
        exact List.nodup_cons.mpr
          ⟨fun again => custody.released tokenHash again task holds, custody.once⟩
      · rw [List.filterMap_cons_some redeemed]
        intro other member
        rcases List.mem_cons.mp member with rfl | member
        · exact deleteResetToken_ok executed
        · exact custody.gone_step reached selected executed member
      · rw [List.filterMap_cons_some redeemed]
        intro other member
        rcases List.mem_cons.mp member with rfl | member
        · intro owner holds'
          rcases holds_step holds' with before | ⟨found, same⟩
          · rw [custody.holder owner task other before holds] at holds'
            exact holds'.2 _ List.mem_cons_self
          · cases same
        · exact custody.released_step permitted selected executed member

end Custody
end

section
variable {service : Service} {store : SessionStore} [store.Lawful] {now : Time} {config : ServiceConfig store}

/-- A run in which a token is read by one request at a time keeps the custody of its tokens. -/
theorem reaches_custody
    (reached : (system service store).Reaches (fun config label => exclusive config label = true)
      ((system service store).begin (World.empty store now) []) config) : Custody config := by
  apply reached.invariant
  · refine ⟨?_, List.nodup_nil, ?_, ?_⟩
    · rintro first second tokenHash ⟨⟨found, member⟩, _⟩
      cases member
    · rintro tokenHash ⟨⟩
    · rintro tokenHash ⟨⟩
  · intro config label next reached custody permitted moved
    obtain ⟨_, _, rfl⟩ | ⟨task, choice, request, command, rest, reply, world, rfl, selected, executed, rfl⟩ |
      ⟨tick, world, _, drifted, rfl⟩ := service_cases moved
    · exact ⟨custody.holder, custody.once, custody.gone, custody.released⟩
    · exact custody.event_step reached permitted selected executed _
    · obtain ⟨cache, now, rfl⟩ := drift_frame drifted
      exact ⟨custody.holder, custody.once, custody.gone, custody.released⟩

end

/-- In every run in which a request reads a reset token only while no other request is between its
own reading and its own deletion of that token, at most one `ResetPassword` request with that token
comes to its `UpdatePasswordHash` call, and at most one succeeds. -/
theorem reset_token_single_use (service : Service) (backend : Backend) (now : Time) :
    let auth := system service backend.store
    let initial := auth.begin (World.empty backend.store now) []
    ∀ config, auth.Reaches (fun config label => exclusive config label = true) initial config →
      ∀ token first second, PresentsReset config first token → PresentsReset config second token →
        (ReachesUpdate config first → ReachesUpdate config second → first = second) ∧
        (Succeeds config first → Succeeds config second → first = second) := by
  intro auth initial config reached token first second presents presents'
  have disciplined := reaches_disciplined reached
  have unique (updates : ReachesUpdate config first) (updates' : ReachesUpdate config second) :
      first = second := by
    have same := eq_of_observed_once redeemedBy config.history (reaches_custody reached).once
      (redeemed_of_update disciplined presents updates)
      (redeemed_of_update disciplined presents' updates') rfl rfl
    exact congrArg Event.task same
  refine ⟨unique, ?_⟩
  intro succeeds succeeds'
  exact unique (update_of_success disciplined presents succeeds)
    (update_of_success disciplined presents' succeeds')

/-- The requests that lead to two resets with the same reset token. -/
def twoResets : List Request :=
  [.register bareContext ⟨"a@b.co", "passw0rd"⟩, .requestPasswordReset bareContext "a@b.co",
    .verifyResetCode bareContext ⟨"a@b.co", "000007"⟩, .resetPassword bareContext ⟨"token", "first111"⟩,
    .resetPassword bareContext ⟨"token", "second22"⟩]

/-- The steps that issue the reset token. -/
def issueToken : List ServiceLabel :=
  advances 0 4 { id := "user" } ++ advances 1 5 { otp := 7 } ++ advances 2 5 { token := "token" }

/-- In this run of reliable calls, both requests find the reset token before either deletes it, and
both succeed. -/
theorem reset_token_used_twice :
    ∃ config, sampleSystem.Reaches (fun config label => reliable config label = true) (sampleStart []) config ∧
      PresentsReset config 3 "token" ∧ PresentsReset config 4 "token" ∧
      ReachesUpdate config 3 ∧ ReachesUpdate config 4 ∧ Succeeds config 3 ∧ Succeeds config 4 := by
  let labels := issueToken ++ advances 3 1 {} ++ advances 4 1 {} ++ advances 3 6 {} ++ advances 4 6 {}
  obtain ⟨config, reached, checked⟩ :
      ∃ config, sampleSystem.Reaches (fun config label => reliable config label = true)
          (sampleStart twoResets) config ∧
        decide (config.answer? 3 = some (.ok .resetPassword) ∧
          config.answer? 4 = some (.ok .resetPassword)) = true :=
    exists_of_run labels _ (by decide +kernel)
  have started : sampleSystem.Reaches (fun config label => reliable config label = true) (sampleStart [])
      (sampleStart twoResets) := reaches_started _ _ fun _ _ => rfl
  have whole := started.trans reached
  have disciplined := reaches_disciplined whole
  have presents : PresentsReset config 3 "token" := ⟨bareContext, "first111", reached.request 3 _ rfl⟩
  have presents' : PresentsReset config 4 "token" := ⟨bareContext, "second22", reached.request 4 _ rfl⟩
  have succeeds : Succeeds config 3 := ⟨_, Config.answered_of_answer? (of_decide_eq_true checked).1⟩
  have succeeds' : Succeeds config 4 := ⟨_, Config.answered_of_answer? (of_decide_eq_true checked).2⟩
  exact ⟨config, whole, presents, presents', update_of_success disciplined presents succeeds,
    update_of_success disciplined presents' succeeds', succeeds, succeeds'⟩

/-- In this run the second request reads the reset token after the first has deleted it, and only the
first succeeds. -/
theorem reset_token_used_once :
    ∃ config, sampleSystem.Reaches (fun config label => exclusive config label = true) (sampleStart []) config ∧
      PresentsReset config 3 "token" ∧ PresentsReset config 4 "token" ∧ Succeeds config 3 ∧
      ¬ Succeeds config 4 := by
  let labels := issueToken ++ advances 3 2 {} ++ advances 4 1 {} ++ advances 3 5 {}
  obtain ⟨config, reached, checked⟩ :
      ∃ config, sampleSystem.Reaches (fun config label => exclusive config label = true)
          (sampleStart twoResets) config ∧
        decide (config.answer? 3 = some (.ok .resetPassword)) = true :=
    exists_of_run labels _ (by decide +kernel)
  have started : sampleSystem.Reaches (fun config label => exclusive config label = true) (sampleStart [])
      (sampleStart twoResets) := reaches_started _ _ fun _ _ => rfl
  have whole := started.trans reached
  have presents : PresentsReset config 3 "token" := ⟨bareContext, "first111", reached.request 3 _ rfl⟩
  have presents' : PresentsReset config 4 "token" := ⟨bareContext, "second22", reached.request 4 _ rfl⟩
  have succeeds : Succeeds config 3 := ⟨_, Config.answered_of_answer? (of_decide_eq_true checked)⟩
  refine ⟨config, whole, presents, presents', succeeds, ?_⟩
  intro succeeds'
  have unique := (reset_token_single_use sample (.postgres exactDatabase) 0 config whole "token" 3 4
    presents presents').2
  exact absurd (unique succeeds succeeds') (by decide)

end AuthService
