/-
This file proves that the stores do not disturb each other when they share one Redis.
-/

import AuthService.Concurrency.Simulation
import AuthService.Construction.OneRedis
import AuthService.Proof.Interceptor
import AuthService.Proof.ResetAgreement

namespace AuthService
open Interleaving Program System

/-- The keys of all stores in one Redis. -/
inductive RedisKey where
  | cache (tokenHash : String)
  | otp (hash : String)
  | resetToken (tokenHash : String)
  | attempts (email : String)
  | locked (email : String)
  | counter (rest : String)
deriving DecidableEq

namespace RedisKey

/-- What the stores keep under a key. -/
@[reducible] def Value : RedisKey → Type
  | cache _ => CachedSession
  | otp _ => OTPRecord
  | resetToken _ => ResetTokenRecord
  | attempts _ => Int
  | locked _ => Unit
  | counter _ => Int

def text : RedisKey → String
  | cache tokenHash => cacheKey tokenHash
  | otp hash => ResetCache.otpKey hash
  | resetToken tokenHash => ResetCache.resetTokenKey tokenHash
  | attempts email => attemptsKey email
  | locked email => lockedKey email
  | counter rest => "rl:" ++ rest

/-- Texts with prefixes of which neither continues the other are different. -/
theorem ne_of_prefixes {first second rest rest' : String} (left : ¬ first.toList <+: second.toList)
    (right : ¬ second.toList <+: first.toList) : first ++ rest ≠ second ++ rest' := by
  intro same
  have texts := congrArg String.toList same
  rw [String.toList_append, String.toList_append] at texts
  rcases List.prefix_or_prefix_of_prefix (List.prefix_append first.toList rest.toList)
      (texts ▸ List.prefix_append second.toList rest'.toList) with before | after
  · exact left before
  · exact right after

/-- No two stores have a key in common. -/
theorem text_injective : Function.Injective text := by
  intro first second same
  cases first <;> cases second
  all_goals first
    | exact congrArg _ ((String.append_right_inj _).mp same)
    | exact absurd same (ne_of_prefixes (by decide) (by decide))

variable {store : SessionStore}

/-- The entry of a key when every store keeps its own. -/
def entry (view : World store × Counters) : (key : RedisKey) → Option (Expiring key.Value)
  | cache tokenHash => view.1.cache tokenHash
  | otp hash => view.1.otps hash
  | resetToken tokenHash => view.1.resetTokens tokenHash
  | attempts email => view.1.guard.attempts email
  | locked email => view.1.guard.locked email
  | counter rest => view.2 ("rl:" ++ rest)

/-- The stores after a change of one entry. -/
def write (view : World store × Counters) : (key : RedisKey) → Option (Expiring key.Value) → World store × Counters
  | cache tokenHash, entry => ({ view.1 with cache := Function.update view.1.cache tokenHash entry }, view.2)
  | otp hash, entry => ({ view.1 with otps := Function.update view.1.otps hash entry }, view.2)
  | resetToken tokenHash, entry =>
      ({ view.1 with resetTokens := Function.update view.1.resetTokens tokenHash entry }, view.2)
  | attempts email, entry =>
      ({ view.1 with guard := { view.1.guard with attempts := Function.update view.1.guard.attempts email entry } },
        view.2)
  | locked email, entry =>
      ({ view.1 with guard := { view.1.guard with locked := Function.update view.1.guard.locked email entry } },
        view.2)
  | counter rest, entry => (view.1, Function.update view.2 ("rl:" ++ rest) entry)

theorem entry_write_self (view : World store × Counters) (key : RedisKey) (value : Option (Expiring key.Value)) :
    entry (write view key value) key = value := by
  cases key <;> exact Function.update_self ..

theorem entry_write_other (view : World store × Counters) {key other : RedisKey} (apart : other ≠ key)
    (value : Option (Expiring key.Value)) : entry (write view key value) other = entry view other := by
  cases key <;> cases other
  all_goals first
    | rfl
    | exact Function.update_of_ne (fun same => apart (congrArg _ same)) _ _
    | exact Function.update_of_ne (fun same => apart (congrArg _ ((String.append_right_inj _).mp same))) _ _

end RedisKey

/-- The text stands for the value that is kept under the key. Counters are positive. -/
def Texts.Reads (texts : Texts) : (key : RedisKey) → String → key.Value → Prop
  | .cache _, text, session => texts.unmarshalSession text = some session
  | .otp _, text, record => texts.ReadsOTP text record
  | .resetToken _, text, record => texts.ReadsResetToken text record
  | .attempts _, text, count => texts.readNumber text = some count ∧ 1 ≤ count
  | .locked _, _, _ => True
  | .counter _, text, count => texts.readNumber text = some count ∧ 1 ≤ count

section HoldsAll
variable {store : SessionStore} {texts : Texts} {db : RedisDB} {view : World store × Counters}

/-- Redis holds the entries of all stores as texts. -/
def HoldsAll (texts : Texts) (db : RedisDB) (view : World store × Counters) : Prop :=
  ∀ key : RedisKey, Option.Rel (StandsFor (texts.Reads key)) (db key.text) (key.entry view)

theorem HoldsAll.write (holds : HoldsAll texts db view) (key : RedisKey) {text : Option (Expiring String)}
    {entry : Option (Expiring key.Value)} (written : Option.Rel (StandsFor (texts.Reads key)) text entry) :
    HoldsAll texts (Function.update db key.text text) (key.write view entry) := by
  intro other
  by_cases same : other = key
  · subst same
    rw [Function.update_self, RedisKey.entry_write_self]
    exact written
  · rw [Function.update_of_ne (fun clash => same (RedisKey.text_injective clash)), RedisKey.entry_write_other _ same]
    exact holds other

/-- The change of the entries that are kept elsewhere does not concern Redis. -/
theorem HoldsAll.of_entries (holds : HoldsAll texts db view) {view' : World store × Counters}
    (same : ∀ key, RedisKey.entry view' key = RedisKey.entry view key) : HoldsAll texts db view' := by
  intro key
  rw [same]
  exact holds key

theorem HoldsAll.stores (holds : HoldsAll texts db view) : Stores texts.toJSON db view.1 :=
  ⟨fun hash => holds (.otp hash), fun hash => holds (.resetToken hash)⟩

/-- The script counts as the counters do. -/
theorem script_counts {entries : Counters} {redisKey key : String} (seconds : Int) (now : Time)
    (holds : Option.Rel (StandsFor fun text count => texts.readNumber text = some count ∧ 1 ≤ count) (db redisKey)
      (entries key)) :
    (db.luaIncrExpire texts seconds now redisKey).1 = some (entries.luaIncrExpire seconds now key).1 ∧
      ∃ text entry, (db.luaIncrExpire texts seconds now redisKey).2 = Function.update db redisKey text ∧
        (entries.luaIncrExpire seconds now key).2 = Function.update entries key entry ∧
        Option.Rel (StandsFor fun text count => texts.readNumber text = some count ∧ 1 ≤ count) text entry := by
  have first : Option.Rel (StandsFor fun text count => texts.readNumber text = some count ∧ 1 ≤ count)
      (RedisDB.expire seconds now (texts.number 1))
      (if seconds ≤ 0 then none else some ⟨1, some (now + seconds * second)⟩) := by
    unfold RedisDB.expire
    split
    · exact .none
    · exact .some ⟨⟨texts.read_number 1, Int.le_refl 1⟩, rfl⟩
  by_cases seen : ∃ entry, entries key = some entry ∧ entry.visible now = true
  · obtain ⟨entry, present, visible⟩ := seen
    rw [present] at holds
    obtain ⟨text, stored, ⟨read, positive⟩, expires⟩ := rel_some_inv holds
    have shown : text.visible now = true := by
      rw [Expiring.visible, expires]
      exact visible
    have later : ¬ entry.value + 1 = 1 := by omega
    have counted : db.luaIncrExpire texts seconds now redisKey = (some (entry.value + 1), Function.update db redisKey
        (some ⟨texts.number (entry.value + 1), text.expiresAt⟩)) := by
      simp only [RedisDB.luaIncrExpire, stored, Option.filter_some, shown, if_true, read, if_neg later]
    rw [counted, luaIncrExpire_visible present visible]
    exact ⟨rfl, _, _, rfl, rfl, .some ⟨⟨texts.read_number _, by dsimp only; omega⟩, expires⟩⟩
  · have hidden : ((db redisKey).filter fun entry => entry.visible now) = none := by
      rw [Option.filter_eq_none_iff]
      intro text stored shown
      rw [stored] at holds
      generalize known : entries key = kept at holds
      cases holds with
      | some both =>
          refine seen ⟨_, known, ?_⟩
          rw [Expiring.visible, ← both.2]
          exact shown
    have missing : lookup entries now key = none := by
      rw [Option.eq_none_iff_forall_ne_some]
      intro value found
      obtain ⟨entry, present, visible, _⟩ := lookup_visible found
      exact seen ⟨entry, present, visible⟩
    have counted : db.luaIncrExpire texts seconds now redisKey =
        (some 1, Function.update db redisKey (RedisDB.expire seconds now (texts.number 1))) := by
      simp only [RedisDB.luaIncrExpire, hidden]
    rw [counted, luaIncrExpire_absent missing]
    exact ⟨rfl, _, _, rfl, rfl, first⟩

end HoldsAll

/-- The state with one Redis that mirrors the stores that are kept apart. -/
def mirrored {store : SessionStore} (view : World store × Counters) (redis : RedisDB) : RedisWorld store where
  users := view.1.users
  sessions := view.1.sessions
  redis
  localEntries := view.1.guard.localEntries
  issued := view.1.issued
  background := view.1.background
  now := view.1.now

section Calls
variable {store : SessionStore} {texts : Texts} {db : RedisDB} {view : World store × Counters}

theorem HoldsAll.cache (holds : HoldsAll texts db view) (command : CacheCommand) (choice : Choice) :
    ∃ db', RedisWorld.execCache texts command choice (mirrored view db) =
        ((execCache command choice view.1).1, mirrored ((execCache command choice view.1).2, view.2) db') ∧
      HoldsAll texts db' ((execCache command choice view.1).2, view.2) := by
  cases command with
  | set tokenHash session ttl =>
      have written : Option.Rel (StandsFor (texts.Reads (.cache tokenHash)))
          (some ⟨texts.marshalSession session, redisExpiry view.1.now ttl⟩)
          (some ⟨session, redisExpiry view.1.now ttl⟩) := .some ⟨texts.unmarshal_session session, rfl⟩
      by_cases dead : ttl ≤ 0
      · simp only [RedisWorld.execCache, execCache, if_pos dead]
        exact ⟨db, rfl, holds⟩
      · cases lost : choice.lost with
        | true =>
            simp only [RedisWorld.execCache, execCache, if_neg dead, lost, if_true]
            exact ⟨db, rfl, holds⟩
        | false =>
            simp only [RedisWorld.execCache, execCache, if_neg dead, lost, Bool.false_eq_true, if_false]
            exact ⟨_, rfl, holds.write (.cache tokenHash) written⟩
  | get tokenHash =>
      refine ⟨db, ?_, holds⟩
      have read : Option.Rel (texts.Reads (.cache tokenHash)) (lookup db view.1.now (cacheKey tokenHash))
          (lookup view.1.cache view.1.now tokenHash) := standsFor_lookup (holds (.cache tokenHash)) view.1.now
      simp only [RedisWorld.execCache, execCache, RedisDB.get, mirrored]
      split
      · rfl
      · cases known : lookup view.1.cache view.1.now tokenHash with
        | none =>
            rw [known] at read
            rw [rel_none_inv read]
        | some session =>
            rw [known] at read
            obtain ⟨data, found, unmarshalled⟩ := rel_some_inv read
            replace unmarshalled : texts.unmarshalSession data = some session := unmarshalled
            simp only [found, unmarshalled]
  | delete tokenHash =>
      cases lost : choice.lost with
      | true =>
          simp only [RedisWorld.execCache, execCache, lost, if_true]
          exact ⟨db, rfl, holds⟩
      | false =>
          simp only [RedisWorld.execCache, execCache, lost, Bool.false_eq_true, if_false]
          exact ⟨_, rfl, holds.write (.cache tokenHash) .none⟩

/-- A call on the reset store changes the keys of the reset store only. -/
theorem resetCache_other {service : Service} {json : JSON} {command : ResetCommand} {now : Time} {db : RedisDB}
    {key : String} (code : ∀ hash, key ≠ ResetCache.otpKey hash) (token : ∀ hash, key ≠ ResetCache.resetTokenKey hash) :
    (ResetCache.exec service json command now db).2 key = db key := by
  cases command with
  | saveOTP | deleteOTP => exact Function.update_of_ne (code _) _ _
  | saveResetToken | deleteResetToken => exact Function.update_of_ne (token _) _ _
  | getOTP | getResetToken => rfl
  | incrOTPAttempts email =>
      simp only [ResetCache.exec, ResetCache.incrOTPScript]
      split
      · rfl
      · split
        · rfl
        · split
          · rfl
          · exact Function.update_of_ne (code _) _ _

theorem execResets_ready {service : Service} {choice : Choice} (ready : choice.fails = false) (command : ResetCommand)
    (base : World store) : execResets service command choice base = execResets service command {} base := by
  cases command <;> simp only [execResets, ready]

theorem execResets_failed {service : Service} {choice : Choice} (fails : choice.fails = true) (command : ResetCommand)
    (base : World store) : execResets service command choice base = (RedisWorld.failed command, base) := by
  cases command <;> simp only [execResets, fails, if_true] <;> rfl

theorem HoldsAll.resets (holds : HoldsAll texts db view) (whole : WholeCodes view.1)
    (aligned : millisecond ∣ view.1.now) (service : Service) (command : ResetCommand) (choice : Choice) :
    ∃ db', RedisWorld.execResets texts service command choice (mirrored view db) =
        ((execResets service command choice view.1).1,
          mirrored ((execResets service command choice view.1).2, view.2) db') ∧
      HoldsAll texts db' ((execResets service command choice view.1).2, view.2) := by
  cases fails : choice.fails with
  | true =>
      rw [execResets_failed fails]
      exact ⟨db, by simp only [RedisWorld.execResets, fails, if_true], holds⟩
  | false =>
      rw [execResets_ready fails]
      obtain ⟨replied, stored⟩ := holds.stores.exec whole aligned service command
      obtain ⟨otps, resetTokens, frame⟩ : ∃ otps resetTokens,
          (execResets service command {} view.1).2 = { view.1 with otps, resetTokens } := execResets_frame command
      refine ⟨(ResetCache.exec service texts.toJSON command view.1.now db).2, ?_, ?_⟩
      · simp only [RedisWorld.execResets, fails, Bool.false_eq_true, if_false]
        refine Prod.ext replied ?_
        rw [frame]
        rfl
      · intro key
        have other (code : ∀ hash, key ≠ .otp hash) (token : ∀ hash, key ≠ .resetToken hash) :
            (ResetCache.exec service texts.toJSON command view.1.now db).2 key.text = db key.text :=
          resetCache_other (fun hash same => code hash (RedisKey.text_injective same))
            fun hash same => token hash (RedisKey.text_injective same)
        cases key with
        | otp hash => exact stored.otps hash
        | resetToken hash => exact stored.resetTokens hash
        | _ =>
            rw [other (by rintro hash ⟨⟩) (by rintro hash ⟨⟩), frame]
            exact holds _

/-- The script of the guard counts under the key of the address. -/
theorem HoldsAll.attempts (holds : HoldsAll texts db view) (seconds : Int) (email : String) :
    (db.luaIncrExpire texts seconds view.1.now (attemptsKey email)).1 =
        some (Counters.luaIncrExpire seconds view.1.now email view.1.guard.attempts).1 ∧
      HoldsAll texts (db.luaIncrExpire texts seconds view.1.now (attemptsKey email)).2
        ({ view.1 with guard := { view.1.guard with
          attempts := (Counters.luaIncrExpire seconds view.1.now email view.1.guard.attempts).2 } }, view.2) := by
  obtain ⟨counted, text, entry, changed, kept, written⟩ :=
    script_counts seconds view.1.now (holds (.attempts email))
  refine ⟨counted, ?_⟩
  replace changed : (db.luaIncrExpire texts seconds view.1.now (attemptsKey email)).2 =
    Function.update db (attemptsKey email) text := changed
  replace kept : (Counters.luaIncrExpire seconds view.1.now email view.1.guard.attempts).2 =
    Function.update view.1.guard.attempts email entry := kept
  rw [changed, kept]
  exact holds.write (.attempts email) written

/-- The script of a limiter counts under its own key. -/
theorem HoldsAll.counter (holds : HoldsAll texts db view) (seconds : Int) (rest : String) :
    (db.luaIncrExpire texts seconds view.1.now ("rl:" ++ rest)).1 =
        some (view.2.luaIncrExpire seconds view.1.now ("rl:" ++ rest)).1 ∧
      HoldsAll texts (db.luaIncrExpire texts seconds view.1.now ("rl:" ++ rest)).2
        (view.1, (view.2.luaIncrExpire seconds view.1.now ("rl:" ++ rest)).2) := by
  obtain ⟨counted, text, entry, changed, kept, written⟩ := script_counts seconds view.1.now (holds (.counter rest))
  refine ⟨counted, ?_⟩
  replace changed : (db.luaIncrExpire texts seconds view.1.now ("rl:" ++ rest)).2 =
    Function.update db ("rl:" ++ rest) text := changed
  rw [changed, kept]
  exact holds.write (.counter rest) written

theorem HoldsAll.recordFailure (holds : HoldsAll texts db view) (config : GuardConfig) (down : Nat → Bool)
    (email : String) :
    ∃ db', RedisWorld.recordFailure texts config down email (mirrored view db) =
        ((view.1.guard.recordFailure config down view.1.now email).1,
          mirrored ({ view.1 with guard := (view.1.guard.recordFailure config down view.1.now email).2 }, view.2) db') ∧
      HoldsAll texts db'
        ({ view.1 with guard := (view.1.guard.recordFailure config down view.1.now email).2 }, view.2) := by
  cases away : down 0 with
  | true =>
      simp only [RedisWorld.recordFailure, GuardState.recordFailure, away, if_true]
      exact ⟨db, rfl, holds.of_entries fun key => by cases key <;> rfl⟩
  | false =>
      obtain ⟨counted, kept⟩ := holds.attempts (wholeSeconds config.window) email
      replace counted : ((mirrored view db).redis.luaIncrExpire texts (wholeSeconds config.window)
        (mirrored view db).now (attemptsKey email)).1 = _ := counted
      simp only [RedisWorld.recordFailure, GuardState.recordFailure, away, Bool.false_eq_true, if_false, counted,
        GuardState.luaIncrExpire_eq]
      split
      · have locked : Option.Rel (StandsFor (texts.Reads (.locked email)))
            (some ⟨texts.number 1, redisExpiry view.1.now config.lockoutTTL⟩)
            (some ⟨(), redisExpiry view.1.now config.lockoutTTL⟩) := .some ⟨trivial, rfl⟩
        cases down 1 with
        | true => exact ⟨_, rfl, kept⟩
        | false =>
            cases down 2 with
            | true => exact ⟨_, rfl, kept.write (.locked email) locked⟩
            | false => exact ⟨_, rfl, (kept.write (.locked email) locked).write (.attempts email) .none⟩
      · exact ⟨_, rfl, kept⟩

theorem HoldsAll.guard (holds : HoldsAll texts db view) (config : GuardConfig) (command : GuardCommand)
    (choice : Choice) :
    ∃ db', RedisWorld.execGuard texts config command choice (mirrored view db) =
        ((execGuard config command choice view.1).1,
          mirrored ((execGuard config command choice view.1).2, view.2) db') ∧
      HoldsAll texts db' ((execGuard config command choice view.1).2, view.2) := by
  cases command with
  | isLocked email =>
      cases away : choice.down 0 with
      | true =>
          simp only [RedisWorld.execGuard, execGuard, GuardState.isLocked, away, if_true]
          exact ⟨db, rfl, holds.of_entries fun key => by cases key <;> rfl⟩
      | false =>
          simp only [RedisWorld.execGuard, execGuard, GuardState.isLocked, away, Bool.false_eq_true, if_false]
          refine ⟨db, ?_, holds⟩
          have read : Option.Rel (texts.Reads (.locked email)) (lookup db view.1.now (lockedKey email))
              (lookup view.1.guard.locked view.1.now email) := standsFor_lookup (holds (.locked email)) view.1.now
          simp only [RedisDB.get, mirrored]
          cases known : lookup view.1.guard.locked view.1.now email with
          | none =>
              rw [known] at read
              rw [rel_none_inv read]
              rfl
          | some value =>
              rw [known] at read
              obtain ⟨text, found, _⟩ := rel_some_inv read
              rw [found]
              rfl
  | recordFailure email => exact holds.recordFailure config choice.down email
  | reset email =>
      cases away : choice.down 0 with
      | true =>
          simp only [RedisWorld.execGuard, execGuard, GuardState.reset, away, if_true]
          exact ⟨db, rfl, holds.of_entries fun key => by cases key <;> rfl⟩
      | false =>
          simp only [RedisWorld.execGuard, execGuard, GuardState.reset, away, Bool.false_eq_true, if_false]
          refine ⟨_, rfl, ?_⟩
          exact ((holds.write (.attempts email) .none).write (.locked email) .none).of_entries
            fun key => by cases key <;> rfl

/-- The calls of the stores that are not in Redis. -/
def OutsideRedis : Command → Prop
  | .cache _ | .resets _ | .guard _ => False
  | _ => True

theorem entry_outside {command : Command} {next : World store} (outside : OutsideRedis command)
    (changes : Changes view.1 command next) (key : RedisKey) :
    RedisKey.entry (next, view.2) key = RedisKey.entry view key := by
  cases changes with
  | cache | resets | guard => exact outside.elim
  | _ => cases key <;> rfl

/-- The calls outside Redis do not read the stores in Redis. -/
theorem outside_calls (service : Service) {command : Command} (outside : OutsideRedis command) (choice : Choice)
    (view : World store × Counters) (db : RedisDB) :
    RedisWorld.execOutside service command choice (mirrored view db) =
      (exec service command choice view.1).map fun result => (result.1, mirrored (result.2, view.2) db) := by
  cases command with
  | cache | resets | guard => exact outside.elim
  | users command =>
      simp only [RedisWorld.execOutside, exec, Option.map_map]
      rfl
  | sessions command =>
      simp only [RedisWorld.execOutside, exec, Option.map_map]
      rfl
  | random command =>
      cases command with
      | token =>
          have issued : (mirrored view db).outside.issued = view.1.issued := rfl
          simp only [RedisWorld.execOutside, exec, execRandom, issued]
          repeat' split
          all_goals rfl
      | otp | salt => rfl
  | tokens command => cases command <;> rfl
  | background command =>
      cases command with
      | logAudit event =>
          simp only [RedisWorld.execOutside, exec, execBackground]
          split <;> rfl
      | fireHook event => rfl
  | clock => rfl

end Calls

section Together
variable {service : Service} {texts : Texts} {limits : RateLimitConfig} {store : SessionStore}

/-- The server with one Redis mirrors the server whose stores are kept apart. -/
def Reflects (texts : Texts) (world : RedisWorld store) (view : World store × Counters) : Prop :=
  ∃ db, world = mirrored view db ∧ HoldsAll texts db view ∧ WholeCodes view.1 ∧ millisecond ∣ view.1.now

/-- The scripts of the limiters count under keys of the limiters. -/
def LimiterKeys : (Ports.sum LimiterPorts).Command → Prop
  | .inr (.eval redisKey _) => ∃ rest, redisKey = "rl:" ++ rest
  | _ => True

/-- The clock shows whole milliseconds. -/
def WholeTick : Tick → Prop
  | .clock time => millisecond ∣ time
  | .evict _ => True

theorem only_allowCalls (limiter : Limiter) (key : String) :
    (limiter.allowCalls key).run.Only fun command => LimiterKeys (.inr command) := by
  unfold Limiter.allowCalls
  refine only_run_bind (only_run_perform trivial) fun now => ?_
  refine only_run_bind (only_run_perform ⟨key ++ ":" ++ toString (unixSeconds (truncate now limiter.window)), ?_⟩) ?_
  · simp only [Limiter.redisKey, counterKey, String.append_assoc]
  · intro reply
    cases reply <;> trivial

theorem only_check (limits : RateLimitConfig) (arrival : Arrival) :
    (limits.check arrival).Only fun command => LimiterKeys (.inr command) := by
  unfold RateLimitConfig.check rateLimitCalls
  refine only_bind (only_run_bind (only_allowCalls _ _) fun global => ?_) ?_
  · by_cases above : refuses global = true
    · simp only [if_pos above]
      trivial
    · simp only [if_neg above]
      by_cases sensitive : shortMethod arrival.request.fullMethod ∈ sensitiveMethods
      · rw [if_pos sensitive]
        refine only_run_bind (only_allowCalls _ _) fun login => ?_
        split <;> trivial
      · rw [if_neg sensitive]
        trivial
  · intro result
    cases result <;> trivial

/-- Codes keep their whole lifetimes. -/
theorem exec_whole {command : Command} {choice : Choice} {world next : World store} {reply : command.Reply}
    (whole : WholeCodes world) (aligned : millisecond ∣ world.now)
    (executed : exec service command choice world = some (reply, next)) :
    WholeCodes next ∧ millisecond ∣ next.now := by
  have changes := exec_changes executed
  refine ⟨?_, changes.keeps_now ▸ aligned⟩
  by_cases resets : ∃ call, command = .resets call
  · obtain ⟨call, rfl⟩ := resets
    have performed : (execResets service call choice world).2 = next := congrArg Prod.snd (exec_resets executed)
    cases fails : choice.fails with
    | true =>
        rw [execResets_failed fails] at performed
        exact performed ▸ whole
    | false =>
        rw [execResets_ready fails] at performed
        exact performed ▸ whole.exec aligned call
  · intro hash entry known
    rw [changes.keeps_otps fun call same => resets ⟨call, same⟩] at known
    exact whole hash entry known

/-- A call on one Redis answers as a call on the stores that are kept apart. -/
theorem exec_reflects (command : Command) (choice : Choice) {world : RedisWorld store} {view : World store × Counters}
    (reflects : Reflects texts world view) :
    Option.Rel (fun first second => first.1 = second.1 ∧ Reflects texts first.2 (second.2, view.2))
      (RedisWorld.execService texts service command choice world) (exec service command choice view.1) := by
  obtain ⟨db, rfl, holds, whole, aligned⟩ := reflects
  have outside (command : Command) (outside : OutsideRedis command) :
      Option.Rel (fun first second => first.1 = second.1 ∧ Reflects texts first.2 (second.2, view.2))
        (RedisWorld.execOutside service command choice (mirrored view db)) (exec service command choice view.1) := by
    rw [outside_calls service outside choice view db]
    cases executed : exec service command choice view.1 with
    | none => exact .none
    | some result =>
        exact .some ⟨rfl, db, rfl, holds.of_entries (entry_outside outside (exec_changes executed)),
          exec_whole whole aligned executed⟩
  cases command with
  | cache command =>
      obtain ⟨db', performed, kept⟩ := holds.cache command choice
      have executed : exec service (.cache command) choice view.1 = some (execCache command choice view.1) := rfl
      exact .some ⟨congrArg Prod.fst performed, db', congrArg Prod.snd performed, kept,
        exec_whole whole aligned executed⟩
  | resets command =>
      obtain ⟨db', performed, kept⟩ := holds.resets whole aligned service command choice
      have executed : exec service (.resets command) choice view.1 = some (execResets service command choice view.1) :=
        rfl
      exact .some ⟨congrArg Prod.fst performed, db', congrArg Prod.snd performed, kept,
        exec_whole whole aligned executed⟩
  | guard command =>
      simp only [RedisWorld.execService, exec]
      cases guarded : service.bruteGuard with
      | none => exact .none
      | some config =>
          obtain ⟨db', performed, kept⟩ := holds.guard config command choice
          have executed : exec service (.guard command) choice view.1 =
              some (execGuard config command choice view.1) := by
            rw [exec, guarded, Option.map_some]
          exact .some ⟨congrArg Prod.fst performed, db', congrArg Prod.snd performed, kept,
            exec_whole whole aligned executed⟩
  | users command => exact outside (.users command) trivial
  | sessions command => exact outside (.sessions command) trivial
  | random command => exact outside (.random command) trivial
  | tokens command => exact outside (.tokens command) trivial
  | background command => exact outside (.background command) trivial
  | clock => exact outside .clock trivial

theorem execLimiter_reflects {command : LimiterCommand} (named : LimiterKeys (.inr command)) (choice : Choice)
    {world : RedisWorld store} {view : World store × Counters} (reflects : Reflects texts world view) :
    ∃ reply counters, execLimiter command choice view.1 view.2 = some (reply, counters) ∧
      (RedisWorld.execLimiter texts command choice world).1 = reply ∧
      Reflects texts (RedisWorld.execLimiter texts command choice world).2 (view.1, counters) := by
  obtain ⟨db, rfl, holds, whole, aligned⟩ := reflects
  cases command with
  | time => exact ⟨_, _, rfl, rfl, db, rfl, holds, whole, aligned⟩
  | eval redisKey ttlSecs =>
      obtain ⟨rest, rfl⟩ := named
      obtain ⟨counted, kept⟩ := holds.counter ttlSecs rest
      replace counted : ((mirrored view db).redis.luaIncrExpire texts ttlSecs (mirrored view db).now
        ("rl:" ++ rest)).1 = _ := counted
      simp only [execLimiter, RedisWorld.execLimiter, counted]
      cases choice.fails with
      | false => exact ⟨_, _, rfl, rfl, _, rfl, kept, whole, aligned⟩
      | true =>
          cases choice.lost with
          | true => exact ⟨_, _, rfl, rfl, db, rfl, holds, whole, aligned⟩
          | false => exact ⟨_, _, rfl, rfl, _, rfl, kept, whole, aligned⟩

/-- The server with one Redis and the server whose stores are kept apart are in step. -/
theorem redisServer_inStep (service : Service) (texts : Texts) (limits : RateLimitConfig) (store : SessionStore) :
    (redisServer service texts limits store).InStep (server service limits store) LimiterKeys (Reflects texts)
      WholeTick where
  handler := rfl
  only := fun arrival => only_gated (fun _ => trivial) (only_check limits arrival) _
  exec := by
    intro command choice world view named reflects
    cases command with
    | inl command =>
        have served : Option.Rel (fun first second => first.1 = second.1 ∧ Reflects texts first.2 (second.2, view.2))
            (RedisWorld.execService texts service command choice world) (exec service command choice view.1) :=
          exec_reflects command choice reflects
        simp only [redisServer, server, gate, system]
        generalize RedisWorld.execService texts service command choice world = first at served
        generalize AuthService.exec service command choice view.1 = second at served
        cases served with
        | none => exact .none
        | some both => exact .some both
    | inr command =>
        obtain ⟨reply, counters, counted, both⟩ := execLimiter_reflects named choice reflects
        simp only [redisServer, server, gate, counted]
        exact .some both
  drift := by
    intro tick world view whole reflects
    obtain ⟨db, rfl, holds, codes, aligned⟩ := reflects
    cases tick with
    | clock time =>
        exact .some ⟨db, rfl, holds.of_entries fun key => by cases key <;> rfl, codes, whole⟩
    | evict tokenHash => exact .some ⟨_, rfl, holds.write (.cache tokenHash) .none, codes, aligned⟩

theorem reflects_empty (texts : Texts) (store : SessionStore) {now : Time} (aligned : millisecond ∣ now) :
    Reflects texts (RedisWorld.empty store now) (World.empty store now, .empty) := by
  refine ⟨.empty, rfl, fun key => ?_, ?_, aligned⟩
  · cases key <;> exact .none
  · intro hash entry known
    cases known

/-- The stores do not notice that they share one Redis: with one Redis the server accepts the same schedules, gives
the same answers and leaves the same entries. -/
theorem shared_redis_transparent (service : Service) (texts : Texts) (limits : RateLimitConfig) (store : SessionStore)
    {now : Time} (aligned : millisecond ∣ now) (arrivals : List Arrival) (labels : List ServerLabel)
    (ticks : ∀ label ∈ labels, label.Admitted WholeTick) :
    let shared := redisServer service texts limits store
    let auth := server service limits store
    Option.Rel (fun config apart => config.tasks = apart.tasks ∧ config.history = apart.history ∧
        config.world = mirrored apart.world config.world.redis ∧ HoldsAll texts config.world.redis apart.world)
      (shared.run anything labels (shared.begin (.empty store now) arrivals))
      (auth.run anything labels (auth.begin (World.empty store now, .empty) arrivals)) := by
  intro shared auth
  have together := redisServer_inStep service texts limits store
  have ran := together.run (together.begin_matches (reflects_empty texts store aligned) arrivals) ticks
  generalize shared.run anything labels _ = first at ran ⊢
  generalize auth.run anything labels _ = second at ran ⊢
  cases ran with
  | none => exact .none
  | some same =>
      obtain ⟨db, mirror, holds, _⟩ := same.world
      refine .some ⟨same.tasks, same.history, ?_⟩
      rw [mirror]
      exact ⟨rfl, holds⟩

end Together

def sampleSession (session : CachedSession) : String :=
  String.ofList (quoteText session.sessionID.toList ++ (quoteText session.userID.toList ++
    (quoteText session.userEmail.toList ++ (quoteText session.deviceID.toList ++ tally session.expiresAt))))

def sampleReadSession (text : String) : Option CachedSession :=
  (unquoteText text.toList).bind fun id => (unquoteText id.2).bind fun user => (unquoteText user.2).bind fun email =>
    (unquoteText email.2).map fun device => ⟨String.ofList id.1, String.ofList user.1, String.ofList email.1,
      String.ofList device.1, untally device.2⟩

/-- All texts can be read back. -/
def sampleTexts : Texts where
  toJSON := sampleJSON
  marshalSession := sampleSession
  unmarshalSession := sampleReadSession
  number value := String.ofList (tally value)
  readNumber text := some (untally text.toList)
  unmarshal_session session := by
    simp only [sampleReadSession, sampleSession, String.toList_ofList, unquoteText_quoteText, Option.bind_some,
      Option.map_some, String.ofList_toList, untally_tally]
  read_number value := by rw [String.toList_ofList, untally_tally]

/-- One Redis holds the counters of both limiters, and the second login is refused. -/
theorem second_login_refused_shared :
    let limits : RateLimitConfig := ⟨5, 1⟩
    let guarded := { sample with bruteGuard := some ⟨3, minute, minute⟩ }
    let shared := redisServer guarded sampleTexts limits (postgres exactDatabase)
    ∃ config, shared.Reaches Anything (shared.begin (.empty (postgres exactDatabase) 0) []) config ∧
      config.Answered 0 (.error invalidCredentials) ∧
      config.Answered 1 (.error (tooManyLogins limits.loginLimiter)) := by
  intro limits guarded shared
  let auth := server guarded limits (postgres exactDatabase)
  let labels : List ServerLabel :=
    [.drift (.clock second), .start (bareLogin "first"), .start (bareLogin "second")] ++
      [0, 0, 0, 0, 1, 1, 1, 1, 0, 0, 0, 0].map fun task => .advance task {}
  have checked : (auth.run anything labels (auth.begin (World.empty (postgres exactDatabase) 0, .empty) [])).any
      (fun apart => decide (apart.answer? 0 = some (.error invalidCredentials) ∧
        apart.answer? 1 = some (.error (tooManyLogins limits.loginLimiter)))) = true := by
    decide +kernel
  have ticks : ∀ label ∈ labels, label.Admitted WholeTick := by
    intro label member
    rcases List.mem_append.mp member with first | later
    · simp only [List.mem_cons, List.not_mem_nil, or_false] at first
      rcases first with rfl | rfl | rfl
      · exact ⟨1000, rfl⟩
      · trivial
      · trivial
    · obtain ⟨task, _, rfl⟩ := List.mem_map.mp later
      trivial
  have same := shared_redis_transparent guarded sampleTexts limits (postgres exactDatabase) (Int.dvd_zero _) [] labels
    ticks
  dsimp only at same
  cases ran : auth.run anything labels (auth.begin (World.empty (postgres exactDatabase) 0, .empty) []) with
  | none =>
      rw [ran] at checked
      cases checked
  | some apart =>
      rw [ran] at checked
      obtain ⟨answered, refused⟩ := of_decide_eq_true checked
      rw [ran] at same
      obtain ⟨config, accepted, tasks, _⟩ := rel_some_inv same
      have answer (task : Nat) : config.answer? task = apart.answer? task := by
        rw [Config.answer?, tasks, Config.answer?]
      exact ⟨config, reaches_run labels accepted, Config.answered_of_answer? ((answer 0).trans answered),
        Config.answered_of_answer? ((answer 1).trans refused)⟩

end AuthService
