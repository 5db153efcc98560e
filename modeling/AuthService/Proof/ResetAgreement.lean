/-
This file proves that the two reset stores answer the same calls alike.
-/

import AuthService.Construction.RedisResets
import AuthService.Concurrency.Sequential
import AuthService.Proof.Expiry
import AuthService.Proof.SingleUse

namespace AuthService
open Interleaving

theorem otpKey_inj {hash hash' : String} (same : ResetCache.otpKey hash = ResetCache.otpKey hash') : hash = hash' :=
  (String.append_right_inj _).mp same

theorem resetTokenKey_inj {hash hash' : String}
    (same : ResetCache.resetTokenKey hash = ResetCache.resetTokenKey hash') : hash = hash' :=
  (String.append_right_inj _).mp same

/-- The prefixes of the two kinds of keys differ in their eighth character. -/
theorem otpKey_ne_resetTokenKey (hash tokenHash : String) :
    ResetCache.otpKey hash ≠ ResetCache.resetTokenKey tokenHash := by
  intro same
  have texts := congrArg String.toList same
  rw [ResetCache.otpKey, ResetCache.resetTokenKey, String.toList_append, String.toList_append] at texts
  have eighth : some ':' = some '_' := congrArg (fun text => text[7]?) texts
  exact absurd eighth (by decide)

section Texts
variable {V : Type} {reads : String → V → Prop} {now : Time}

/-- A text with an expiry stands for a record with the same expiry. -/
def StandsFor (reads : String → V → Prop) (text : Expiring String) (entry : Expiring V) : Prop :=
  reads text.value entry.value ∧ text.expiresAt = entry.expiresAt

theorem StandsFor.visible {text : Expiring String} {entry : Expiring V} (holds : StandsFor reads text entry)
    (now : Time) : text.visible now = entry.visible now := by
  rw [Expiring.visible, holds.2, Expiring.visible]

/-- A read of the text finds one exactly when a read of the record does. -/
theorem standsFor_lookup {texts : RedisDB} {entries : String → Option (Expiring V)} {key hash : String}
    (stored : Option.Rel (StandsFor reads) (texts key) (entries hash)) (now : Time) :
    Option.Rel reads (lookup texts now key) (lookup entries now hash) := by
  rw [lookup, lookup]
  generalize texts key = text at stored ⊢
  generalize entries hash = entry at stored ⊢
  cases stored with
  | none => exact .none
  | some holds =>
      dsimp only
      rw [holds.visible]
      split
      · exact .some holds.1
      · exact .none

theorem rel_some_inv {A B : Type} {related : A → B → Prop} {first : Option A} {entry : B}
    (rel : Option.Rel related first (some entry)) : ∃ text, first = some text ∧ related text entry := by
  cases rel with
  | some holds => exact ⟨_, rfl, holds⟩

theorem rel_none_inv {A B : Type} {related : A → B → Prop} {first : Option A}
    (rel : Option.Rel related first none) : first = none := by
  cases rel
  rfl

end Texts

section Script
variable {json : JSON} {db : RedisDB} {now expiry : Time} {key : String} {text : Expiring String} {record : OTPRecord}

/-- A code that is about to expire or has no expiry is not counted. -/
theorem incrOTPScript_refuses (present : db key = some text)
    (ended : ∀ expiry, text.expiresAt = some expiry → expiry ≤ now)
    (decoded : json.decode text.value = some record.table) :
    ResetCache.incrOTPScript json now key db = (some (-1), db) := by
  by_cases visible : text.visible now = true
  · have read : db.get now key = some text.value := lookup_of_visible present visible
    have short : db.pttl now key ≤ 0 := by
      rw [RedisDB.pttl, present]
      dsimp only
      rw [if_pos visible]
      split
      · rename_i expiry known
        have nonpositive (distance : Int) (behind : distance ≤ 0) : distance / 1000000 ≤ 0 := by omega
        exact nonpositive _ (Int.sub_nonpos_of_le (ended expiry known))
      · decide
    simp only [ResetCache.incrOTPScript, read, decoded, if_pos short]
  · have read : db.get now key = none := lookup_of_hidden present visible
    simp only [ResetCache.incrOTPScript, read]

/-- A code that lives on for whole milliseconds is counted and keeps its expiry. -/
theorem incrOTPScript_counts (present : db key = some text) (known : text.expiresAt = some expiry)
    (later : now < expiry) (aligned : millisecond ∣ expiry - now)
    (decoded : json.decode text.value = some record.table) :
    ResetCache.incrOTPScript json now key db =
      (some (record.attempts + 1), Function.update db key
        (some ⟨json.encode { record with attempts := record.attempts + 1 }.table, some expiry⟩)) := by
  have visible : text.visible now = true := by
    rw [Expiring.visible, known]
    exact decide_eq_true (Int.le_of_lt later)
  have read : db.get now key = some text.value := lookup_of_visible present visible
  have remaining : db.pttl now key = (expiry - now) / millisecond := by
    rw [RedisDB.pttl, present]
    dsimp only
    rw [if_pos visible, known]
  obtain ⟨count, distance⟩ := aligned
  have whole : (expiry - now) / millisecond = count := by
    rw [distance]
    exact Int.mul_ediv_cancel_left count (by decide)
  have arithmetic (start stop : Int) (apart : stop - start = 1000000 * count) (follows : start < stop) :
      ¬ count ≤ 0 ∧ start + count * 1000000 = stop := by omega
  obtain ⟨positive, kept⟩ := arithmetic now expiry distance later
  replace kept : now + count * millisecond = expiry := kept
  simp only [ResetCache.incrOTPScript, read, decoded, remaining, whole, if_neg positive, RedisDB.setPX, kept]
  rfl

end Script

/-- Both Go and the script read the record from the text. -/
def JSON.ReadsOTP (json : JSON) (text : String) (record : OTPRecord) : Prop :=
  json.unmarshalOTP text = some record ∧ json.decode text = some record.table

def JSON.ReadsResetToken (json : JSON) (text : String) (record : ResetTokenRecord) : Prop :=
  json.unmarshalResetToken text = some record

section Redis
variable {service : Service} {store : SessionStore} {json : JSON} {db : RedisDB} {world : World store} {now : Time}

/-- The database holds the records of the world as texts under their keys. -/
structure Stores (json : JSON) (db : RedisDB) (world : World store) : Prop where
  otps : ∀ hash, Option.Rel (StandsFor json.ReadsOTP) (db (ResetCache.otpKey hash)) (world.otps hash)
  resetTokens : ∀ hash,
    Option.Rel (StandsFor json.ReadsResetToken) (db (ResetCache.resetTokenKey hash)) (world.resetTokens hash)

/-- Attempts are counted from zero, and codes expire at whole milliseconds. -/
def WholeCodes (world : World store) : Prop :=
  ∀ hash entry, world.otps hash = some entry →
    0 ≤ entry.value.attempts ∧ ∀ expiry, entry.expiresAt = some expiry → millisecond ∣ expiry

theorem Stores.update_otp (stores : Stores json db world) (hash : String) {text : Option (Expiring String)}
    {entry : Option (Expiring OTPRecord)} (holds : Option.Rel (StandsFor json.ReadsOTP) text entry) :
    Stores json (Function.update db (ResetCache.otpKey hash) text)
      { world with otps := Function.update world.otps hash entry } := by
  refine ⟨fun other => ?_, fun other => ?_⟩
  · by_cases same : other = hash
    · subst same
      simpa only [Function.update_self] using holds
    · simpa only [Function.update_of_ne same, Function.update_of_ne fun clash => same (otpKey_inj clash)] using
        stores.otps other
  · simpa only [Function.update_of_ne (otpKey_ne_resetTokenKey hash other).symm] using stores.resetTokens other

theorem Stores.update_resetToken (stores : Stores json db world) (hash : String) {text : Option (Expiring String)}
    {entry : Option (Expiring ResetTokenRecord)} (holds : Option.Rel (StandsFor json.ReadsResetToken) text entry) :
    Stores json (Function.update db (ResetCache.resetTokenKey hash) text)
      { world with resetTokens := Function.update world.resetTokens hash entry } := by
  refine ⟨fun other => ?_, fun other => ?_⟩
  · simpa only [Function.update_of_ne (otpKey_ne_resetTokenKey other hash)] using stores.otps other
  · by_cases same : other = hash
    · subst same
      simpa only [Function.update_self] using holds
    · simpa only [Function.update_of_ne same, Function.update_of_ne fun clash => same (resetTokenKey_inj clash)] using
        stores.resetTokens other

/-- With times in whole milliseconds the script counts as the record does. -/
theorem Stores.incrOTPAttempts (stores : Stores json db world) (whole : WholeCodes world)
    (aligned : millisecond ∣ world.now) (email : String) :
    (ResetCache.exec service json (.incrOTPAttempts email) world.now db).1 =
        (AuthService.incrOTPAttempts service email world).1 ∧
      Stores json (ResetCache.exec service json (.incrOTPAttempts email) world.now db).2
        (AuthService.incrOTPAttempts service email world).2 := by
  have stored := stores.otps (service.hash email)
  cases known : world.otps (service.hash email) with
  | none =>
      rw [known] at stored
      have read : db.get world.now (ResetCache.otpKey (service.hash email)) = none := by
        rw [RedisDB.get, lookup, rel_none_inv stored]
      simp only [ResetCache.exec, ResetCache.incrOTPScript, read, AuthService.incrOTPAttempts, known]
      exact ⟨rfl, stores⟩
  | some entry =>
      rw [known] at stored
      obtain ⟨text, present, ⟨read, decoded⟩, expires⟩ := rel_some_inv stored
      obtain ⟨counted, lives⟩ := whole _ entry known
      have refused (ended : ∀ expiry, text.expiresAt = some expiry → expiry ≤ world.now) :=
        incrOTPScript_refuses present ended decoded
      cases ends : entry.expiresAt with
      | none =>
          have script := refused fun expiry found => by rw [expires, ends] at found; cases found
          simp only [ResetCache.exec, script, AuthService.incrOTPAttempts, known, ends]
          exact ⟨rfl, stores⟩
      | some expiry =>
          by_cases expired : expiry ≤ world.now
          · have script := refused fun expiry' found => by
              rw [expires, ends, Option.some.injEq] at found
              exact found ▸ expired
            simp only [ResetCache.exec, script, AuthService.incrOTPAttempts, known, ends, if_pos expired]
            exact ⟨rfl, stores⟩
          · have script := incrOTPScript_counts present (expires.trans ends) (Int.not_le.mp expired)
              (Int.dvd_sub (lives expiry ends) aligned) decoded
            have genuine : ¬ entry.value.attempts + 1 = -1 := by omega
            simp only [ResetCache.exec, script, AuthService.incrOTPAttempts, known, ends, if_neg expired,
              if_neg genuine]
            exact ⟨trivial, stores.update_otp _ (.some ⟨⟨json.unmarshal_encode _, json.decode_encode _⟩, rfl⟩)⟩

/-- The Redis database follows the records of the service call by call. -/
theorem Stores.exec (stores : Stores json db world) (whole : WholeCodes world) (aligned : millisecond ∣ world.now)
    (service : Service) (command : ResetCommand) :
    (ResetCache.exec service json command world.now db).1 = (execResets service command {} world).1 ∧
      Stores json (ResetCache.exec service json command world.now db).2 (execResets service command {} world).2 := by
  cases command with
  | saveOTP userID email otpHash ttl =>
      refine ⟨rfl, stores.update_otp _ (.some ⟨⟨?_, ?_⟩, rfl⟩)⟩
      · exact json.unmarshal_marshal _
      · exact json.decode_marshal _
  | getOTP email =>
      refine ⟨?_, stores⟩
      have read := standsFor_lookup (stores.otps (service.hash email)) world.now
      cases known : lookup world.otps world.now (service.hash email) with
      | none =>
          rw [known] at read
          simp only [ResetCache.exec, execResets, RedisDB.get, rel_none_inv read, known]
          rfl
      | some record =>
          rw [known] at read
          obtain ⟨raw, found, unmarshalled, _⟩ := rel_some_inv read
          simp only [ResetCache.exec, execResets, RedisDB.get, found, known, unmarshalled]
          rfl
  | incrOTPAttempts email => exact stores.incrOTPAttempts whole aligned email
  | deleteOTP email => exact ⟨rfl, stores.update_otp _ .none⟩
  | saveResetToken tokenHash userID email ttl =>
      exact ⟨rfl, stores.update_resetToken _ (.some ⟨json.unmarshal_resetToken _, rfl⟩)⟩
  | getResetToken tokenHash =>
      refine ⟨?_, stores⟩
      have read := standsFor_lookup (stores.resetTokens tokenHash) world.now
      cases known : lookup world.resetTokens world.now tokenHash with
      | none =>
          rw [known] at read
          simp only [ResetCache.exec, execResets, RedisDB.get, rel_none_inv read, known]
          rfl
      | some record =>
          rw [known] at read
          obtain ⟨raw, found, unmarshalled⟩ := rel_some_inv read
          replace unmarshalled : json.unmarshalResetToken raw = some record := unmarshalled
          simp only [ResetCache.exec, execResets, RedisDB.get, found, known, unmarshalled]
          rfl
  | deleteResetToken tokenHash => exact ⟨rfl, stores.update_resetToken _ .none⟩

theorem redisExpiry_whole {ttl : Duration} (aligned : millisecond ∣ now) {expiry : Time}
    (known : redisExpiry now ttl = some expiry) : millisecond ∣ expiry := by
  unfold redisExpiry at known
  split at known
  · cases known
  · cases known
    refine Int.dvd_add aligned ?_
    rcases Int.le_total millisecond (ttl / millisecond * millisecond) with le | le
    · rw [Int.max_eq_right le]
      exact Int.dvd_mul_left _ _
    · exact ⟨1, (Int.max_eq_left le).trans (Int.mul_one millisecond).symm⟩

theorem WholeCodes.update (whole : WholeCodes world) {hash : String} {entry : Option (Expiring OTPRecord)}
    (fits : ∀ record, entry = some record →
      0 ≤ record.value.attempts ∧ ∀ expiry, record.expiresAt = some expiry → millisecond ∣ expiry) :
    WholeCodes { world with otps := Function.update world.otps hash entry } := by
  intro other record known
  by_cases same : other = hash
  · subst same
    simp only [Function.update_self] at known
    exact fits record known
  · simp only [Function.update_of_ne same] at known
    exact whole other record known

theorem WholeCodes.exec (whole : WholeCodes world) (aligned : millisecond ∣ world.now) (command : ResetCommand) :
    WholeCodes (execResets service command {} world).2 := by
  cases command with
  | saveOTP userID email otpHash ttl =>
      refine whole.update fun record known => ?_
      cases known
      exact ⟨Int.le_refl 0, fun expiry => redisExpiry_whole aligned⟩
  | incrOTPAttempts email =>
      simp only [execResets, if_neg Bool.false_ne_true, AuthService.incrOTPAttempts]
      split
      · exact whole
      · rename_i entry known
        obtain ⟨counted, lives⟩ := whole _ entry known
        split
        · exact whole
        · rename_i expiry ends
          split
          · exact whole
          · refine whole.update fun record found => ?_
            cases found
            refine ⟨by dsimp only; omega, fun other same => ?_⟩
            cases same
            exact lives expiry ends
  | deleteOTP email => exact whole.update fun record known => by cases known
  | getOTP | saveResetToken | getResetToken | deleteResetToken => exact whole

end Redis

section Visible
variable {V : Type} {entries entries' : String → Option (Expiring V)} {now later : Time}

/-- Two stores have the same entries that can still be read. -/
def SameVisible (now : Time) (entries entries' : String → Option (Expiring V)) : Prop :=
  ∀ key, ((entries key).filter fun entry => entry.visible now) = (entries' key).filter fun entry => entry.visible now

theorem SameVisible.lookup (same : SameVisible now entries entries') (key : String) :
    lookup entries now key = lookup entries' now key := by
  rw [lookup_eq_filter, lookup_eq_filter, same key]

theorem SameVisible.mono (same : SameVisible now entries entries') (follows : now ≤ later) :
    SameVisible later entries entries' := by
  intro key
  have narrowed (entry : Option (Expiring V)) :
      (entry.filter fun entry => entry.visible later) =
        (entry.filter fun entry => entry.visible now).filter fun entry => entry.visible later := by
    refine Option.ext fun found => ?_
    simp only [Option.filter_eq_some_iff]
    exact ⟨fun ⟨known, visible⟩ => ⟨⟨known, visible_mono follows visible⟩, visible⟩,
      fun ⟨⟨known, _⟩, visible⟩ => ⟨known, visible⟩⟩
  rw [narrowed (entries key), narrowed (entries' key), same key]

theorem SameVisible.update (same : SameVisible now entries entries') (key : String) (entry : Option (Expiring V)) :
    SameVisible now (Function.update entries key entry) (Function.update entries' key entry) := by
  intro other
  by_cases own : other = key
  · subst own
    simp only [Function.update_self]
  · simp only [Function.update_of_ne own]
    exact same other

/-- The memory store may forget an entry that cannot be read any more. -/
theorem SameVisible.forget (same : SameVisible now entries entries') {key : String}
    (gone : AuthService.lookup entries' now key = none) :
    SameVisible now entries (Function.update entries' key none) := by
  intro other
  by_cases own : other = key
  · subst own
    rw [same other, Function.update_self]
    rw [lookup_eq_filter, Option.map_eq_none_iff] at gone
    exact gone
  · simp only [Function.update_of_ne own]
    exact same other

end Visible
section Memory
variable {service : Service} {store : SessionStore} {json : JSON} {db : RedisDB} {world memory : World store}

/-- A lifetime is a positive number of milliseconds. -/
def ResetCommand.WholeTTL : ResetCommand → Prop
  | .saveOTP _ _ _ ttl => 0 < ttl ∧ millisecond ∣ ttl
  | .saveResetToken _ _ _ ttl => 0 < ttl ∧ millisecond ∣ ttl
  | _ => True

/-- The in-memory store has the records on Redis that can still be read, and every code has an expiry. -/
structure SameResets (world memory : World store) : Prop where
  clock : world.now = memory.now
  otps : SameVisible memory.now world.otps memory.otps
  resetTokens : SameVisible memory.now world.resetTokens memory.resetTokens
  expires : ∀ hash entry, world.otps hash = some entry → entry.expiresAt ≠ none

/-- No code expires at this very instant. -/
def NoneExpiring (memory : World store) : Prop :=
  ∀ hash entry, memory.otps hash = some entry → entry.expiresAt ≠ some memory.now

theorem SameResets.update_otp (same : SameResets world memory) (hash : String) (entry : Option (Expiring OTPRecord))
    (expires : ∀ record, entry = some record → record.expiresAt ≠ none) :
    SameResets { world with otps := Function.update world.otps hash entry }
      { memory with otps := Function.update memory.otps hash entry } := by
  refine ⟨same.clock, same.otps.update hash entry, same.resetTokens, fun other record known => ?_⟩
  by_cases own : other = hash
  · subst own
    simp only [Function.update_self] at known
    exact expires record known
  · simp only [Function.update_of_ne own] at known
    exact same.expires other record known

theorem SameResets.update_resetToken (same : SameResets world memory) (hash : String)
    (entry : Option (Expiring ResetTokenRecord)) :
    SameResets { world with resetTokens := Function.update world.resetTokens hash entry }
      { memory with resetTokens := Function.update memory.resetTokens hash entry } :=
  ⟨same.clock, same.otps, same.resetTokens.update hash entry, same.expires⟩

theorem SameResets.incrOTPAttempts (same : SameResets world memory) (between : NoneExpiring memory) (email : String) :
    (AuthService.incrOTPAttempts service email world).1 = (execMemoryResets service (.incrOTPAttempts email) memory).1 ∧
      SameResets (AuthService.incrOTPAttempts service email world).2
        (execMemoryResets service (.incrOTPAttempts email) memory).2 := by
  have alike := same.otps (service.hash email)
  cases found : (memory.otps (service.hash email)).filter fun entry => entry.visible memory.now with
  | none =>
      rw [found] at alike
      have gone : lookup memory.otps memory.now (service.hash email) = none := by
        rw [lookup_eq_filter, found]
        rfl
      have forgotten : SameResets world
          { memory with otps := Function.update memory.otps (service.hash email) none } :=
        ⟨same.clock, same.otps.forget gone, same.resetTokens, same.expires⟩
      simp only [AuthService.incrOTPAttempts, execMemoryResets, found]
      split
      · exact ⟨rfl, forgotten⟩
      · rename_i entry known
        have hidden := Option.filter_eq_none_iff.mp alike entry known
        obtain ⟨expiry, ends⟩ := Option.ne_none_iff_exists'.mp (same.expires _ entry known)
        have expired : expiry ≤ world.now := by
          rw [Expiring.visible, ends] at hidden
          rw [same.clock]
          exact Int.le_of_lt (Int.not_le.mp (mt decide_eq_true hidden))
        simp only [ends, if_pos expired]
        exact ⟨trivial, forgotten⟩
  | some entry =>
      rw [found] at alike
      obtain ⟨known, visible⟩ := Option.filter_eq_some_iff.mp alike
      obtain ⟨known', _⟩ := Option.filter_eq_some_iff.mp found
      obtain ⟨expiry, ends⟩ := Option.ne_none_iff_exists'.mp (same.expires _ entry known)
      have later : ¬ expiry ≤ world.now := by
        rw [Expiring.visible, ends] at visible
        rw [same.clock, Int.not_le]
        refine Int.lt_iff_le_and_ne.mpr ⟨of_decide_eq_true visible, ?_⟩
        rintro rfl
        exact between _ entry known' ends
      simp only [AuthService.incrOTPAttempts, known, ends, if_neg later, execMemoryResets, found]
      refine ⟨trivial, same.update_otp _ _ fun record counted => ?_⟩
      cases counted
      exact Option.some_ne_none _

/-- With whole lifetimes the two stores stay alike call by call. -/
theorem SameResets.exec (same : SameResets world memory) (between : NoneExpiring memory) (service : Service)
    {command : ResetCommand} (whole : command.WholeTTL) :
    (execResets service command {} world).1 = (execMemoryResets service command memory).1 ∧
      SameResets (execResets service command {} world).2 (execMemoryResets service command memory).2 := by
  cases command with
  | saveOTP userID email otpHash ttl =>
      have lifetime : redisExpiry world.now ttl = some (memory.now + ttl) := by
        rw [redisExpiry_exact whole.1 whole.2, same.clock]
      simp only [execResets, execMemoryResets, if_neg Bool.false_ne_true, lifetime]
      refine ⟨trivial, same.update_otp _ _ fun record saved => ?_⟩
      cases saved
      exact Option.some_ne_none _
  | getOTP email =>
      have read := same.otps.lookup (service.hash email)
      cases found : lookup memory.otps memory.now (service.hash email) with
      | none =>
          simp only [execResets, execMemoryResets, if_neg Bool.false_ne_true, same.clock, read, found]
          exact ⟨trivial, same.clock, same.otps.forget found, same.resetTokens, same.expires⟩
      | some record =>
          simp only [execResets, execMemoryResets, if_neg Bool.false_ne_true, same.clock, read, found]
          exact ⟨trivial, same⟩
  | incrOTPAttempts email => exact same.incrOTPAttempts between email
  | deleteOTP email => exact ⟨rfl, same.update_otp _ none fun record deleted => by cases deleted⟩
  | saveResetToken tokenHash userID email ttl =>
      have lifetime : redisExpiry world.now ttl = some (memory.now + ttl) := by
        rw [redisExpiry_exact whole.1 whole.2, same.clock]
      simp only [execResets, execMemoryResets, if_neg Bool.false_ne_true, lifetime]
      exact ⟨trivial, same.update_resetToken _ _⟩
  | getResetToken tokenHash =>
      have read := same.resetTokens.lookup tokenHash
      cases found : lookup memory.resetTokens memory.now tokenHash with
      | none =>
          simp only [execResets, execMemoryResets, if_neg Bool.false_ne_true, same.clock, read, found]
          exact ⟨trivial, same.clock, same.otps, same.resetTokens.forget found, same.expires⟩
      | some record =>
          simp only [execResets, execMemoryResets, if_neg Bool.false_ne_true, same.clock, read, found]
          exact ⟨trivial, same⟩
  | deleteResetToken tokenHash => exact ⟨rfl, same.update_resetToken _ none⟩

/-- One call of a reset store at a time. -/
structure ResetCall where
  command : ResetCommand
  time : Time

/-- A call with its reply. -/
abbrev ResetReply := (command : ResetCommand) × command.Reply

/-- The in-memory store after a call. -/
def memoryNext (service : Service) (memory : World store) (call : ResetCall) : World store :=
  (execMemoryResets service call.command { memory with now := call.time }).2

def memoryReply (service : Service) (memory : World store) (call : ResetCall) : ResetReply :=
  ⟨call.command, (execMemoryResets service call.command { memory with now := call.time }).1⟩

/-- The Redis store after a call. -/
def redisNext (service : Service) (json : JSON) (db : RedisDB) (call : ResetCall) : RedisDB :=
  (ResetCache.exec service json call.command call.time db).2

def redisReply (service : Service) (json : JSON) (db : RedisDB) (call : ResetCall) : ResetReply :=
  ⟨call.command, (ResetCache.exec service json call.command call.time db).1⟩

/-- The times of the calls do not decrease, times and lifetimes are whole milliseconds, and no stored record expires
at the time of the call. -/
structure ProperCall (memory : World store) (call : ResetCall) : Prop where
  follows : memory.now ≤ call.time
  wholeTime : millisecond ∣ call.time
  wholeTTL : call.command.WholeTTL
  otps : ∀ hash entry, memory.otps hash = some entry → entry.expiresAt ≠ some call.time
  resetTokens : ∀ hash entry, memory.resetTokens hash = some entry → entry.expiresAt ≠ some call.time

/-- The database on Redis holds what the in-memory store holds. -/
def Linked (json : JSON) (memory : World store) (db : RedisDB) : Prop :=
  ∃ world : World store, Stores json db world ∧ WholeCodes world ∧ SameResets world memory

theorem Linked.step (linked : Linked json memory db) (service : Service) {call : ResetCall}
    (proper : ProperCall memory call) :
    redisReply service json db call = memoryReply service memory call ∧
      Linked json (memoryNext service memory call) (redisNext service json db call) := by
  obtain ⟨world, stores, whole, same⟩ := linked
  have stores' : Stores json db { world with now := call.time } := ⟨stores.otps, stores.resetTokens⟩
  have whole' : WholeCodes { world with now := call.time } := whole
  have same' : SameResets { world with now := call.time } { memory with now := call.time } :=
    ⟨rfl, same.otps.mono proper.follows, same.resetTokens.mono proper.follows, same.expires⟩
  obtain ⟨replied, stored⟩ := stores'.exec whole' proper.wholeTime service call.command
  obtain ⟨replied', kept⟩ := same'.exec proper.otps service proper.wholeTTL
  refine ⟨?_, _, stored, whole'.exec proper.wholeTime call.command, kept⟩
  rw [redisReply, memoryReply, replied, replied']

end Memory

/-- The two reset stores give the same replies to every list of calls. -/
theorem reset_stores_agree (service : Service) (json : JSON) (store : SessionStore) (start : Time)
    (calls : List ResetCall) (proper : Along (memoryNext service) ProperCall (World.empty store start) calls) :
    outputsOf (redisNext service json) (redisReply service json) .empty calls =
      outputsOf (memoryNext service) (memoryReply service) (World.empty store start) calls := by
  have empty : Linked json (World.empty store start) .empty := by
    refine ⟨World.empty store start, ⟨fun _ => .none, fun _ => .none⟩, ?_, rfl, fun _ => rfl, fun _ => rfl, ?_⟩
    · intro hash entry known
      cases known
    · intro hash entry known
      cases known
  have each (memory : World store) (call : ResetCall) (db : RedisDB) (linked : Linked json memory db)
      (proper : ProperCall memory call) := linked.step service proper
  exact outputsOf_eq each empty proper

/-- A text in which a slash precedes every character and a semicolon ends the text. -/
def quoteText (text : List Char) : List Char := text.flatMap (fun c => ['/', c]) ++ [';']

def unquoteText : List Char → Option (List Char × List Char)
  | '/' :: c :: rest => (unquoteText rest).map fun result => (c :: result.1, result.2)
  | ';' :: rest => some ([], rest)
  | _ => none

theorem unquoteText_quoteText (text rest : List Char) : unquoteText (quoteText text ++ rest) = some (text, rest) := by
  induction text with
  | nil => rfl
  | cons c text ih =>
      change (unquoteText (quoteText text ++ rest)).map (fun result => (c :: result.1, result.2)) = _
      rw [ih]
      rfl

/-- A number as a row of signs. -/
def tally (number : Int) : List Char := List.replicate number.toNat '+' ++ List.replicate (-number).toNat '-'

def untally (signs : List Char) : Int := signs.count '+' - signs.count '-'

theorem untally_tally (number : Int) : untally (tally number) = number := by
  have plus : (tally number).count '+' = number.toNat := by
    simp [tally, List.count_replicate]
  have minus : (tally number).count '-' = (-number).toNat := by
    simp [tally, List.count_replicate]
  rw [untally, plus, minus]
  omega

def sampleEncode (table : OTPTable) : String :=
  String.ofList (quoteText table.userID.toList ++ (quoteText table.otpHash.toList ++ tally (table.attempts.getD 0)))

def sampleUnmarshal (text : String) : Option OTPRecord :=
  (unquoteText text.toList).bind fun user =>
    (unquoteText user.2).map fun hash => ⟨String.ofList user.1, String.ofList hash.1, untally hash.2⟩

theorem sampleUnmarshal_encode (table : OTPTable) :
    sampleUnmarshal (sampleEncode table) = some ⟨table.userID, table.otpHash, table.attempts.getD 0⟩ := by
  simp only [sampleUnmarshal, sampleEncode, String.toList_ofList, unquoteText_quoteText, Option.bind_some,
    Option.map_some, String.ofList_toList, untally_tally]

/-- Texts that can be read back. -/
def sampleJSON : JSON where
  marshalOTP record := sampleEncode record.table
  unmarshalOTP := sampleUnmarshal
  marshalResetToken record := sampleEncode ⟨record.userID, record.email, none⟩
  unmarshalResetToken text := (sampleUnmarshal text).map fun record => ⟨record.userID, record.otpHash⟩
  decode text := (sampleUnmarshal text).map OTPRecord.table
  encode := sampleEncode
  unmarshal_marshal record := sampleUnmarshal_encode record.table
  unmarshal_encode record := sampleUnmarshal_encode record.table
  decode_marshal record := by rw [sampleUnmarshal_encode]; rfl
  decode_encode record := by rw [sampleUnmarshal_encode]; rfl
  unmarshal_resetToken record := by rw [sampleUnmarshal_encode]; rfl

/-- A code is saved, counted once and read after its end. -/
def sampleCalls : List ResetCall :=
  [⟨.saveOTP "ann" "ann@example.com" "h" (2 * millisecond), 0⟩, ⟨.incrOTPAttempts "ann@example.com", millisecond⟩,
    ⟨.getOTP "ann@example.com", 3 * millisecond⟩]

/-- Both stores count one attempt and then report that the code is gone. -/
theorem sample_calls_agree :
    outputsOf (redisNext sample sampleJSON) (redisReply sample sampleJSON) .empty sampleCalls =
      [⟨.saveOTP "ann" "ann@example.com" "h" (2 * millisecond), .ok ()⟩,
        ⟨.incrOTPAttempts "ann@example.com", .ok 1⟩, ⟨.getOTP "ann@example.com", .error .resetCodeNotFound⟩] := by
  have written {entries : String → Option (Expiring OTPRecord)} {key hash : String} {entry other : Expiring OTPRecord}
      (known : Function.update entries key (some entry) hash = some other) :
      other = entry ∨ entries hash = some other := by
    by_cases own : hash = key
    · subst own
      rw [Function.update_self, Option.some.injEq] at known
      exact .inl known.symm
    · rw [Function.update_of_ne own] at known
      exact .inr known
  refine (reset_stores_agree sample sampleJSON memory 0 sampleCalls ⟨?_, ?_, ?_, trivial⟩).trans rfl
  · exact ⟨Int.le_refl 0, ⟨0, rfl⟩, ⟨by decide, ⟨2, rfl⟩⟩, nofun, nofun⟩
  · refine ⟨by decide, ⟨1, rfl⟩, trivial, fun hash entry known => ?_, nofun⟩
    rcases written known with rfl | nothing
    · exact (by decide : some (0 + 2 * millisecond) ≠ some millisecond)
    · cases nothing
  · refine ⟨by decide, ⟨3, rfl⟩, trivial, fun hash entry known => ?_, nofun⟩
    rcases written known with rfl | earlier
    · exact (by decide : some (0 + 2 * millisecond) ≠ some (3 * millisecond))
    · rcases written earlier with rfl | nothing
      · exact (by decide : some (0 + 2 * millisecond) ≠ some (3 * millisecond))
      · cases nothing

end AuthService
