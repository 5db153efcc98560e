/-
This file translates the reset store on Redis down to its keys, its JSON texts and its script.
-/

import AuthService.Construction.ResetStores

namespace AuthService

/-- One Redis database holds texts under the keys of all stores. -/
abbrev RedisDB := String → Option (Expiring String)

namespace RedisDB

def empty : RedisDB := fun _ => none

def get (now : Time) (key : String) (db : RedisDB) : Option String := lookup db now key

def set (now : Time) (key value : String) (ttl : Duration) (db : RedisDB) : RedisDB :=
  Function.update db key (some ⟨value, redisExpiry now ttl⟩)

def del (key : String) (db : RedisDB) : RedisDB := Function.update db key none

/-- The remaining lifetime in milliseconds. A key without an expiry has -1, and a missing key has -2. -/
def pttl (now : Time) (key : String) (db : RedisDB) : Int :=
  match db key with
  | none => -2
  | some entry =>
      if entry.visible now then
        match entry.expiresAt with
        | some expiry => (expiry - now) / millisecond
        | none => -1
      else -2

/-- This is SET with the option PX. -/
def setPX (now : Time) (key value : String) (milliseconds : Int) (db : RedisDB) : RedisDB :=
  Function.update db key (some ⟨value, some (now + milliseconds * millisecond)⟩)

end RedisDB

/-- The table that the script reads from the text of a code record. -/
structure OTPTable where
  userID : String
  otpHash : String
  attempts : Option Int
deriving DecidableEq

def OTPRecord.table (record : OTPRecord) : OTPTable := ⟨record.userID, record.otpHash, some record.attempts⟩

/-- JSON texts as Go and cjson write and read them. Both read back every field that either of them wrote. -/
structure JSON where
  marshalOTP : OTPRecord → String
  unmarshalOTP : String → Option OTPRecord
  marshalResetToken : ResetTokenRecord → String
  unmarshalResetToken : String → Option ResetTokenRecord
  decode : String → Option OTPTable
  encode : OTPTable → String
  unmarshal_marshal : ∀ record, unmarshalOTP (marshalOTP record) = some record
  unmarshal_encode : ∀ record, unmarshalOTP (encode record.table) = some record
  decode_marshal : ∀ record, decode (marshalOTP record) = some record.table
  decode_encode : ∀ record : OTPRecord, decode (encode record.table) = some record.table
  unmarshal_resetToken : ∀ record, unmarshalResetToken (marshalResetToken record) = some record

namespace ResetCache

def otpKey (hash : String) : String := "pwreset:" ++ hash

def resetTokenKey (tokenHash : String) : String := "pwreset_token:" ++ tokenHash

/-- The script returns no number when the text under the key is not a table. -/
def incrOTPScript (json : JSON) (now : Time) (key : String) (db : RedisDB) : Option Int × RedisDB :=
  match db.get now key with
  | none => (some (-1), db)
  | some raw =>
      match json.decode raw with
      | none => (none, db)
      | some table =>
          let attempts := table.attempts.getD 0 + 1
          let ttl := db.pttl now key
          if ttl ≤ 0 then (some (-1), db)
          else (some attempts, db.setPX now key (json.encode { table with attempts := some attempts }) ttl)

/-- A text that cannot be read is an error other than a missing record. -/
def exec (service : Service) (json : JSON) : (command : ResetCommand) → Time → RedisDB → command.Reply × RedisDB
  | .saveOTP userID email otpHash ttl, now, db =>
      (.ok (), db.set now (otpKey (service.hash email)) (json.marshalOTP ⟨userID, otpHash, 0⟩) ttl)
  | .getOTP email, now, db =>
      (match db.get now (otpKey (service.hash email)) with
        | none => .error .resetCodeNotFound
        | some raw =>
            match json.unmarshalOTP raw with
            | none => .error .other
            | some record => .ok record, db)
  | .incrOTPAttempts email, now, db =>
      let result := incrOTPScript json now (otpKey (service.hash email)) db
      (match result.1 with
        | none => .error .other
        | some n => if n = -1 then .error .resetCodeNotFound else .ok n, result.2)
  | .deleteOTP email, _, db => (.ok (), db.del (otpKey (service.hash email)))
  | .saveResetToken tokenHash userID email ttl, now, db =>
      (.ok (), db.set now (resetTokenKey tokenHash) (json.marshalResetToken ⟨userID, email⟩) ttl)
  | .getResetToken tokenHash, now, db =>
      (match db.get now (resetTokenKey tokenHash) with
        | none => .error .resetTokenNotFound
        | some raw =>
            match json.unmarshalResetToken raw with
            | none => .error .other
            | some record => .ok record, db)
  | .deleteResetToken tokenHash, _, db => (.ok (), db.del (resetTokenKey tokenHash))

end ResetCache
end AuthService
