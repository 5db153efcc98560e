/-
This file translates the password package: the text of an argon2id hash and its check.
-/

import AuthService.Encoding.Base64
import AuthService.Encoding.Scan

namespace AuthService
namespace Password

abbrev Bytes := List UInt8

/-- A call panics, returns an error or returns a value. -/
inductive Result (E A : Type) where
  | panic
  | error (error : E)
  | ok (value : A)
deriving DecidableEq

/-- The bytes of an ASCII text. -/
def ascii (text : String) : Bytes := text.toList.map fun character => .ofNat character.toNat

/-- The digits that Sprintf prints for the verb d. -/
def decimalText (number : Nat) : Bytes := (Nat.toDigits 10 number).map fun digit => .ofNat digit.toNat

def memory : UInt32 := 65536

def iterations : UInt32 := 3

def parallelism : UInt8 := 4

def saltLen : Nat := 16

def keyLen : UInt32 := 32

/-- This is `argon2.Version`. -/
def version : Nat := 19

/-- The keys that argon2id derives. They have the length that was asked for. -/
structure Argon2 where
  key : (password salt : Bytes) → (time memory : UInt32) → (threads : UInt8) → (keyLen : UInt32) → Bytes
  length_key : ∀ password salt time memory threads keyLen,
    (key password salt time memory threads keyLen).length = keyLen.toNat

/-- This is `argon2.IDKey`, which panics without passes, without threads and for an empty key. -/
def Argon2.idKey (argon : Argon2) (password salt : Bytes) (time memory : UInt32) (threads : UInt8)
    (keyLen : UInt32) : Option Bytes :=
  if time = 0 ∨ threads = 0 ∨ keyLen = 0 then none else some (argon.key password salt time memory threads keyLen)

/-- The bytes that `rand.Read` writes. -/
abbrev Salt := { bytes : Bytes // bytes.length = saltLen }

inductive HashError where
  | generateSalt
deriving DecidableEq

/-- The salt is missing when `rand.Read` fails. -/
def hash (argon : Argon2) (plaintext : Bytes) (random : Option Salt) : Result HashError Bytes :=
  match random with
  | none => .error .generateSalt
  | some salt =>
      match argon.idKey plaintext salt iterations memory parallelism keyLen with
      | none => .panic
      | some hash =>
          .ok (ascii "$argon2id$v=" ++ (decimalText version ++ (ascii "$m=" ++ (decimalText memory.toNat ++
            (ascii ",t=" ++ (decimalText iterations.toNat ++ (ascii ",p=" ++ (decimalText parallelism.toNat ++
              (ascii "$" ++ (Base64.encode salt ++ (ascii "$" ++ Base64.encode hash)))))))))))

/-- This is `DecodeString` of the raw standard encoding, which skips line breaks. -/
def decodeString (text : Bytes) : Option Bytes :=
  Base64.decode (text.filter fun byte => byte ≠ 10 ∧ byte ≠ 13)

/-- This is `Sscanf` with the format of the parameters. What follows the last number is not read. -/
def sscanf (input : Bytes) : Except Scan.Error (UInt32 × UInt32 × UInt8) := do
  let input ← Scan.literal (ascii "m=") input
  let (mem, input) ← Scan.scanUint 32 input
  let input ← Scan.literal (ascii ",t=") input
  let (iters, input) ← Scan.scanUint 32 input
  let input ← Scan.literal (ascii ",p=") input
  let (parallel, _) ← Scan.scanUint 8 input
  return (.ofNat mem, .ofNat iters, .ofNat parallel)

inductive VerifyError where
  | invalidFormat
  | parseParams (error : Scan.Error)
  | decodeSalt
  | decodeHash
deriving DecidableEq

/-- What the text of a hash holds. -/
structure Encoded where
  mem : UInt32
  iters : UInt32
  parallel : UInt8
  salt : Bytes
  storedHash : Bytes
deriving DecidableEq

def dollar : UInt8 := 36

/-- The part of `Verify` before the key is derived. The first three fields are not looked at. -/
def parse (encodedHash : Bytes) : Except VerifyError Encoded :=
  match encodedHash.splitOn dollar with
  | [_, _, _, params, salt, hash] =>
      match sscanf params with
      | .error error => .error (.parseParams error)
      | .ok (mem, iters, parallel) =>
          match decodeString salt with
          | none => .error .decodeSalt
          | some salt =>
              match decodeString hash with
              | none => .error .decodeHash
              | some storedHash => .ok ⟨mem, iters, parallel, salt, storedHash⟩
  | _ => .error .invalidFormat

/-- The length of the stored hash is converted to 32 bits. -/
def verify (argon : Argon2) (plaintext encodedHash : Bytes) : Result VerifyError Bool :=
  match parse encodedHash with
  | .error error => .error error
  | .ok encoded =>
      match argon.idKey plaintext encoded.salt encoded.iters encoded.mem encoded.parallel
        (.ofNat encoded.storedHash.length) with
      | none => .panic
      | some computed => .ok (decide (computed = encoded.storedHash))

end Password
end AuthService
