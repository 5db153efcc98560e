/-
This file translates the access-token managers and the choice of the signing method. The JWT library that they call
is given by its functions and its laws.
-/

import AuthService.Construction.Handlers
import AuthService.Construction.Password

namespace AuthService
namespace Jwt

abbrev Bytes := List UInt8

/-- The claims of a token with the dates that the library writes. -/
structure JwtClaims where
  userID : String
  email : String
  roles : List String
  subject : String
  issuedAt : Option Time
  expiresAt : Option Time
  issuer : String
deriving DecidableEq

def JwtClaims.toPorts (claims : JwtClaims) : Claims := ⟨claims.userID, claims.email, claims.roles⟩

/-- The types of signing methods that the key functions tell apart. -/
inductive Family where
  | hmac
  | rsa
  | ecdsa
  | other
deriving DecidableEq

/-- What the parser returns for a token without an error. -/
structure Token where
  claims : JwtClaims
  valid : Bool

/-- The JWT library with the keys that it takes. A signature may use a nonce. The parser takes the key function, the
issuer that it asks for and the time, and it asks for an expiry. The field `header` is the method that a token names,
and `carries` tells the claims that the text of a token holds without loss. -/
structure Library where
  Method : Type
  RSAKey : Type
  ECKey : Type
  Key : Type
  secretKey : Bytes → Key
  rsaPrivate : RSAKey → Key
  rsaPublic : RSAKey → Key
  ecPrivate : ECKey → Key
  ecPublic : ECKey → Key
  signingMethodHS256 : Method
  signingMethodRS256 : Method
  signingMethodES256 : Method
  family : Method → Family
  newNumericDate : Time → Time
  signedString : Method → JwtClaims → Key → Bytes → Option String
  parseWithClaims : String → (Method → Option Key) → String → Time → Option Token
  header : String → Option Method
  carries : JwtClaims → Prop

namespace Library

/-- The key that signs with a method and the key that verifies its signatures. -/
inductive Pair (library : Library) : library.Method → library.Key → library.Key → Prop where
  | hs256 (secret : Bytes) :
      Pair library library.signingMethodHS256 (library.secretKey secret) (library.secretKey secret)
  | rs256 (priv : library.RSAKey) :
      Pair library library.signingMethodRS256 (library.rsaPrivate priv) (library.rsaPublic priv)
  | es256 (priv : library.ECKey) :
      Pair library library.signingMethodES256 (library.ecPrivate priv) (library.ecPublic priv)

/-- What is assumed of the library. A signed token names its method, the verifying key reads its claims back until
they expire, and no token is accepted without a key for the method that it names. -/
structure Lawful (library : Library) : Prop where
  family_hs256 : library.family library.signingMethodHS256 = .hmac
  family_rs256 : library.family library.signingMethodRS256 = .rsa
  family_es256 : library.family library.signingMethodES256 = .ecdsa
  header_signed : ∀ method claims key nonce token, library.signedString method claims key nonce = some token →
    library.header token = some method
  parse_signed : ∀ method claims key verifying nonce token keyFunc issuer now, library.Pair method key verifying →
    library.carries claims → library.signedString method claims key nonce = some token →
    keyFunc method = some verifying →
    library.parseWithClaims token keyFunc issuer now =
      if claims.issuer = issuer ∧ (claims.expiresAt.any fun expiry => now < expiry) = true then some ⟨claims, true⟩
      else none
  parse_key : ∀ token keyFunc issuer now parsed, library.parseWithClaims token keyFunc issuer now = some parsed →
    ∃ method key, library.header token = some method ∧ keyFunc method = some key

end Library

/-- A manager signs with one method and one key, and its key function gives the verifying key to the methods of one
type. -/
structure Manager (library : Library) where
  method : library.Method
  signingKey : library.Key
  family : Family
  verifyingKey : library.Key
  accessTTL : Duration

section
variable {library : Library}

/-- The constructor panics when the secret is short. -/
def newHS256Manager {E : Type} (secret : Bytes) (accessTTL : Duration) : Password.Result E (Manager library) :=
  if secret.length < 32 then .panic
  else .ok ⟨library.signingMethodHS256, library.secretKey secret, .hmac, library.secretKey secret, accessTTL⟩

def newRS256Manager (priv : library.RSAKey) (accessTTL : Duration) : Manager library :=
  ⟨library.signingMethodRS256, library.rsaPrivate priv, .rsa, library.rsaPublic priv, accessTTL⟩

def newES256Manager (priv : library.ECKey) (accessTTL : Duration) : Manager library :=
  ⟨library.signingMethodES256, library.ecPrivate priv, .ecdsa, library.ecPublic priv, accessTTL⟩

def Manager.keyFunc (manager : Manager library) (method : library.Method) : Option library.Key :=
  if library.family method = manager.family then some manager.verifyingKey else none

end

section
variable (library : Library)

/-- The claims that are signed. The clock is read once for each of the two dates. -/
def newClaims (claims : Claims) (issued expires : Time) (ttl : Duration) : JwtClaims where
  userID := claims.userID
  email := claims.email
  roles := claims.roles
  subject := claims.userID
  issuedAt := some (library.newNumericDate issued)
  expiresAt := some (library.newNumericDate (expires + ttl))
  issuer := "auth-service"

def signToken (method : library.Method) (key : library.Key) (nonce : Bytes) (claims : Claims) (issued expires : Time)
    (ttl : Duration) : Option String :=
  library.signedString method (newClaims library claims issued expires ttl) key nonce

def parseToken (token : String) (keyFunc : library.Method → Option library.Key) (now : Time) : Option Claims :=
  match library.parseWithClaims token keyFunc "auth-service" now with
  | none => none
  | some parsed => if parsed.valid then some parsed.claims.toPorts else none

end

section
variable {library : Library}

def Manager.generateAccessToken (manager : Manager library) (nonce : Bytes) (claims : Claims)
    (issued expires : Time) : Option String :=
  signToken library manager.method manager.signingKey nonce claims issued expires manager.accessTTL

def Manager.validateAccessToken (manager : Manager library) (token : String) (now : Time) : Option Claims :=
  parseToken library token manager.keyFunc now

end

/-- The keys that PKCS#8 can hold. -/
inductive PKCS8Key (library : Library) where
  | rsa (key : library.RSAKey)
  | ec (key : library.ECKey)
  | other

/-- The readers of key files. -/
structure KeyReader (library : Library) where
  readFile : String → Option Bytes
  pemDecode : Bytes → Option Bytes
  parsePKCS1 : Bytes → Option library.RSAKey
  parseEC : Bytes → Option library.ECKey
  parsePKCS8 : Bytes → Option (PKCS8Key library)

structure JWTConfig where
  algorithm : String
  secret : Bytes
  privateKeyPath : String
  accessTTL : Duration

inductive ConfigError where
  | readKey
  | parseKey
  | unsupported
deriving DecidableEq

section
variable {library : Library} (reader : KeyReader library)

/-- The traditional form is tried before PKCS#8. -/
def parseRSAKey (pemBytes : Bytes) : Option library.RSAKey := do
  let block ← reader.pemDecode pemBytes
  match reader.parsePKCS1 block with
  | some key => some key
  | none =>
      match ← reader.parsePKCS8 block with
      | .rsa key => some key
      | _ => none

def parseECDSAKey (pemBytes : Bytes) : Option library.ECKey := do
  let block ← reader.pemDecode pemBytes
  match reader.parseEC block with
  | some key => some key
  | none =>
      match ← reader.parsePKCS8 block with
      | .ec key => some key
      | _ => none

def buildTokenManager (config : JWTConfig) : Password.Result ConfigError (Manager library) :=
  if config.algorithm = "" ∨ config.algorithm = "hs256" then newHS256Manager config.secret config.accessTTL
  else if config.algorithm = "rs256" then
    match reader.readFile config.privateKeyPath with
    | none => .error .readKey
    | some keyBytes =>
        match parseRSAKey reader keyBytes with
        | none => .error .parseKey
        | some priv => .ok (newRS256Manager priv config.accessTTL)
  else if config.algorithm = "es256" then
    match reader.readFile config.privateKeyPath with
    | none => .error .readKey
    | some keyBytes =>
        match parseECDSAKey reader keyBytes with
        | none => .error .parseKey
        | some priv => .ok (newES256Manager priv config.accessTTL)
  else .error .unsupported

end
end Jwt

/-- The service with a token manager, whose signatures take their nonces from the given source. -/
def Service.withManager (service : Service) {library : Jwt.Library} (manager : Jwt.Manager library)
    (nonce : Claims → Time → Jwt.Bytes) : Service :=
  { service with
    sign := fun claims now => (manager.generateAccessToken (nonce claims now) claims now now).getD ""
    validate := manager.validateAccessToken }

end AuthService
