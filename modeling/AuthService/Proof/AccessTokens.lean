/-
This file shows that a token manager reads back the access tokens that it signs until they expire, over every JWT
library that meets its laws.
-/

import AuthService.Construction.Jwt

namespace AuthService
namespace Jwt

section
variable {library : Library} {manager : Manager library} {config : JWTConfig} {reader : KeyReader library}

/-- What every manager that is built has in common. -/
structure Built (manager : Manager library) (config : JWTConfig) : Prop where
  pair : library.Pair manager.method manager.signingKey manager.verifyingKey
  family : library.Lawful → library.family manager.method = manager.family
  accessTTL : manager.accessTTL = config.accessTTL

theorem built_of_buildTokenManager (built : buildTokenManager reader config = .ok manager) :
    Built manager config := by
  unfold buildTokenManager at built
  split at built
  · unfold newHS256Manager at built
    split at built
    · cases built
    · cases built
      exact ⟨.hs256 _, fun lawful => lawful.family_hs256, rfl⟩
  · split at built
    · split at built
      · cases built
      · split at built
        · cases built
        · cases built
          exact ⟨.rs256 _, fun lawful => lawful.family_rs256, rfl⟩
    · split at built
      · split at built
        · cases built
        · split at built
          · cases built
          · cases built
            exact ⟨.es256 _, fun lawful => lawful.family_es256, rfl⟩
      · cases built

/-- The manager reads back what it signed until the written expiry. -/
theorem Built.validates (common : Built manager config) (lawful : library.Lawful) {nonce : Bytes} {claims : Claims}
    {issued expires : Time} {token : String}
    (carried : library.carries (newClaims library claims issued expires config.accessTTL))
    (signed : manager.generateAccessToken nonce claims issued expires = some token) (now : Time) :
    manager.validateAccessToken token now =
      if now < library.newNumericDate (expires + config.accessTTL) then some claims else none := by
  have accepts : manager.keyFunc manager.method = some manager.verifyingKey := if_pos (common.family lawful)
  rw [Manager.generateAccessToken, signToken, common.accessTTL] at signed
  rw [Manager.validateAccessToken, parseToken,
    lawful.parse_signed _ _ _ _ _ _ _ _ now common.pair carried signed accepts]
  by_cases alive : now < library.newNumericDate (expires + config.accessTTL)
  · simp only [newClaims, Option.any_some, alive, decide_true, and_self, if_true]
    rfl
  · simp only [newClaims, Option.any_some, alive, decide_false, Bool.false_eq_true, and_false, if_false]

/-- A manager refuses the tokens that name a method of another type. -/
theorem validateAccessToken_other (lawful : library.Lawful) {token : String} {method : library.Method}
    (named : library.header token = some method) (differs : library.family method ≠ manager.family) (now : Time) :
    manager.validateAccessToken token now = none := by
  have refused : library.parseWithClaims token manager.keyFunc "auth-service" now = none := by
    rw [Option.eq_none_iff_forall_ne_some]
    intro parsed accepted
    obtain ⟨method', key, named', given⟩ := lawful.parse_key _ _ _ _ _ accepted
    obtain rfl := Option.some.inj (named.symm.trans named')
    rw [Manager.keyFunc, if_neg differs] at given
    cases given
  rw [Manager.validateAccessToken, parseToken, refused]

end

/-- The claims of the sample user for two seconds from the epoch. -/
def sampleClaims : JwtClaims :=
  ⟨"user", "a@b.co", ["user"], "user", some 0, some (2 * second), "auth-service"⟩

/-- A library that signs one text, with dates in whole seconds. -/
def sampleLibrary : Library where
  Method := Family
  RSAKey := Unit
  ECKey := Unit
  Key := Bytes
  secretKey := id
  rsaPrivate _ := []
  rsaPublic _ := []
  ecPrivate _ := []
  ecPublic _ := []
  signingMethodHS256 := .hmac
  signingMethodRS256 := .rsa
  signingMethodES256 := .ecdsa
  family := id
  newNumericDate time := time / second * second
  signedString method claims _ _ := if method = .hmac ∧ claims = sampleClaims then some "token" else none
  parseWithClaims token keyFunc issuer now :=
    if token = "token" ∧ (keyFunc .hmac).isSome = true ∧ sampleClaims.issuer = issuer ∧ now < 2 * second then
      some ⟨sampleClaims, true⟩
    else none
  header token := if token = "token" then some .hmac else none
  carries _ := True

theorem sampleLibrary_lawful : sampleLibrary.Lawful where
  family_hs256 := rfl
  family_rs256 := rfl
  family_es256 := rfl
  header_signed := by
    intro method claims key nonce token signed
    obtain ⟨⟨rfl, _⟩, made⟩ := Option.ite_none_right_eq_some.mp signed
    obtain rfl := Option.some.inj made
    rfl
  parse_signed := by
    intro method claims key verifying nonce token keyFunc issuer now _ _ signed given
    obtain ⟨⟨rfl, rfl⟩, made⟩ := Option.ite_none_right_eq_some.mp signed
    obtain rfl := Option.some.inj made
    have known : (keyFunc .hmac).isSome = true := Option.isSome_iff_exists.mpr ⟨_, given⟩
    refine if_congr ⟨?_, ?_⟩ rfl rfl
    · rintro ⟨_, _, asked, alive⟩
      exact ⟨asked, decide_eq_true alive⟩
    · rintro ⟨asked, alive⟩
      exact ⟨rfl, known, asked, of_decide_eq_true alive⟩
  parse_key := by
    intro token keyFunc issuer now parsed accepted
    obtain ⟨⟨rfl, known, _⟩, _⟩ := Option.ite_none_right_eq_some.mp accepted
    obtain ⟨key, given⟩ := Option.isSome_iff_exists.mp known
    exact ⟨.hmac, key, rfl, given⟩

def sampleReader : KeyReader sampleLibrary :=
  ⟨fun _ => none, fun _ => none, fun _ => none, fun _ => none, fun _ => none⟩

def sampleManager : Manager sampleLibrary :=
  ⟨.hmac, List.replicate 32 7, .hmac, List.replicate 32 7, 2 * second⟩

end Jwt
end AuthService
