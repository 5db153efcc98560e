/-
This file compares the password check with the documented policy.
-/

import AuthService.Construction.Input
import Mathlib.Data.String.Basic
import Mathlib.Tactic.Common

namespace AuthService

/-- The early exit does not change what the loop finds: a letter, and a digit that is not a letter. -/
theorem scanPassword_eq (isLetter isDigit : Char → Bool) (characters : List Char) (hasLetter hasDigit : Bool) :
    scanPassword isLetter isDigit characters hasLetter hasDigit =
      (hasLetter || characters.any isLetter,
        hasDigit || characters.any fun character => !isLetter character && isDigit character) := by
  induction characters generalizing hasLetter hasDigit with
  | nil => simp only [scanPassword, List.any_nil, Bool.or_false]
  | cons character characters ih =>
      have digit : (if isLetter character then hasDigit else hasDigit || isDigit character) =
          (hasDigit || (!isLetter character && isDigit character)) := by
        cases isLetter character <;> simp
      rw [scanPassword, digit, List.any_cons, List.any_cons, ← Bool.or_assoc, ← Bool.or_assoc]
      by_cases both : ((hasLetter || isLetter character) &&
          (hasDigit || (!isLetter character && isDigit character))) = true
      · obtain ⟨letterSeen, digitSeen⟩ := Bool.and_eq_true_iff.mp both
        simp only [letterSeen, digitSeen, Bool.and_true, if_true, Bool.true_or]
      · simp only [if_neg both, ih]

/-- A character takes at least one byte. -/
theorem length_le_utf8ByteSize (text : String) : text.length ≤ text.utf8ByteSize := by
  have counted (characters : List Char) : characters.length ≤ String.utf8Len characters := by
    induction characters with
    | nil => exact Nat.zero_le _
    | cons character characters ih =>
        have positive := character.utf8Size_pos
        rw [List.length_cons, String.utf8Len_cons]
        omega
  have size := String.utf8ByteSize_ofList text.toList
  rw [String.ofList_toList] at size
  rw [size, ← String.length_toList]
  exact counted text.toList

section
variable {isLetter isDigit : Char → Bool}

/-- The documented policy asks for at least eight characters, a letter and a digit. -/
structure DocumentedPolicy (isLetter isDigit : Char → Bool) (password : String) : Prop where
  length : 8 ≤ password.length
  letter : password.toList.any isLetter = true
  digit : password.toList.any isDigit = true

/-- The check asks for at least eight bytes, a letter and a digit. -/
theorem validatePassword_eq_none (disjoint : ∀ character, isLetter character = true → isDigit character = false)
    (password : String) :
    validatePassword isLetter isDigit password = none ↔
      8 ≤ password.utf8ByteSize ∧ password.toList.any isLetter = true ∧ password.toList.any isDigit = true := by
  have digits : (fun character => !isLetter character && isDigit character) = isDigit := by
    funext character
    cases letter : isLetter character with
    | false => simp only [Bool.not_false, Bool.true_and]
    | true => simp only [Bool.not_true, Bool.false_and, disjoint character letter]
  simp only [validatePassword, scanPassword_eq, Bool.false_or, digits]
  by_cases short : password.utf8ByteSize < 8
  · simp only [if_pos short, reduceCtorEq, false_iff]
    omega
  · have enough : 8 ≤ password.utf8ByteSize := Nat.le_of_not_lt short
    rw [if_neg short]
    cases password.toList.any isLetter <;> cases password.toList.any isDigit <;> simp [enough]

/-- The check follows the documented policy exactly for the passwords that are not short texts of eight bytes
or more with a letter and a digit. -/
theorem password_policy_iff (disjoint : ∀ character, isLetter character = true → isDigit character = false)
    (password : String) :
    (validatePassword isLetter isDigit password = none ↔ DocumentedPolicy isLetter isDigit password) ↔
      ¬ (password.length < 8 ∧ 8 ≤ password.utf8ByteSize ∧
        password.toList.any isLetter = true ∧ password.toList.any isDigit = true) := by
  have bytes := length_le_utf8ByteSize password
  rw [validatePassword_eq_none disjoint]
  constructor
  · rintro same ⟨short, accepted⟩
    have policy := same.mp accepted
    exact Nat.not_le.mpr short policy.length
  · intro ordinary
    constructor
    · rintro ⟨enough, letter, digit⟩
      refine ⟨?_, letter, digit⟩
      by_contra short
      exact ordinary ⟨Nat.not_le.mp short, enough, letter, digit⟩
    · rintro ⟨length, letter, digit⟩
      exact ⟨Nat.le_trans length bytes, letter, digit⟩

end

/-- For these ASCII passwords of eight and seven characters the check follows the policy. -/
theorem ascii_password_policy :
    (validatePassword isAsciiLetter isAsciiDigit "passw0rd" = none ↔
        DocumentedPolicy isAsciiLetter isAsciiDigit "passw0rd") ∧
      (validatePassword isAsciiLetter isAsciiDigit "passw0r" = none ↔
        DocumentedPolicy isAsciiLetter isAsciiDigit "passw0r") := by
  have disjoint (character : Char) (letter : isAsciiLetter character = true) : isAsciiDigit character = false := by
    simp only [isAsciiLetter, isAsciiDigit, Char.le_def, UInt32.le_iff_toNat_le, Bool.or_eq_true, Bool.and_eq_true,
      decide_eq_true_eq, Bool.and_eq_false_iff, decide_eq_false_iff_not] at letter ⊢
    have first : 'a'.val.toNat = 97 := rfl
    have capital : 'A'.val.toNat = 65 := rfl
    have nine : '9'.val.toNat = 57 := rfl
    omega
  exact ⟨(password_policy_iff disjoint _).mpr (by decide), (password_policy_iff disjoint _).mpr (by decide)⟩

/-- Four characters pass when they take eight bytes. -/
theorem short_password_accepted :
    ∃ password : String, password.length < 8 ∧ ∀ isLetter isDigit : Char → Bool,
      isLetter 'a' = true → isLetter '1' = false → isDigit '1' = true →
        validatePassword isLetter isDigit password = none := by
  refine ⟨"a1€€", by decide, ?_⟩
  intro isLetter isDigit letter other digit
  have enough : ¬ "a1€€".utf8ByteSize < 8 := by decide
  have characters : "a1€€".toList = ['a', '1', '€', '€'] := by decide
  simp [validatePassword, if_neg enough, characters, scanPassword, letter, other, digit]

end AuthService
