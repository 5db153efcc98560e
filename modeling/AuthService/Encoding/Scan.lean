import Mathlib.Algebra.Group.Nat.Defs
import Mathlib.Data.List.Basic
import Mathlib.Data.List.Infix
import Mathlib.Data.List.TakeWhile
import Mathlib.Tactic.Common

namespace Scan

/-- The reasons for which a formatted scan stops. -/
inductive Error where
  | mismatch
  | unexpectedEOF
  | unexpectedNewline
  | expectedInteger
  | outOfRange
  | overflow
deriving DecidableEq

/-- The bytes of a rune below 65536. -/
def utf8 (rune : Nat) : List UInt8 :=
  if rune < 0x80 then [.ofNat rune]
  else if rune < 0x800 then [.ofNat (0xc0 + rune / 64), .ofNat (0x80 + rune % 64)]
  else [.ofNat (0xe0 + rune / 4096), .ofNat (0x80 + rune / 64 % 64), .ofNat (0x80 + rune % 64)]

/-- The first and the last rune of each range of spaces. -/
def spaceRanges : List (Nat × Nat) :=
  [(0x9, 0xd), (0x20, 0x20), (0x85, 0x85), (0xa0, 0xa0), (0x1680, 0x1680), (0x2000, 0x200a), (0x2028, 0x2029),
    (0x202f, 0x202f), (0x205f, 0x205f), (0x3000, 0x3000)]

/-- The texts of the spaces other than the newline. -/
def spaces : List (List UInt8) :=
  ((spaceRanges.flatMap fun range => List.range' range.1 (range.2 + 1 - range.1)).filter fun rune => rune ≠ 10).map utf8

/-- The space that an input starts with. -/
def leadingSpace (input : List UInt8) : Option (List UInt8) := spaces.find? fun text => text.isPrefixOf input

/-- The scan skips spaces. The number counts the bytes left of a space that was recognised. -/
def skipSpaceFrom : Nat → List UInt8 → Except Error (List UInt8)
  | _, [] => .ok []
  | pending + 1, _ :: rest => skipSpaceFrom pending rest
  | 0, byte :: rest =>
      if byte = 10 then .error .unexpectedNewline
      else match leadingSpace (byte :: rest) with
        | some text => skipSpaceFrom (text.length - 1) rest
        | none => .ok (byte :: rest)

def skipSpace (input : List UInt8) : Except Error (List UInt8) := skipSpaceFrom 0 input

def isDigit (byte : UInt8) : Bool := 48 ≤ byte && byte ≤ 57

def decimal (digits : List UInt8) : Nat := digits.foldl (fun value digit => 10 * value + (digit.toNat - 48)) 0

/-- An unsigned number of the given width after spaces. -/
def scanUint (bits : Nat) (input : List UInt8) : Except Error (Nat × List UInt8) :=
  match skipSpace input with
  | .error error => .error error
  | .ok [] => .error .unexpectedEOF
  | .ok (first :: rest) =>
      if isDigit first = false then .error .expectedInteger
      else
        let value := decimal ((first :: rest).takeWhile isDigit)
        if 2 ^ 64 ≤ value then .error .outOfRange
        else if 2 ^ bits ≤ value then .error .overflow
        else .ok (value, (first :: rest).dropWhile isDigit)

/-- The bytes of a format outside its verbs. -/
def literal : List UInt8 → List UInt8 → Except Error (List UInt8)
  | [], input => .ok input
  | _ :: _, [] => .error .unexpectedEOF
  | expected :: text, byte :: rest => if expected = byte then literal text rest else .error .mismatch

/-- A run of spaces. -/
def Blank (text : List UInt8) : Prop :=
  ∃ texts : List (List UInt8), (∀ space ∈ texts, space ∈ spaces) ∧ text = texts.flatten

/-- The digits of a number that fits into the given width. -/
structure Numeral (bits : Nat) (text : List UInt8) (value : Nat) : Prop where
  nonempty : text ≠ []
  digits : ∀ digit ∈ text, isDigit digit = true
  reads : decimal text = value
  fits : value < 2 ^ bits

theorem literal_iff (text input rest : List UInt8) : literal text input = .ok rest ↔ input = text ++ rest := by
  induction text generalizing input with
  | nil =>
      rw [literal, List.nil_append]
      exact ⟨fun same => by cases same; rfl, fun same => by rw [same]⟩
  | cons expected text ih =>
      cases input with
      | nil => exact ⟨nofun, nofun⟩
      | cons byte input =>
          rw [literal, List.cons_append, List.cons.injEq]
          split
          · rename_i same
            rw [ih]
            exact ⟨fun tail => ⟨same.symm, tail⟩, fun both => both.2⟩
          · rename_i different
            exact ⟨nofun, fun both => absurd both.1.symm different⟩

theorem leadingSpace_some {input text : List UInt8} (found : leadingSpace input = some text) :
    text ∈ spaces ∧ text <+: input := by
  have starts := List.find?_some found
  exact ⟨List.mem_of_find?_eq_some found, List.isPrefixOf_iff_prefix.mp starts⟩

/-- No space continues another one. -/
theorem leadingSpace_append {text : List UInt8} (space : text ∈ spaces) (rest : List UInt8) :
    leadingSpace (text ++ rest) = some text := by
  have apart : ∀ first ∈ spaces, ∀ second ∈ spaces, first.isPrefixOf second = true → first = second := by
    decide
  have own : text <+: text ++ rest := List.prefix_append text rest
  cases found : leadingSpace (text ++ rest) with
  | none => exact absurd (List.isPrefixOf_iff_prefix.mpr own) (List.find?_eq_none.mp found text space)
  | some other =>
      obtain ⟨member, starts⟩ := leadingSpace_some found
      rcases List.prefix_or_prefix_of_prefix starts own with shorter | longer
      · rw [apart other member text space (List.isPrefixOf_iff_prefix.mpr shorter)]
      · rw [apart text space other member (List.isPrefixOf_iff_prefix.mpr longer)]

theorem skipSpaceFrom_pending (text rest : List UInt8) :
    skipSpaceFrom text.length (text ++ rest) = skipSpaceFrom 0 rest := by
  induction text with
  | nil => rfl
  | cons byte text ih => exact ih

theorem skipSpace_space {text : List UInt8} (space : text ∈ spaces) (rest : List UInt8) :
    skipSpace (text ++ rest) = skipSpace rest := by
  have starts : ∀ text ∈ spaces, text.head?.any (fun byte => byte ≠ 10) = true := by decide
  cases text with
  | nil => rfl
  | cons byte text =>
      have other : ¬ byte = 10 := by simpa using starts _ space
      have found := leadingSpace_append space rest
      rw [List.cons_append] at found
      rw [skipSpace, List.cons_append, skipSpaceFrom, if_neg other, found]
      exact skipSpaceFrom_pending text rest

theorem skipSpace_blank {text : List UInt8} (blank : Blank text) (rest : List UInt8) :
    skipSpace (text ++ rest) = skipSpace rest := by
  obtain ⟨texts, spaces, rfl⟩ := blank
  induction texts with
  | nil => rfl
  | cons space texts ih =>
      obtain ⟨first, others⟩ := List.forall_mem_cons.mp spaces
      rw [List.flatten_cons, List.append_assoc, skipSpace_space first, ih others]

/-- What was skipped is a run of spaces. -/
theorem skipSpace_ok {input rest : List UInt8} (skipped : skipSpace input = .ok rest) :
    ∃ text, Blank text ∧ input = text ++ rest := by
  induction length : input.length using Nat.strongRecOn generalizing input with
  | ind size ih =>
      cases input with
      | nil =>
          cases skipped
          exact ⟨[], ⟨[], nofun, rfl⟩, rfl⟩
      | cons byte input =>
          cases found : leadingSpace (byte :: input) with
          | none =>
              rw [skipSpace, skipSpaceFrom, found] at skipped
              split at skipped
              · cases skipped
              · cases skipped
                exact ⟨[], ⟨[], nofun, rfl⟩, rfl⟩
          | some space =>
              obtain ⟨member, tail, same⟩ := leadingSpace_some found
              replace same := same.symm
              have nonempty : 0 < space.length := by
                have all : ∀ text ∈ spaces, 0 < text.length := by decide
                exact all space member
              rw [same, skipSpace_space member] at skipped
              have shorter : tail.length < size := by
                rw [← length, same, List.length_append]
                omega
              obtain ⟨text, ⟨texts, spaces, rfl⟩, rfl⟩ := ih tail.length shorter skipped rfl
              refine ⟨space ++ texts.flatten, ⟨space :: texts, ?_, rfl⟩, ?_⟩
              · exact List.forall_mem_cons.mpr ⟨member, spaces⟩
              · rw [same, List.append_assoc]

theorem skipSpace_digit {first : UInt8} (digit : isDigit first = true) (rest : List UInt8) :
    skipSpace (first :: rest) = .ok (first :: rest) := by
  have starts : ∀ text ∈ spaces, text.head?.any (fun byte => !isDigit byte) = true := by decide
  have other : ¬ first = 10 := by
    rintro rfl
    cases digit
  have none : leadingSpace (first :: rest) = none := by
    cases found : leadingSpace (first :: rest) with
    | none => rfl
    | some space =>
        obtain ⟨member, tail, same⟩ := leadingSpace_some found
        have start := starts space member
        cases space with
        | nil => cases start
        | cons byte space =>
            rw [List.cons_append] at same
            obtain ⟨rfl, _⟩ := List.cons.inj same
            rw [List.head?_cons, Option.any_some, digit] at start
            cases start
  rw [skipSpace, skipSpaceFrom, if_neg other, none]

/-- A number is scanned exactly when the input is a run of spaces, the digits of the number and a rest that does not
go on with a digit. -/
theorem scanUint_iff {bits : Nat} (small : bits ≤ 64) (input : List UInt8) (value : Nat) (rest : List UInt8) :
    scanUint bits input = .ok (value, rest) ↔
      (∀ byte, rest.head? = some byte → isDigit byte = false) ∧
        ∃ blank digits, Blank blank ∧ Numeral bits digits value ∧ input = blank ++ (digits ++ rest) := by
  constructor
  · intro scanned
    unfold scanUint at scanned
    split at scanned
    · cases scanned
    · cases scanned
    · rename_i first tail skipped
      dsimp only at scanned
      split at scanned
      · cases scanned
      · rename_i digit
        split at scanned
        · cases scanned
        · split at scanned
          · cases scanned
          · rename_i fits
            cases scanned
            obtain ⟨blank, spaces, rfl⟩ := skipSpace_ok skipped
            refine ⟨fun byte next => ?_, blank, (first :: tail).takeWhile isDigit, spaces, ⟨?_, ?_, rfl, ?_⟩, ?_⟩
            · have stops := List.head?_dropWhile_not isDigit (first :: tail)
              rw [next] at stops
              exact stops
            · rw [List.takeWhile_cons_of_pos (by simpa using digit)]
              exact nofun
            · exact fun byte member => List.mem_takeWhile_imp member
            · omega
            · rw [List.takeWhile_append_dropWhile]
  · rintro ⟨ends, blank, digits, spaces, ⟨nonempty, all, rfl, fits⟩, rfl⟩
    obtain ⟨first, digits, rfl⟩ := List.exists_cons_of_ne_nil nonempty
    have digit := all first List.mem_cons_self
    have wide : decimal (first :: digits) < 2 ^ 64 := lt_of_lt_of_le fits (Nat.pow_le_pow_right (by decide) small)
    have scanned : skipSpace (blank ++ (first :: digits ++ rest)) = .ok (first :: (digits ++ rest)) := by
      rw [skipSpace_blank spaces]
      exact skipSpace_digit digit _
    have stops : rest.takeWhile isDigit = [] ∧ rest.dropWhile isDigit = rest := by
      cases rest with
      | nil => exact ⟨rfl, rfl⟩
      | cons byte rest =>
          have other : ¬ isDigit byte = true := Bool.not_eq_true _ ▸ ends byte rfl
          exact ⟨List.takeWhile_cons_of_neg other, List.dropWhile_cons_of_neg other⟩
    have taken : (first :: (digits ++ rest)).takeWhile isDigit = first :: digits := by
      rw [← List.cons_append, List.takeWhile_append_of_pos all, stops.1, List.append_nil]
    have dropped : (first :: (digits ++ rest)).dropWhile isDigit = rest := by
      rw [← List.cons_append, List.dropWhile_append_of_pos all, stops.2]
    have known : ¬ isDigit first = false := by
      rw [digit]
      decide
    simp only [scanUint, scanned, taken, dropped, if_neg known, if_neg (Nat.not_le.mpr wide),
      if_neg (Nat.not_le.mpr fits)]

end Scan
