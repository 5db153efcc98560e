import Mathlib.Data.List.Basic
import Mathlib.Tactic.Common

namespace Base64

/-- The symbol of six bits in the standard alphabet. -/
def symbol (sextet : Nat) : UInt8 :=
  if sextet < 26 then .ofNat (65 + sextet)
  else if sextet < 52 then .ofNat (97 + (sextet - 26))
  else if sextet < 62 then .ofNat (48 + (sextet - 52))
  else if sextet = 62 then 43
  else 47

/-- The six bits of a symbol. -/
def sextet (symbol : UInt8) : Option Nat :=
  let code := symbol.toNat
  if 65 ≤ code ∧ code ≤ 90 then some (code - 65)
  else if 97 ≤ code ∧ code ≤ 122 then some (code - 97 + 26)
  else if 48 ≤ code ∧ code ≤ 57 then some (code - 48 + 52)
  else if code = 43 then some 62
  else if code = 47 then some 63
  else none

theorem sextet_symbol {value : Nat} (small : value < 64) : sextet (symbol value) = some value := by
  have all : ∀ value : Fin 64, sextet (symbol value) = some value.val := by decide
  exact all ⟨value, small⟩

/-- Three bytes are four groups of six bits, and the missing bits of the last group are zero. -/
def split : List UInt8 → List Nat
  | first :: second :: third :: rest =>
      let value := first.toNat * 65536 + second.toNat * 256 + third.toNat
      value / 262144 :: value / 4096 % 64 :: value / 64 % 64 :: value % 64 :: split rest
  | [first, second] =>
      let value := first.toNat * 65536 + second.toNat * 256
      [value / 262144, value / 4096 % 64, value / 64 % 64]
  | [first] =>
      let value := first.toNat * 65536
      [value / 262144, value / 4096 % 64]
  | [] => []

/-- Four groups of six bits are three bytes. One group alone is too short, and left-over bits are dropped. -/
def assemble : List Nat → Option (List UInt8)
  | first :: second :: third :: fourth :: rest =>
      let value := first * 262144 + second * 4096 + third * 64 + fourth
      (assemble rest).map fun bytes => .ofNat (value / 65536) :: .ofNat (value / 256) :: .ofNat value :: bytes
  | [first, second, third] =>
      let value := first * 262144 + second * 4096 + third * 64
      some [.ofNat (value / 65536), .ofNat (value / 256)]
  | [first, second] =>
      let value := first * 262144 + second * 4096
      some [.ofNat (value / 65536)]
  | [_] => none
  | [] => some []

/-- The unpadded text of some bytes. -/
def encode (bytes : List UInt8) : List UInt8 := (split bytes).map symbol

def decode (text : List UInt8) : Option (List UInt8) := (text.mapM sextet).bind assemble

/-- A text is valid when all of its symbols are in the alphabet and its last group has more than one symbol. -/
def Valid (text : List UInt8) : Prop := (∀ symbol ∈ text, (sextet symbol).isSome = true) ∧ text.length % 4 ≠ 1

theorem ofNat_eq_of_mod (byte : UInt8) {value : Nat} (same : value % 256 = byte.toNat) : UInt8.ofNat value = byte := by
  apply UInt8.toNat_inj.mp
  rw [UInt8.toNat_ofNat']
  exact same

theorem split_lt (bytes : List UInt8) : ∀ value ∈ split bytes, value < 64 := by
  induction bytes using split.induct with
  | case1 first second third rest ih =>
      have bound := first.toNat_lt
      have bound' := second.toNat_lt
      have bound'' := third.toNat_lt
      simp only [split, List.forall_mem_cons]
      exact ⟨by omega, by omega, by omega, by omega, ih⟩
  | case2 first second =>
      have bound := first.toNat_lt
      have bound' := second.toNat_lt
      simp only [split, List.forall_mem_cons]
      exact ⟨by omega, by omega, by omega, nofun⟩
  | case3 first =>
      have bound := first.toNat_lt
      simp only [split, List.forall_mem_cons]
      exact ⟨by omega, by omega, nofun⟩
  | case4 => exact nofun

theorem assemble_split (bytes : List UInt8) : assemble (split bytes) = some bytes := by
  induction bytes using split.induct with
  | case1 first second third rest ih =>
      have bound := first.toNat_lt
      have bound' := second.toNat_lt
      have bound'' := third.toNat_lt
      simp only [split, assemble, ih, Option.map_some]
      rw [ofNat_eq_of_mod first (by omega), ofNat_eq_of_mod second (by omega),
        ofNat_eq_of_mod third (by omega)]
  | case2 first second =>
      have bound := first.toNat_lt
      have bound' := second.toNat_lt
      simp only [split, assemble]
      rw [ofNat_eq_of_mod first (by omega), ofNat_eq_of_mod second (by omega)]
  | case3 first =>
      have bound := first.toNat_lt
      simp only [split, assemble]
      rw [ofNat_eq_of_mod first (by omega)]
  | case4 => rfl

theorem mapM_sextet_symbol {values : List Nat} (small : ∀ value ∈ values, value < 64) :
    (values.map symbol).mapM sextet = some values := by
  induction values with
  | nil => rfl
  | cons value values ih =>
      obtain ⟨first, rest⟩ := List.forall_mem_cons.mp small
      rw [List.map_cons, List.mapM_cons, sextet_symbol first, ih rest]
      rfl

/-- Every byte survives. -/
theorem decode_encode (bytes : List UInt8) : decode (encode bytes) = some bytes := by
  rw [decode, encode, mapM_sextet_symbol (split_lt bytes)]
  exact assemble_split bytes

/-- The symbols of a text are read one by one. -/
theorem mapM_sextet_cons {first : UInt8} {text : List UInt8} {values : List Nat}
    (read : (first :: text).mapM sextet = some values) :
    ∃ value rest, sextet first = some value ∧ text.mapM sextet = some rest ∧ values = value :: rest := by
  rw [List.mapM_cons] at read
  obtain ⟨value, known, others⟩ := Option.bind_eq_some_iff.mp read
  obtain ⟨rest, continued, same⟩ := Option.bind_eq_some_iff.mp others
  exact ⟨value, rest, known, continued, (Option.some.inj same).symm⟩

theorem isSome_of_mapM_sextet {text : List UInt8} {values : List Nat} (read : text.mapM sextet = some values) :
    ∀ symbol ∈ text, (sextet symbol).isSome = true := by
  induction text generalizing values with
  | nil => exact nofun
  | cons first text ih =>
      obtain ⟨value, rest, known, continued, _⟩ := mapM_sextet_cons read
      exact List.forall_mem_cons.mpr ⟨Option.isSome_of_eq_some known, ih continued⟩

theorem mapM_sextet_length {text : List UInt8} {values : List Nat} (read : text.mapM sextet = some values) :
    values.length = text.length := by
  induction text generalizing values with
  | nil =>
      cases read
      rfl
  | cons first text ih =>
      obtain ⟨value, rest, _, continued, rfl⟩ := mapM_sextet_cons read
      rw [List.length_cons, List.length_cons, ih continued]

theorem mapM_sextet_exists {text : List UInt8} (known : ∀ symbol ∈ text, (sextet symbol).isSome = true) :
    ∃ values, text.mapM sextet = some values := by
  induction text with
  | nil => exact ⟨[], rfl⟩
  | cons first text ih =>
      obtain ⟨here, later⟩ := List.forall_mem_cons.mp known
      obtain ⟨value, found⟩ := Option.isSome_iff_exists.mp here
      obtain ⟨rest, continued⟩ := ih later
      refine ⟨value :: rest, ?_⟩
      rw [List.mapM_cons, found, continued]
      rfl

theorem assemble_exists {values : List Nat} (long : values.length % 4 ≠ 1) : ∃ bytes, assemble values = some bytes := by
  induction values using assemble.induct with
  | case1 first second third fourth rest ih =>
      simp only [List.length_cons] at long
      obtain ⟨bytes, assembled⟩ := ih (by omega)
      rw [assemble, assembled]
      exact ⟨_, rfl⟩
  | case2 => exact ⟨_, rfl⟩
  | case3 => exact ⟨_, rfl⟩
  | case4 => exact absurd rfl long
  | case5 => exact ⟨_, rfl⟩

/-- A text that can be decoded has only symbols of the alphabet. -/
theorem isSome_of_decode {text bytes : List UInt8} (decoded : decode text = some bytes) :
    ∀ symbol ∈ text, (sextet symbol).isSome = true := by
  obtain ⟨values, read, _⟩ := Option.bind_eq_some_iff.mp decoded
  exact isSome_of_mapM_sextet read

/-- Every valid text can be decoded. -/
theorem decode_of_valid {text : List UInt8} (valid : Valid text) : ∃ bytes, decode text = some bytes := by
  obtain ⟨values, read⟩ := mapM_sextet_exists valid.1
  obtain ⟨bytes, assembled⟩ := assemble_exists (mapM_sextet_length read ▸ valid.2)
  exact ⟨bytes, Option.bind_eq_some_iff.mpr ⟨values, read, assembled⟩⟩

end Base64
