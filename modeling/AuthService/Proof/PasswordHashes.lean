/-
This file proves that the texts of hashes can be read back, and which texts the check accepts.
-/

import AuthService.Construction.Password
import AuthService.Encoding.Separators

namespace AuthService
namespace Password
open Scan (Blank Numeral)

/-- The fields of a text are separated by dollars. -/
def fields (parts : List Bytes) : Bytes := [dollar].intercalate parts

/-- The parameters as the scan reads them: spaces before each number, and a rest that is not read. -/
def ParamsText (params : Bytes) (mem iters : UInt32) (parallel : UInt8) : Prop :=
  ∃ space m space' t space'' p rest,
    (Blank space ∧ Blank space' ∧ Blank space'') ∧
    (Numeral 32 m mem.toNat ∧ Numeral 32 t iters.toNat ∧ Numeral 8 p parallel.toNat) ∧
    (∀ byte, rest.head? = some byte → Scan.isDigit byte = false) ∧
    params = ascii "m=" ++ (space ++ (m ++ (ascii ",t=" ++ (space' ++ (t ++ (ascii ",p=" ++ (space'' ++
      (p ++ rest))))))))

/-- The texts that the check accepts. The first three fields are arbitrary, and base64 may contain line breaks. -/
def Accepted (text : Bytes) (encoded : Encoded) : Prop :=
  ∃ first algorithm version params salt hash,
    (∀ part ∈ [first, algorithm, version, params], dollar ∉ part) ∧
    ParamsText params encoded.mem encoded.iters encoded.parallel ∧
    decodeString salt = some encoded.salt ∧ decodeString hash = some encoded.storedHash ∧
    text = fields [first, algorithm, version, params, salt, hash]

/-- The texts of the documented form. -/
def WellFormed (text : Bytes) : Prop :=
  ∃ m t p salt hash mem iters parallel,
    (Numeral 32 m mem ∧ Numeral 32 t iters ∧ Numeral 8 p parallel) ∧ 1 ≤ iters ∧ 1 ≤ parallel ∧
    Base64.Valid salt ∧ Base64.Valid hash ∧ hash ≠ [] ∧
    text = ascii "$argon2id$v=19$m=" ++ (m ++ (ascii ",t=" ++ (t ++ (ascii ",p=" ++ (p ++ (ascii "$" ++ (salt ++
      (ascii "$" ++ hash))))))))

section Base64
variable {text bytes : Bytes}

/-- The symbols of base64 are neither dollars nor line breaks. -/
theorem plain_of_sextet {byte : UInt8} (known : (Base64.sextet byte).isSome = true) :
    byte ≠ dollar ∧ byte ≠ 10 ∧ byte ≠ 13 := by
  refine ⟨?_, ?_, ?_⟩
  · rintro rfl
    cases known
  · rintro rfl
    cases known
  · rintro rfl
    cases known

theorem decodeString_of_symbols (symbols : ∀ byte ∈ text, (Base64.sextet byte).isSome = true) :
    decodeString text = Base64.decode text := by
  have whole : text.filter (fun byte => byte ≠ 10 ∧ byte ≠ 13) = text :=
    List.filter_eq_self.mpr fun byte member => decide_eq_true (plain_of_sextet (symbols byte member)).2
  rw [decodeString, whole]

/-- A field that can be decoded has no dollar. -/
theorem dollar_not_mem_of_decodeString (decoded : decodeString text = some bytes) : dollar ∉ text := by
  intro member
  have kept : dollar ∈ text.filter (fun byte => byte ≠ 10 ∧ byte ≠ 13) :=
    List.mem_filter.mpr ⟨member, by decide⟩
  exact (plain_of_sextet (Base64.isSome_of_decode decoded dollar kept)).1 rfl

theorem decodeString_encode (bytes : Bytes) : decodeString (Base64.encode bytes) = some bytes := by
  have decoded := Base64.decode_encode bytes
  rw [decodeString_of_symbols (Base64.isSome_of_decode decoded), decoded]

end Base64

section Params

theorem bind_ok_iff {E A B : Type} {first : Except E A} {next : A → Except E B} {result : B} :
    first >>= next = .ok result ↔ ∃ value, first = .ok value ∧ next value = .ok result := by
  cases first with
  | error error => exact ⟨nofun, nofun⟩
  | ok value => exact ⟨fun bound => ⟨value, rfl, bound⟩, fun ⟨_, same, bound⟩ => by cases same; exact bound⟩

/-- A rest that starts with a byte other than a digit ends a number. -/
theorem ends_number {byte : UInt8} {rest : Bytes} (other : Scan.isDigit byte = false) :
    ∀ next, (byte :: rest).head? = some next → Scan.isDigit next = false := by
  rintro next ⟨⟩
  exact other

/-- The scan succeeds exactly on the texts of parameters. -/
theorem sscanf_iff (params : Bytes) (mem iters : UInt32) (parallel : UInt8) :
    sscanf params = .ok (mem, iters, parallel) ↔ ParamsText params mem iters parallel := by
  simp only [sscanf, bind_ok_iff, Scan.literal_iff]
  constructor
  · rintro ⟨_, rfl, ⟨m, _⟩, scanned, _, rfl, ⟨t, _⟩, scanned', _, rfl, ⟨p, rest⟩, scanned'', same⟩
    obtain ⟨_, space, digits, blank, number, rfl⟩ := (Scan.scanUint_iff (by decide) ..).mp scanned
    obtain ⟨_, space', digits', blank', number', same'⟩ := (Scan.scanUint_iff (by decide) ..).mp scanned'
    obtain ⟨ends, space'', digits'', blank'', number'', same''⟩ := (Scan.scanUint_iff (by decide) ..).mp scanned''
    cases same
    refine ⟨space, digits, space', digits', space'', digits'', rest, ⟨blank, blank', blank''⟩, ⟨?_, ?_, ?_⟩, ends, ?_⟩
    · rw [UInt32.toNat_ofNat_of_lt' number.fits]
      exact number
    · rw [UInt32.toNat_ofNat_of_lt' number'.fits]
      exact number'
    · rw [UInt8.toNat_ofNat_of_lt' number''.fits]
      exact number''
    · rw [same', same'']
  · rintro ⟨space, digits, space', digits', space'', digits'', rest, ⟨blank, blank', blank''⟩,
      ⟨number, number', number''⟩, ends, rfl⟩
    have small : 32 ≤ 64 ∧ 8 ≤ 64 := by decide
    refine ⟨_, rfl, _, (Scan.scanUint_iff small.1 ..).mpr ⟨ends_number rfl, space, digits, blank, number, rfl⟩,
      _, rfl, _, (Scan.scanUint_iff small.1 ..).mpr ⟨ends_number rfl, space', digits', blank', number', rfl⟩,
      _, rfl, _, (Scan.scanUint_iff small.2 ..).mpr ⟨ends, space'', digits'', blank'', number'', rfl⟩, ?_⟩
    rw [UInt32.ofNat_toNat, UInt32.ofNat_toNat, UInt8.ofNat_toNat]
    rfl

end Params

theorem splitOn_fields {parts : List Bytes} (nonempty : parts ≠ []) (absent : ∀ part ∈ parts, dollar ∉ part) :
    (fields parts).splitOn dollar = parts :=
  List.splitOn_intercalate dollar absent nonempty

/-- The text is read exactly when it is one of the accepted texts. -/
theorem parse_iff (text : Bytes) (encoded : Encoded) : parse text = .ok encoded ↔ Accepted text encoded := by
  constructor
  · intro parsed
    unfold parse at parsed
    split at parsed
    · rename_i first algorithm version params salt hash parts
      have absent : ∀ part ∈ [first, algorithm, version, params, salt, hash], dollar ∉ part := by
        rw [← parts]
        exact fun part => Separators.not_mem_of_mem_splitOn
      split at parsed
      · cases parsed
      · rename_i mem iters parallel scanned
        split at parsed
        · cases parsed
        · rename_i saltBytes decoded
          split at parsed
          · cases parsed
          · rename_i hashBytes decoded'
            cases parsed
            refine ⟨first, algorithm, version, params, salt, hash, ?_, (sscanf_iff ..).mp scanned, decoded,
              decoded', ?_⟩
            · intro part member
              exact absent part (List.mem_append_left [salt, hash] member)
            · rw [fields, ← parts, List.intercalate_splitOn]
    · cases parsed
  · rintro ⟨first, algorithm, version, params, salt, hash, absent, scanned, decoded, decoded', rfl⟩
    have parts : (fields [first, algorithm, version, params, salt, hash]).splitOn dollar =
        [first, algorithm, version, params, salt, hash] := by
      refine splitOn_fields nofun fun part member => ?_
      have divided : part ∈ [first, algorithm, version, params] ++ [salt, hash] := member
      rcases List.mem_append.mp divided with early | late
      · exact absent part early
      · rcases List.mem_pair.mp late with rfl | rfl
        · exact dollar_not_mem_of_decodeString decoded
        · exact dollar_not_mem_of_decodeString decoded'
    simp only [parse, parts, (sscanf_iff ..).mpr scanned, decoded, decoded']

theorem fields_six (first second third fourth fifth sixth : Bytes) :
    fields [first, second, third, fourth, fifth, sixth] = first ++ dollar :: (second ++ dollar :: (third ++
      dollar :: (fourth ++ dollar :: (fifth ++ dollar :: sixth)))) := by
  simp [fields, List.intercalate]

/-- A hash of the package has six fields. -/
theorem hash_ok (argon : Argon2) (plaintext : Bytes) (salt : Salt) :
    hash argon plaintext (some salt) = .ok (fields [[], ascii "argon2id", ascii "v=19", ascii "m=65536,t=3,p=4",
      Base64.encode salt, Base64.encode (argon.key plaintext salt iterations memory parallelism keyLen)]) := by
  rw [fields_six]
  rfl

/-- The parameters of the package are read back. -/
theorem parse_hash (salt key : Bytes) :
    parse (fields [[], ascii "argon2id", ascii "v=19", ascii "m=65536,t=3,p=4", Base64.encode salt,
      Base64.encode key]) = .ok ⟨memory, iterations, parallelism, salt, key⟩ := by
  have scanned : sscanf (ascii "m=65536,t=3,p=4") = .ok (memory, iterations, parallelism) := by decide
  refine (parse_iff _ _).mpr ⟨_, _, _, _, _, _, ?_, (sscanf_iff ..).mp scanned, decodeString_encode salt,
    decodeString_encode key, rfl⟩
  decide

/-- Digits are not dollars. -/
theorem dollar_not_mem_numeral {bits value : Nat} {text : Bytes} (number : Numeral bits text value) : dollar ∉ text :=
  fun member => absurd (number.digits dollar member) (by decide)

theorem blank_nil : Blank [] := ⟨[], nofun, rfl⟩

/-- A text of the documented form is accepted, with passes and threads. -/
theorem WellFormed.accepted {text : Bytes} (wellFormed : WellFormed text) :
    ∃ encoded, Accepted text encoded ∧ encoded.iters ≠ 0 ∧ encoded.parallel ≠ 0 := by
  obtain ⟨m, t, p, salt, hash, mem, iters, parallel, ⟨number, number', number''⟩, passes, threads, validSalt, validHash,
    _, rfl⟩ := wellFormed
  obtain ⟨saltBytes, decoded⟩ := Base64.decode_of_valid validSalt
  obtain ⟨hashBytes, decoded'⟩ := Base64.decode_of_valid validHash
  rw [← decodeString_of_symbols validSalt.1] at decoded
  rw [← decodeString_of_symbols validHash.1] at decoded'
  have memory : (UInt32.ofNat mem).toNat = mem := UInt32.toNat_ofNat_of_lt' number.fits
  have rounds : (UInt32.ofNat iters).toNat = iters := UInt32.toNat_ofNat_of_lt' number'.fits
  have lanes : (UInt8.ofNat parallel).toNat = parallel := UInt8.toNat_ofNat_of_lt' number''.fits
  refine ⟨⟨.ofNat mem, .ofNat iters, .ofNat parallel, saltBytes, hashBytes⟩, ⟨[], ascii "argon2id", ascii "v=19",
    ascii "m=" ++ ([] ++ (m ++ (ascii ",t=" ++ ([] ++ (t ++ (ascii ",p=" ++ ([] ++ (p ++ [])))))))), salt, hash, ?_,
    ⟨[], m, [], t, [], p, [], ⟨blank_nil, blank_nil, blank_nil⟩, ⟨?_, ?_, ?_⟩, nofun, rfl⟩,
    decoded, decoded', ?_⟩, ?_, ?_⟩
  · simp only [List.forall_mem_cons]
    refine ⟨List.not_mem_nil, by decide, by decide, ?_, nofun⟩
    have constants : dollar ∉ ascii "m=" ∧ dollar ∉ ascii ",t=" ∧ dollar ∉ ascii ",p=" := by decide
    simp only [List.mem_append, List.nil_append, List.append_nil, constants, dollar_not_mem_numeral number,
      dollar_not_mem_numeral number', dollar_not_mem_numeral number'', or_self, not_false_iff]
  · rw [memory]
    exact number
  · rw [rounds]
    exact number'
  · rw [lanes]
    exact number''
  · rw [fields_six]
    simp only [List.nil_append, List.append_nil, List.append_assoc]
    rfl
  · intro zero
    have none := congrArg UInt32.toNat zero
    rw [rounds] at none
    change iters = 0 at none
    omega
  · intro zero
    have none := congrArg UInt8.toNat zero
    rw [lanes] at none
    change parallel = 0 at none
    omega

/-- What the check answers for a text that was read. -/
theorem verify_parsed (argon : Argon2) (plaintext : Bytes) {text : Bytes} {encoded : Encoded}
    (parsed : parse text = .ok encoded) :
    verify argon plaintext text =
      if encoded.iters = 0 ∨ encoded.parallel = 0 ∨ UInt32.ofNat encoded.storedHash.length = 0 then .panic
      else .ok (decide (argon.key plaintext encoded.salt encoded.iters encoded.mem encoded.parallel
        (.ofNat encoded.storedHash.length) = encoded.storedHash)) := by
  by_cases unusable : encoded.iters = 0 ∨ encoded.parallel = 0 ∨ UInt32.ofNat encoded.storedHash.length = 0
  · simp only [verify, parsed, Argon2.idKey, if_pos unusable]
  · simp only [verify, parsed, Argon2.idKey, if_neg unusable]

end Password
open Password

/-- Every hash can be checked, and the check compares the two keys. -/
theorem hash_round_trips (argon : Argon2) (p q : Bytes) (salt : Salt) :
    ∃ encoded, hash argon p (some salt) = .ok encoded ∧
      verify argon q encoded = .ok (decide (argon.key q salt 3 65536 4 32 = argon.key p salt 3 65536 4 32)) ∧
      verify argon p encoded = .ok true := by
  have length : UInt32.ofNat (argon.key p salt iterations Password.memory parallelism keyLen).length = keyLen := by
    rw [argon.length_key, UInt32.ofNat_toNat]
  have checked (plaintext : Bytes) : verify argon plaintext (fields [[], ascii "argon2id", ascii "v=19",
      ascii "m=65536,t=3,p=4", Base64.encode salt,
      Base64.encode (argon.key p salt iterations Password.memory parallelism keyLen)]) =
        .ok (decide (argon.key plaintext salt 3 65536 4 32 = argon.key p salt 3 65536 4 32)) := by
    rw [verify, parse_hash]
    dsimp only
    rw [length]
    rfl
  refine ⟨_, hash_ok argon p salt, checked q, ?_⟩
  rw [checked, decide_eq_true rfl]

/-- The check rejects a text unless it has the documented form, and never panics, exactly when every accepted reading
of the text has the documented form and a hash whose length is not a multiple of two to the power 32. -/
theorem corrupted_rejected_iff (argon : Argon2) (text : Bytes) :
    (∀ plaintext, verify argon plaintext text ≠ .panic ∧
      (¬ WellFormed text → ∃ error, verify argon plaintext text = .error error)) ↔
      ∀ encoded, Accepted text encoded → WellFormed text ∧ UInt32.ofNat encoded.storedHash.length ≠ 0 := by
  constructor
  · intro rejects encoded accepted
    have parsed := (parse_iff text encoded).mpr accepted
    obtain ⟨safe, corrupted⟩ := rejects []
    rw [verify_parsed argon [] parsed] at safe corrupted
    split at safe
    · exact absurd rfl safe
    · rename_i usable
      refine ⟨?_, fun zero => usable (.inr (.inr zero))⟩
      by_contra other
      obtain ⟨error, refused⟩ := corrupted other
      rw [if_neg usable] at refused
      cases refused
  · intro documented plaintext
    cases parsed : parse text with
    | error error =>
        have refused : verify argon plaintext text = .error error := by rw [verify, parsed]
        rw [refused]
        exact ⟨nofun, fun _ => ⟨error, rfl⟩⟩
    | ok encoded =>
        obtain ⟨wellFormed, length⟩ := documented encoded ((parse_iff text encoded).mp parsed)
        obtain ⟨same, accepted, passes, threads⟩ := wellFormed.accepted
        obtain rfl : same = encoded := Except.ok.inj (((parse_iff text same).mpr accepted).symm.trans parsed)
        have usable : ¬ (same.iters = 0 ∨ same.parallel = 0 ∨ UInt32.ofNat same.storedHash.length = 0) := by
          simp only [passes, threads, length, or_self, not_false_iff]
        rw [verify_parsed argon plaintext parsed, if_neg usable]
        exact ⟨nofun, fun other => absurd wellFormed other⟩

/-- Keys of zeros. -/
def zeroKeys : Argon2 where
  key := fun _ _ _ _ _ keyLen => List.replicate keyLen.toNat 0
  length_key := fun _ _ _ _ _ _ => List.length_replicate

/-- A text of another algorithm with a rest after the parameters is checked like a hash, and no passes make the check
panic. -/
theorem corrupted_text_accepted :
    ¬ WellFormed (ascii "$argon2i$v=16$m=65536,t=3,p=4;x$AAAA$AAAA") ∧
      verify zeroKeys [] (ascii "$argon2i$v=16$m=65536,t=3,p=4;x$AAAA$AAAA") = .ok true ∧
      verify zeroKeys [] (ascii "$argon2id$v=19$m=65536,t=0,p=4$AAAA$AAAA") = .panic := by
  refine ⟨?_, by decide +kernel, by decide +kernel⟩
  rintro ⟨m, t, p, salt, hash, mem, iters, parallel, _, _, _, _, _, _, same⟩
  have ninth : some (36 : UInt8) = some 100 := congrArg (fun text : Bytes => text[8]?) same
  exact absurd ninth (by decide)

end AuthService
