/-
This file proves that the rate limiter counts the calls of each key in each window exactly.
-/

import AuthService.Encoding.Separators
import AuthService.Proof.Expiry
import Mathlib.Data.List.Induction

namespace AuthService

section Keys
variable {key key' : String} {start start' : Int}

theorem repr_toList (count : Nat) : count.repr.toList = Nat.toDigits 10 count := by
  rw [← Nat.toString_eq_repr, Nat.toString_eq_ofList_toDigits, String.toList_ofList]

theorem isDigit_of_mem_repr {count : Nat} {digit : Char} (member : digit ∈ count.repr.toList) :
    digit.isDigit = true := by
  rw [repr_toList] at member
  exact Nat.isDigit_of_mem_toDigits (by decide) (by decide) member

theorem repr_inj {count count' : Nat} (same : count.repr = count'.repr) : count = count' := by
  have digits := congrArg String.toList same
  rw [repr_toList, repr_toList] at digits
  rw [← Nat.ofDigitChars_ten_toDigits (n := count), digits, Nat.ofDigitChars_ten_toDigits]

theorem colon_not_mem_toString (value : Int) : ':' ∉ (toString value).toList := by
  have digits (count : Nat) : ':' ∉ count.repr.toList := fun member =>
    absurd (isDigit_of_mem_repr member) (by decide)
  rw [Int.toString_eq_repr, Int.repr_eq_if]
  split
  · exact digits _
  · rw [String.toList_append, List.mem_append]
    rintro (sign | member)
    · exact absurd sign (by decide)
    · exact digits _ member

/-- A number is determined by its text. -/
theorem toString_int_inj (same : toString start = toString start') : start = start' := by
  have signed {count count' : Nat} (equal : count.repr = "-" ++ count'.repr) : False := by
    have texts := congrArg String.toList equal
    rw [String.toList_append] at texts
    have member : '-' ∈ count.repr.toList := texts ▸ List.mem_append_left _ (by decide)
    exact absurd (isDigit_of_mem_repr member) (by decide)
  rw [Int.toString_eq_repr, Int.toString_eq_repr, Int.repr_eq_if, Int.repr_eq_if] at same
  split at same
  · split at same
    · have equal := repr_inj same
      omega
    · exact (signed same).elim
  · split at same
    · exact (signed same.symm).elim
    · have texts := congrArg String.toList same
      rw [String.toList_append, String.toList_append] at texts
      have equal := repr_inj (String.toList_injective (List.append_cancel_left texts))
      omega

/-- A counter belongs to one key and one window. -/
theorem counterKey_inj (same : counterKey key start = counterKey key' start') : key = key' ∧ start = start' := by
  have texts := congrArg String.toList same
  simp only [counterKey, String.toList_append, List.append_assoc] at texts
  have rest := List.append_cancel_left texts
  obtain ⟨keys, starts⟩ :=
    Separators.append_cons_inj ':' (colon_not_mem_toString start) (colon_not_mem_toString start') rest
  exact ⟨String.toList_injective keys, toString_int_inj (String.toList_injective starts)⟩

end Keys

section Windows
variable {window : Duration} {time time' : Time}

/-- The start of a window is a multiple of its length, counted from the zero time. -/
theorem truncate_eq (positive : 0 < window) (time : Time) :
    truncate time window = zeroTime + window * ((time - zeroTime) / window) := by
  have split (time zero rest whole : Int) (same : rest + whole = time - zero) : time - rest = zero + whole := by omega
  rw [truncate, if_neg (Int.not_le.mpr positive)]
  exact split _ _ _ _ (Int.emod_add_mul_ediv (time - zeroTime) window)

theorem truncate_le (positive : 0 < window) (time : Time) : truncate time window ≤ time := by
  rw [truncate, if_neg (Int.not_le.mpr positive)]
  exact Int.sub_le_self _ (Int.emod_nonneg _ (Int.ne_of_gt positive))

theorem lt_truncate_add (positive : 0 < window) (time : Time) : time < truncate time window + window := by
  have below (time rest window : Int) (bound : rest < window) : time < time - rest + window := by omega
  rw [truncate, if_neg (Int.not_le.mpr positive)]
  exact below _ _ _ (Int.emod_lt_of_pos _ positive)

/-- Windows of at least one second start in different seconds. -/
theorem truncate_inj (least : second ≤ window)
    (same : unixSeconds (truncate time window) = unixSeconds (truncate time' window)) :
    truncate time window = truncate time' window := by
  have positive : 0 < window := Int.lt_of_lt_of_le (by decide) least
  have apart {index index' : Int} (before : index < index')
      (equal : (zeroTime + window * index) / second = (zeroTime + window * index') / second) : False := by
    have scaled : window * (index + 1) ≤ window * index' :=
      Int.mul_le_mul_of_nonneg_left before (Int.le_of_lt positive)
    rw [Int.mul_add, Int.mul_one] at scaled
    have seconds (zero window first next : Int) (least : 1000000000 ≤ window) (gap : first + window ≤ next)
        (equal : (zero + first) / 1000000000 = (zero + next) / 1000000000) : False := by omega
    exact seconds _ _ _ _ least scaled equal
  rw [unixSeconds, unixSeconds, truncate_eq positive, truncate_eq positive] at same
  rw [truncate_eq positive, truncate_eq positive]
  rcases Int.lt_trichotomy ((time - zeroTime) / window) ((time' - zeroTime) / window) with before | equal | after
  · exact (apart before same).elim
  · rw [equal]
  · exact (apart after same.symm).elim

/-- Two times in one window are less than its length apart. -/
theorem lt_add_of_truncate_eq (positive : 0 < window) (same : truncate time window = truncate time' window) :
    time' < time + window := by
  have inside := lt_truncate_add positive time'
  rw [← same] at inside
  exact Int.lt_of_lt_of_le inside (Int.add_le_add_right (truncate_le positive time) window)

end Windows

/-- A year of 366 days. -/
def year : Duration := 366 * 24 * 60 * minute

/-- A call of a limiter. -/
structure LimiterCall where
  time : Time
  key : String
deriving DecidableEq

namespace Limiter
variable {limiter : Limiter}

/-- The counters after calls that were made one after another. -/
def countersAfter (limiter : Limiter) (calls : List LimiterCall) : Counters :=
  calls.foldl (fun counters call => (limiter.allow false call.time call.key counters).2) .empty

/-- The calls with the same key in the same window. -/
def together (limiter : Limiter) (calls : List LimiterCall) (call : LimiterCall) : Nat :=
  (calls.filter fun other =>
    other.key = call.key ∧ truncate other.time limiter.window = truncate call.time limiter.window).length

theorem together_append (calls : List LimiterCall) (last call : LimiterCall) :
    limiter.together (calls ++ [last]) call = limiter.together calls call +
      if last.key = call.key ∧ truncate last.time limiter.window = truncate call.time limiter.window then 1 else 0 := by
  rw [together, List.filter_append, List.length_append, together, List.filter_cons]
  split
  · rename_i same
    rw [if_pos (of_decide_eq_true same)]
    rfl
  · rename_i other
    rw [if_neg fun same => other (decide_eq_true same)]
    rfl

theorem countersAfter_append (calls : List LimiterCall) (last : LimiterCall) :
    limiter.countersAfter (calls ++ [last]) = ((limiter.countersAfter calls).luaIncrExpire limiter.ttlSecs last.time
      (limiter.redisKey last.time last.key)).2 := by
  rw [countersAfter, List.foldl_append]
  rfl

/-- The lifetime of a counter is longer than its window. -/
theorem ttlSecs_window (least : second ≤ limiter.window) (most : limiter.window ≤ year) :
    ¬ limiter.ttlSecs ≤ 0 ∧ limiter.window ≤ limiter.ttlSecs * second := by
  have fits (window : Int) (least : 1000000000 ≤ window) (most : window ≤ 31622400000000000) :
      (window * 2).bmod (2 ^ 64) = window * 2 := Int.bmod_eq_of_le (by omega) (by omega)
  have whole (window : Int) (least : 1000000000 ≤ window) :
      ¬ window * 2 / 1000000000 ≤ 0 ∧ window ≤ window * 2 / 1000000000 * 1000000000 := by omega
  have positive : 0 ≤ limiter.window * 2 := Int.mul_nonneg (Int.le_trans (by decide) least) (by decide)
  have exact : int64 (limiter.window * 2) = limiter.window * 2 := fits limiter.window least most
  rw [ttlSecs, exact, Int.tdiv_eq_ediv_of_nonneg positive]
  exact whole limiter.window least

/-- Two calls share a counter exactly when they have one key and one window. -/
theorem redisKey_eq_iff (least : second ≤ limiter.window) (first call : LimiterCall) :
    limiter.redisKey first.time first.key = limiter.redisKey call.time call.key ↔
      first.key = call.key ∧ truncate first.time limiter.window = truncate call.time limiter.window := by
  constructor
  · intro same
    obtain ⟨keys, starts⟩ := counterKey_inj same
    exact ⟨keys, truncate_inj least starts⟩
  · rintro ⟨keys, starts⟩
    rw [redisKey, redisKey, keys, starts]

/-- At the time of the next call its counter holds the calls with its key in its window. -/
theorem lookup_countersAfter (least : second ≤ limiter.window) (most : limiter.window ≤ year)
    {calls : List LimiterCall} (ordered : calls.Pairwise fun first second => first.time ≤ second.time)
    (call : LimiterCall) (after : ∀ other ∈ calls, other.time ≤ call.time) :
    lookup (limiter.countersAfter calls) call.time (limiter.redisKey call.time call.key) =
      if limiter.together calls call = 0 then none else some (limiter.together calls call : Int) := by
  obtain ⟨positive, lifetime⟩ := ttlSecs_window least most
  induction calls using List.reverseRecOn generalizing call with
  | nil => rfl
  | append_singleton calls last ih =>
      obtain ⟨ordered, _, before⟩ := List.pairwise_append.mp ordered
      have known := ih ordered call fun other member => after other (List.mem_append_left _ member)
      rw [countersAfter_append, together_append]
      by_cases same : last.key = call.key ∧ truncate last.time limiter.window = truncate call.time limiter.window
      · have key := (redisKey_eq_iff least last call).mpr same
        have count : limiter.together calls last = limiter.together calls call := by
          rw [together, together, same.1, same.2]
        have earlier := ih ordered last fun other member => before other member last (List.mem_singleton_self _)
        rw [key, count] at earlier
        have soon : call.time ≤ last.time + limiter.ttlSecs * second :=
          Int.le_trans (Int.le_of_lt (lt_add_of_truncate_eq (Int.lt_of_lt_of_le (by decide) least) same.2))
            (Int.add_le_add_left lifetime _)
        rw [if_pos same, if_neg (Nat.succ_ne_zero _), key,
          luaIncrExpire_later positive (known.trans earlier.symm) soon, earlier]
        split
        · rename_i none
          rw [none]
          rfl
        · rfl
      · have other : limiter.redisKey call.time call.key ≠ limiter.redisKey last.time last.key := fun equal =>
          same ((redisKey_eq_iff least last call).mp equal.symm)
        rw [if_neg same, Nat.add_zero, ← known]
        exact lookup_congr (luaIncrExpire_other other)

end Limiter

/-- Every call of a limiter is allowed exactly when fewer calls than the limit came before it with the same key in the
same window. -/
theorem fixed_window_exact (limiter : Limiter) (least : second ≤ limiter.window) (most : limiter.window ≤ year)
    (calls : List LimiterCall) (ordered : calls.Pairwise fun first second => first.time ≤ second.time) :
    ∀ before call after, calls = before ++ call :: after →
      (limiter.allow false call.time call.key (limiter.countersAfter before)).1 =
        (decide ((limiter.together before call : Int) < limiter.limit), none) := by
  rintro before call after rfl
  obtain ⟨ordered, _, earlier⟩ := List.pairwise_append.mp ordered
  have known := Limiter.lookup_countersAfter least most ordered call fun other member =>
    earlier other member call List.mem_cons_self
  simp only [Limiter.allow, if_neg Bool.false_ne_true, luaIncrExpire_value, known]
  have counted : (if limiter.together before call = 0 then none else some (limiter.together before call : Int)).getD 0 =
      limiter.together before call := by
    split
    · rename_i zero
      rw [zero]
      rfl
    · rfl
  rw [counted]
  rfl

/-- Two calls in a window of a second and a half are allowed, the third is not, and the next window starts again. -/
theorem fixed_window_exact_sample :
    let limiter : Limiter := ⟨2, 1500 * millisecond⟩
    let calls : List LimiterCall := [⟨0, "a:1"⟩, ⟨second, "a:1"⟩, ⟨1400 * millisecond, "a:1"⟩]
    (limiter.allow false (1400 * millisecond) "a:1" (limiter.countersAfter (calls.take 2))).1 = (false, none) := by
  intro limiter calls
  exact (fixed_window_exact limiter (by decide) (by decide) calls (by decide) (calls.take 2)
    ⟨1400 * millisecond, "a:1"⟩ [] rfl).trans (by decide)

end AuthService
