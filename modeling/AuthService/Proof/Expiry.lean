/-
This file proves how reads of entries with an expiry follow the writes.
-/

import AuthService.Construction.Guard
import AuthService.Construction.RateLimit

namespace AuthService

section Seconds
variable {duration : Duration}

/-- A duration of whole seconds is read exactly. -/
theorem wholeSeconds_of_dvd (whole : second ∣ duration) : wholeSeconds duration * second = duration := by
  obtain ⟨count, rfl⟩ := whole
  have size : (second * count).natAbs = 1000000000 * count.natAbs := Int.natAbs_mul ..
  have sign : (second * count).sign = count.sign := (Int.sign_mul ..).trans (Int.one_mul _)
  rw [wholeSeconds, size, Nat.mul_mod_right, Nat.mul_div_cancel_left _ (by decide),
    Binary.wholeOfSum_zero (by decide), sign, Int.sign_mul_natAbs, Int.mul_comm]

/-- A duration of at least a second has a whole second. -/
theorem wholeSeconds_pos (least : second ≤ duration) : 0 < wholeSeconds duration := by
  have least : (1000000000 : Int) ≤ duration := least
  have whole : 1 ≤ duration.natAbs / 1000000000 := by omega
  have sign : duration.sign = 1 := Int.sign_eq_one_of_pos (by omega)
  rw [wholeSeconds, sign, Int.one_mul]
  exact Int.ofNat_lt.mpr (Nat.le_trans whole (Binary.le_wholeOfSum _))

/-- A double cannot tell this duration from one that is a nanosecond longer. -/
example : wholeSeconds 20000000999999999 = 20000001 := by decide +kernel

end Seconds

section Reads
variable {V : Type} {entries : String → Option (Expiring V)} {now later : Time} {key : String} {entry : Expiring V}

/-- A read finds an entry that is visible. -/
theorem lookup_visible {value : V} (found : lookup entries now key = some value) :
    ∃ entry, entries key = some entry ∧ entry.visible now = true ∧ entry.value = value := by
  unfold lookup at found
  split at found
  · rename_i entry present
    split at found
    · rename_i visible
      exact ⟨entry, present, visible, Option.some.inj found⟩
    · cases found
  · cases found

theorem lookup_eq_some {value : V} (found : lookup entries now key = some value) :
    ∃ entry, entries key = some entry ∧ entry.value = value := by
  obtain ⟨entry, present, _, same⟩ := lookup_visible found
  exact ⟨entry, present, same⟩

theorem lookup_of_visible (present : entries key = some entry) (visible : entry.visible now = true) :
    lookup entries now key = some entry.value := by
  rw [lookup, present]
  exact if_pos visible

theorem lookup_of_hidden (present : entries key = some entry) (hidden : ¬ entry.visible now = true) :
    lookup entries now key = none := by
  rw [lookup, present]
  exact if_neg hidden

theorem lookup_congr {entries' : String → Option (Expiring V)} (same : entries key = entries' key) :
    lookup entries now key = lookup entries' now key := by
  rw [lookup, same, lookup]

theorem lookup_update (visible : entry.visible now = true) :
    lookup (Function.update entries key (some entry)) now key = some entry.value :=
  lookup_of_visible (Function.update_self ..) visible

/-- An entry that can be read later can be read before. -/
theorem visible_mono (follows : now ≤ later) (visible : entry.visible later = true) :
    entry.visible now = true := by
  unfold Expiring.visible at visible ⊢
  split
  · rename_i expiry known
    rw [known] at visible
    exact decide_eq_true (Int.le_trans follows (of_decide_eq_true visible))
  · rfl

/-- An entry that is not visible stays so. -/
theorem lookup_none (follows : now ≤ later) (absent : lookup entries now key = none) :
    lookup entries later key = none := by
  rw [Option.eq_none_iff_forall_ne_some]
  intro value found
  obtain ⟨entry, present, visible, _⟩ := lookup_visible found
  cases absent.symm.trans (lookup_of_visible present (visible_mono follows visible))

theorem lookup_eq_filter (entries : String → Option (Expiring V)) (now : Time) (key : String) :
    lookup entries now key = ((entries key).filter fun entry => entry.visible now).map Expiring.value := by
  unfold lookup
  cases entries key with
  | none => rfl
  | some entry =>
      simp only [Option.filter_some]
      split <;> rfl

/-- Redis keeps a lifetime of whole milliseconds as it is. -/
theorem redisExpiry_exact {ttl : Duration} (positive : 0 < ttl) (whole : millisecond ∣ ttl) (now : Time) :
    redisExpiry now ttl = some (now + ttl) := by
  have exact := Int.ediv_mul_cancel whole
  have enough : millisecond ≤ ttl := Int.le_of_dvd positive whole
  rw [redisExpiry, if_neg (Int.not_le.mpr positive), exact, Int.max_eq_right enough]

end Reads

section Script
variable {counters : Counters} {seconds : Int} {now later : Time} {key other : String}

theorem luaIncrExpire_visible {entry : Expiring Int} (present : counters key = some entry)
    (visible : entry.visible now = true) :
    counters.luaIncrExpire seconds now key =
      (entry.value + 1, Function.update counters key (some { entry with value := entry.value + 1 })) := by
  rw [Counters.luaIncrExpire, present]
  exact if_pos visible

/-- Without a visible counter the script starts a new one. -/
theorem luaIncrExpire_absent (absent : lookup counters now key = none) :
    counters.luaIncrExpire seconds now key = Counters.luaIncrExpire.first seconds now key counters := by
  unfold Counters.luaIncrExpire
  split
  · rename_i entry present
    refine if_neg fun visible => ?_
    cases absent.symm.trans (lookup_of_visible present visible)
  · rfl

/-- The script counts one more than it finds. -/
theorem luaIncrExpire_value (seconds : Int) (now : Time) (key : String) (counters : Counters) :
    (counters.luaIncrExpire seconds now key).1 = (lookup counters now key).getD 0 + 1 := by
  cases found : lookup counters now key with
  | none =>
      rw [luaIncrExpire_absent found]
      rfl
  | some value =>
      obtain ⟨entry, present, visible, rfl⟩ := lookup_visible found
      rw [luaIncrExpire_visible present visible]
      rfl

theorem luaIncrExpire_other (different : other ≠ key) :
    (counters.luaIncrExpire seconds now key).2 other = counters other := by
  cases found : lookup counters now key with
  | none =>
      rw [luaIncrExpire_absent found]
      exact Function.update_of_ne different ..
  | some value =>
      obtain ⟨entry, present, visible, rfl⟩ := lookup_visible found
      rw [luaIncrExpire_visible present visible]
      exact Function.update_of_ne different ..

theorem luaIncrExpire_congr {counters' : Counters} (same : counters key = counters' key) :
    (counters.luaIncrExpire seconds now key).2 key = (counters'.luaIncrExpire seconds now key).2 key := by
  unfold Counters.luaIncrExpire Counters.luaIncrExpire.first
  rw [← same]
  split
  · split
    · simp only [Function.update_self]
    · simp only [Function.update_self]
  · simp only [Function.update_self]

/-- A counter that does not expire in between is one higher afterwards. -/
theorem luaIncrExpire_later (positive : ¬ seconds ≤ 0) (alive : lookup counters later key = lookup counters now key)
    (soon : later ≤ now + seconds * second) :
    lookup (counters.luaIncrExpire seconds now key).2 later key = some ((lookup counters now key).getD 0 + 1) := by
  cases found : lookup counters now key with
  | none =>
      rw [luaIncrExpire_absent found, Counters.luaIncrExpire.first, if_neg positive]
      exact lookup_update (decide_eq_true soon)
  | some value =>
      obtain ⟨entry, present, visible, rfl⟩ := lookup_visible found
      obtain ⟨same, present', still, _⟩ := lookup_visible (alive.trans found)
      obtain rfl := Option.some.inj (present.symm.trans present')
      rw [luaIncrExpire_visible present visible]
      exact lookup_update still

/-- The script stores the number that it returns. -/
theorem luaIncrExpire_stored {entry : Expiring Int}
    (stored : (counters.luaIncrExpire seconds now key).2 key = some entry) :
    entry.value = (lookup counters now key).getD 0 + 1 := by
  cases found : lookup counters now key with
  | none =>
      rw [luaIncrExpire_absent found] at stored
      simp only [Counters.luaIncrExpire.first, Function.update_self] at stored
      split at stored
      · cases stored
      · cases stored
        rfl
  | some value =>
      obtain ⟨old, present, visible, rfl⟩ := lookup_visible found
      rw [luaIncrExpire_visible present visible] at stored
      simp only [Function.update_self] at stored
      cases stored
      rfl

/-- The script of the guard is the one of the limiter, on the counters of the guard. -/
theorem GuardState.luaIncrExpire_eq (seconds : Int) (now : Time) (email : String) (guard : GuardState) :
    guard.luaIncrExpire seconds now email =
      ((Counters.luaIncrExpire seconds now email guard.attempts).1,
        { guard with attempts := (Counters.luaIncrExpire seconds now email guard.attempts).2 }) := by
  cases found : lookup guard.attempts now email with
  | none =>
      rw [luaIncrExpire_absent found]
      unfold luaIncrExpire
      split
      · rename_i entry present
        refine if_neg fun visible => ?_
        cases found.symm.trans (lookup_of_visible present visible)
      · rfl
  | some value =>
      obtain ⟨entry, present, visible, _⟩ := lookup_visible found
      rw [luaIncrExpire_visible present visible]
      simp only [luaIncrExpire, present, if_pos visible]

end Script
end AuthService
