/-
This file proves which failures the guard counts together, in the window and through outages of Redis.
-/

import AuthService.Proof.LocalFallback

namespace AuthService
open Interleaving

/-- The guard after failures of one address that were recorded one after another. -/
def afterFailures (config : GuardConfig) (email : String) (times : List Time) : GuardState :=
  times.foldl (fun guard time => (guard.recordFailure config (fun _ => false) time email).2) .empty

/-- What `RecordFailure` returns after earlier failures. -/
def recordedAt (config : GuardConfig) (email : String) (earlier : List Time) (time : Time) : Except StoreError Bool :=
  ((afterFailures config email earlier).recordFailure config (fun _ => false) time email).1

/-- The lockout rule after failures. -/
def Lockout.after (config : GuardConfig) (times : List Time) : Lockout := times.foldl (Lockout.fail config) .clear

section Window
variable {config : GuardConfig} {email : String} {spec : Lockout} {earlier front : List Time} {first now expiry : Time}

theorem counts_afterFailures (window : second ∣ config.window) (least : second ≤ config.window) (email : String)
    (times : List Time) : CountsFailures email (.after config times) (afterFailures config email times) := by
  induction times using List.reverseRecOn with
  | nil => exact rfl
  | append_singleton times time ih =>
      obtain ⟨next, recorded, counted⟩ := ih.recordFailure window least time
      simp only [afterFailures, Lockout.after, List.foldl_append, List.foldl_cons, List.foldl_nil] at recorded counted ⊢
      rw [recorded]
      exact counted

theorem recordedAt_eq (window : second ∣ config.window) (least : second ≤ config.window) (email : String)
    (earlier : List Time) (time : Time) :
    recordedAt config email earlier time = .ok ((Lockout.after config earlier).reaches config time) := by
  obtain ⟨next, recorded, _⟩ := (counts_afterFailures window least email earlier).recordFailure window least time
  rw [recordedAt, recorded]

namespace Lockout

theorem fail_of_below (below : spec.reaches config now = false) :
    spec.fail config now = ⟨spec.counted now + 1, spec.window config now, spec.lockedUntil⟩ := by
  rw [fail, below, if_neg Bool.false_ne_true]

theorem counted_le (spec : Lockout) (now : Time) : spec.counted now ≤ spec.failures := by
  unfold counted
  split
  · exact Nat.zero_le _
  · exact Nat.le_refl _

/-- The failures that count stay below the limit. -/
theorem failures_lt (config : GuardConfig) (positive : 1 ≤ config.maxAttempts) (times : List Time) :
    ((after config times).failures : Int) < config.maxAttempts := by
  induction times using List.reverseRecOn with
  | nil => exact positive
  | append_singleton times time ih =>
      rw [after, List.foldl_append, List.foldl_cons, List.foldl_nil]
      cases reached : (List.foldl (fail config) clear times).reaches config time with
      | true =>
          rw [fail, if_pos reached]
          exact positive
      | false =>
          rw [fail_of_below reached]
          exact Int.not_le.mp (of_decide_eq_false reached)

/-- No failure of the list reaches the limit. -/
abbrev Below (config : GuardConfig) : Lockout → List Time → Prop :=
  Along (fail config) fun spec time => spec.reaches config time = false

/-- Failures that do not reach the limit are all counted together with those before them, or a window ended among
them and the count is smaller than their number. -/
theorem failures_cases (rest : List Time) (below : Below config spec (first :: rest)) :
    ((first :: rest).foldl (fail config) spec).failures = spec.counted first + rest.length + 1 ∨
      ((first :: rest).foldl (fail config) spec).failures ≤ rest.length := by
  induction rest generalizing spec first with
  | nil =>
      rw [List.foldl_cons, List.foldl_nil, fail_of_below below.1]
      exact .inl rfl
  | cons next rest ih =>
      have counted : (spec.fail config first).failures = spec.counted first + 1 := by rw [fail_of_below below.1]
      have bound := (spec.fail config first).counted_le next
      have cases := ih below.2
      rw [List.foldl_cons, List.length_cons]
      by_cases ended : (spec.fail config first).counted next = 0
      · omega
      · have kept : (spec.fail config first).counted next = (spec.fail config first).failures := by
          unfold Lockout.counted at ended ⊢
          split at ended
          · exact absurd rfl ended
          · rename_i open'
            rw [if_neg open']
        omega

/-- Failures in an open window are counted on. -/
theorem failures_open (counting : spec.failures ≠ 0) (opened : spec.windowEnd = some expiry)
    (inside : ∀ time ∈ front, time ≤ expiry) (below : Below config spec front) :
    (front.foldl (fail config) spec).failures = spec.failures + front.length ∧
      (front.foldl (fail config) spec).windowEnd = some expiry := by
  induction front generalizing spec with
  | nil => exact ⟨rfl, opened⟩
  | cons time front ih =>
      have current : ¬ (spec.windowEnd.any fun expiry => decide (expiry < time)) = true := by
        rw [opened, Option.any_some, decide_eq_true_eq]
        exact Int.not_lt.mpr (inside time List.mem_cons_self)
      have counted : spec.counted time = spec.failures := by rw [Lockout.counted, if_neg current]
      have moved := fail_of_below below.1
      have kept : (spec.fail config time).windowEnd = some expiry := by
        rw [moved, window, counted, if_neg counting]
        exact opened
      have more : (spec.fail config time).failures = spec.failures + 1 := by rw [moved, counted]
      obtain ⟨failures, windowEnd⟩ := ih (more ▸ Nat.succ_ne_zero _) kept
        (fun other member => inside other (List.mem_cons_of_mem _ member)) below.2
      rw [List.foldl_cons, List.length_cons]
      refine ⟨?_, windowEnd⟩
      omega

end Lockout
end Window

/-- When the last failures are as many as the limit, fall within a span shorter than the window and none before the
last one locked the address, the last one locks it exactly when the first of them opened a window. -/
theorem rolling_window_iff (config : GuardConfig) (window : second ∣ config.window) (least : second ≤ config.window)
    (email : String) (earlier front : List Time) (last : Time)
    (ordered : (earlier ++ (front ++ [last])).Pairwise (· ≤ ·))
    (count : (front.length : Int) + 1 = config.maxAttempts) (span : last - front.headD last < config.window)
    (unlocked : ∀ before time after, front = before ++ time :: after →
      recordedAt config email (earlier ++ before) time ≠ .ok true) :
    recordedAt config email (earlier ++ front) last = .ok true ↔
      (Lockout.after config earlier).counted (front.headD last) = 0 := by
  have below : Lockout.Below config (.after config earlier) front := by
    refine .of_splits fun before time after split => ?_
    have refused := unlocked before time after split
    rw [recordedAt_eq window least, Lockout.after, List.foldl_append] at refused
    exact Bool.eq_false_iff.mpr fun reached => refused (congrArg Except.ok reached)
  rw [recordedAt_eq window least, Except.ok.injEq, Lockout.reaches, decide_eq_true_eq, Lockout.after,
    List.foldl_append]
  change config.maxAttempts ≤ ((front.foldl (Lockout.fail config) (.after config earlier)).counted last : Int) + 1 ↔ _
  have inside : ∀ time ∈ front, time ≤ last := fun time member =>
    (List.pairwise_append.mp (List.pairwise_append.mp ordered).2.1).2.2 time member last (List.mem_singleton_self _)
  cases front with
  | nil =>
      have few := Lockout.failures_lt config (by omega) earlier
      have bound := (Lockout.after config earlier).counted_le last
      simp only [List.foldl_nil, List.headD_nil, List.length_nil] at count ⊢
      omega
  | cons first rest =>
      have bound := ((first :: rest).foldl (Lockout.fail config) (.after config earlier)).counted_le last
      simp only [List.length_cons, List.headD_cons] at count span ⊢
      constructor
      · intro reached
        have cases := Lockout.failures_cases rest below
        have few := Lockout.failures_lt config (by omega) (earlier ++ first :: rest)
        rw [Lockout.after, List.foldl_append] at few
        change ((List.foldl (Lockout.fail config) (.after config earlier) (first :: rest)).failures : Int) < _ at few
        omega
      · intro opens
        have moved := Lockout.fail_of_below below.1
        have opened : ((Lockout.after config earlier).fail config first).windowEnd = some (first + config.window) := by
          rw [moved, Lockout.window, if_pos opens]
        have counting : ((Lockout.after config earlier).fail config first).failures = 1 := by rw [moved, opens]
        have current : last ≤ first + config.window := Int.le_of_lt (Int.lt_add_of_sub_left_lt span)
        obtain ⟨failures, windowEnd⟩ := Lockout.failures_open (counting ▸ Nat.one_ne_zero) opened
          (fun time member => Int.le_trans (inside time (List.mem_cons_of_mem _ member)) current) below.2
        have counted : ((first :: rest).foldl (Lockout.fail config) (.after config earlier)).counted last =
            ((first :: rest).foldl (Lockout.fail config) (.after config earlier)).failures := by
          rw [List.foldl_cons, Lockout.counted, windowEnd, Option.any_some, if_neg]
          rw [decide_eq_true_eq]
          exact Int.not_lt.mpr current
        rw [counted, List.foldl_cons, failures]
        omega

/-- Three failures lock the address for a second, and the window is ten seconds long. -/
def threeFailures : GuardConfig := ⟨3, 10 * second, second⟩

/-- The old window is over, and the third failure of the new one locks the address. -/
theorem new_window_locks :
    recordedAt threeFailures "ann@example.com" [0, 11 * second, 12 * second] (13 * second) = .ok true := by
  have unlocked (before : List Time) (time : Time) (after : List Time)
      (split : [11 * second, 12 * second] = before ++ time :: after) :
      recordedAt threeFailures "ann@example.com" ([0] ++ before) time ≠ .ok true := by
    match before with
    | [] =>
        obtain ⟨rfl, _⟩ := List.cons.inj split
        decide +kernel
    | [other] =>
        obtain ⟨same, rest⟩ := List.cons.inj split
        obtain ⟨rfl, _⟩ := List.cons.inj rest
        rw [← same]
        decide +kernel
    | _ :: _ :: _ => simp at split
  exact (rolling_window_iff threeFailures (by decide) (by decide) "ann@example.com" [0] [11 * second, 12 * second]
    (13 * second) (by decide) (by decide) (by decide) unlocked).mpr (by decide)

/-- Three failures fall within three seconds and the window is ten seconds long, but the counter of an older failure
expires between them. -/
theorem old_window_hides_failures :
    1 ≤ threeFailures.maxAttempts ∧ second ∣ threeFailures.window ∧ second ≤ threeFailures.window ∧
      12 * second - 9 * second < threeFailures.window ∧
      recordedAt threeFailures "ann@example.com" [0] (9 * second) = .ok false ∧
      recordedAt threeFailures "ann@example.com" [0, 9 * second] (11 * second) = .ok false ∧
      recordedAt threeFailures "ann@example.com" [0, 9 * second, 11 * second] (12 * second) = .ok false := by
  decide +kernel

/-- A call of the guard for one address at a time, with the Redis commands that fail. -/
inductive OutageCall where
  | recordFailure (time : Time) (down : Nat → Bool)
  | reset (time : Time) (down : Bool)

namespace OutageCall

def time : OutageCall → Time
  | .recordFailure time _ => time
  | .reset time _ => time

/-- The guard after a call. -/
def next (config : GuardConfig) (email : String) (guard : GuardState) : OutageCall → GuardState
  | .recordFailure time down => (guard.recordFailure config down time email).2
  | .reset _ down => guard.reset down email

/-- The number of failures since the last reset. -/
def sinceReset (count : Nat) : OutageCall → Nat
  | .recordFailure _ _ => count + 1
  | .reset _ _ => 0

/-- A reset deletes the counter, or there is none or only an expired one. -/
def Clears (email : String) (guard : GuardState) : OutageCall → Prop
  | .recordFailure _ _ => True
  | .reset time down => down = false ∨ lookup guard.attempts time email = none

end OutageCall

/-- The failures that are recorded since the last reset of a list of calls. -/
def failuresSinceReset (calls : List OutageCall) : Nat := calls.foldl OutageCall.sinceReset 0

section Outages
variable {config : GuardConfig} {email : String} {guard : GuardState} {count : Nat} {now : Time} {down : Nat → Bool}

/-- From a time on neither counter of the address exceeds the failures since the last reset. -/
structure CountsAtMost (email : String) (count : Nat) (now : Time) (guard : GuardState) : Prop where
  attempts : ∀ later, now ≤ later → (lookup guard.attempts later email).getD 0 ≤ count
  localCount : (guard.getLocalEntry email).count ≤ count

theorem luaIncrExpire_le (seconds : Int) (bound : (lookup guard.attempts now email).getD 0 ≤ count) :
    (guard.luaIncrExpire seconds now email).1 ≤ count + 1 ∧
      (∀ later, (lookup (guard.luaIncrExpire seconds now email).2.attempts later email).getD 0 ≤ (count + 1 : Nat)) ∧
      (guard.luaIncrExpire seconds now email).2.localEntries = guard.localEntries := by
  rw [GuardState.luaIncrExpire_eq]
  refine ⟨?_, fun later => ?_, rfl⟩
  · rw [luaIncrExpire_value]
    exact Int.add_le_add_right bound 1
  · cases found : lookup (Counters.luaIncrExpire seconds now email guard.attempts).2 later email with
    | none => exact Int.natCast_nonneg _
    | some value =>
        obtain ⟨entry, stored, rfl⟩ := lookup_eq_some found
        rw [Option.getD_some, luaIncrExpire_stored stored]
        exact Int.add_le_add_right bound 1

theorem LocalEntry.recordFailure_le (config : GuardConfig) (now : Time) {entry : LocalEntry}
    (bound : entry.count ≤ count) :
    (entry.recordFailure config now).2.count ≤ count + 1 ∧
      ((entry.recordFailure config now).1 = true → config.maxAttempts ≤ count + 1) := by
  have counted : entry.counted now ≤ count := by
    unfold LocalEntry.counted
    split
    · exact Int.natCast_nonneg _
    · exact bound
  rw [LocalEntry.recordFailure_eq]
  by_cases limit : config.maxAttempts ≤ entry.counted now + 1
  · rw [if_pos limit]
    exact ⟨by dsimp only; omega, fun _ => by omega⟩
  · rw [if_neg limit]
    exact ⟨Int.add_le_add_right counted 1, fun locked => absurd locked Bool.false_ne_true⟩

namespace CountsAtMost

theorem empty (email : String) (now : Time) : CountsAtMost email 0 now .empty :=
  ⟨fun _ _ => Int.le_refl 0, Int.le_refl 0⟩

theorem mono {later : Time} (bounds : CountsAtMost email count now guard) (follows : now ≤ later) :
    CountsAtMost email count later guard :=
  ⟨fun time after => bounds.attempts time (Int.le_trans follows after), bounds.localCount⟩

/-- A failure is counted once, on Redis or in the process, and it locks the address only when there are enough. -/
theorem recordFailure (bounds : CountsAtMost email count now guard) (config : GuardConfig) (down : Nat → Bool) :
    CountsAtMost email (count + 1) now (guard.recordFailure config down now email).2 ∧
      ((guard.recordFailure config down now email).1 = .ok true → config.maxAttempts ≤ (count : Int) + 1) := by
  unfold GuardState.recordFailure
  by_cases outage : down 0 = true
  · obtain ⟨kept, enough⟩ := LocalEntry.recordFailure_le config now bounds.localCount
    rw [if_pos outage]
    refine ⟨⟨fun later follows => ?_, ?_⟩, fun locked => enough (Except.ok.inj locked)⟩
    · exact Int.le_trans (bounds.attempts later follows) (by omega)
    · simp only [GuardState.setLocalEntry, GuardState.getLocalEntry, Function.update_self, Option.getD_some]
      exact kept
  · obtain ⟨counted, stored, same⟩ :=
      luaIncrExpire_le (wholeSeconds config.window) (bounds.attempts now (Int.le_refl _))
    have others {next : GuardState} (kept : next.localEntries = guard.localEntries) :
        (next.getLocalEntry email).count ≤ (count + 1 : Nat) := by
      have bound : (next.getLocalEntry email).count ≤ count := by
        rw [GuardState.getLocalEntry, kept]
        exact bounds.localCount
      omega
    have known : CountsAtMost email (count + 1) now (guard.luaIncrExpire (wholeSeconds config.window) now email).2 :=
      ⟨fun later _ => stored later, others same⟩
    rw [if_neg outage]
    dsimp only
    by_cases limit : config.maxAttempts ≤ (guard.luaIncrExpire (wholeSeconds config.window) now email).1
    · rw [if_pos limit]
      refine ⟨?_, fun _ => Int.le_trans limit counted⟩
      by_cases unset : down 1 = true
      · rw [if_pos unset]
        exact known
      · rw [if_neg unset]
        by_cases kept : down 2 = true
        · rw [if_pos kept]
          exact ⟨known.attempts, known.localCount⟩
        · rw [if_neg kept]
          refine ⟨fun later _ => ?_, known.localCount⟩
          simp only [lookup, Function.update_self]
          exact Int.natCast_nonneg _
    · rw [if_neg limit]
      exact ⟨known, fun locked => absurd (Except.ok.inj locked) Bool.false_ne_true⟩

/-- A reset after which no counter is left starts the count again. -/
theorem reset {lost : Bool} (clears : lost = false ∨ lookup guard.attempts now email = none) :
    CountsAtMost email 0 now (guard.reset lost email) := by
  refine ⟨fun later follows => ?_, ?_⟩
  · cases lost with
    | false =>
        simp only [GuardState.reset, Bool.false_eq_true, if_false, lookup, Function.update_self]
        exact Int.le_refl 0
    | true =>
        have absent := lookup_none follows (clears.resolve_left Bool.true_eq_false.mp)
        simp only [GuardState.reset, if_true, absent]
        exact Int.le_refl 0
  · simp only [GuardState.reset, GuardState.getLocalEntry, Function.update_self, Option.getD_none]
    exact Int.le_refl 0

/-- One call keeps the bounds. -/
theorem next {call : OutageCall} (bounds : CountsAtMost email count call.time guard)
    (clears : call.Clears email guard) :
    CountsAtMost email (call.sinceReset count) call.time (OutageCall.next config email guard call) := by
  cases call with
  | recordFailure time down => exact (bounds.recordFailure config down).1
  | reset time lost => exact reset clears

/-- Every list of calls in the order of time whose resets leave no counter keeps the bounds. -/
theorem calls {calls : List OutageCall} {last : Time} (ordered : (calls.map OutageCall.time ++ [last]).Pairwise (· ≤ ·))
    (clears : Along (OutageCall.next config email) (OutageCall.Clears email) guard calls)
    (bounds : ∀ time ∈ calls.map OutageCall.time ++ [last], CountsAtMost email count time guard) :
    CountsAtMost email (calls.foldl OutageCall.sinceReset count) last
      (calls.foldl (OutageCall.next config email) guard) := by
  induction calls generalizing guard count with
  | nil => exact bounds last (List.mem_singleton_self _)
  | cons call calls ih =>
      obtain ⟨first, rest⟩ := List.pairwise_cons.mp ordered
      have moved : CountsAtMost email (call.sinceReset count) call.time (OutageCall.next config email guard call) :=
        (bounds call.time (List.mem_cons_self ..)).next clears.1
      exact ih rest clears.2 fun time member => moved.mono (first time member)

end CountsAtMost
end Outages

/-- In every run of calls for one address in which each Redis command fails or not, and each reset deletes the counter
or finds none, a failure locks the address only when there were enough failures since the last reset. -/
theorem lockout_needs_failures (config : GuardConfig) (email : String) (calls : List OutageCall) (time : Time)
    (down : Nat → Bool) (ordered : (calls.map OutageCall.time ++ [time]).Pairwise (· ≤ ·))
    (clears : Along (OutageCall.next config email) (OutageCall.Clears email) .empty calls)
    (locked : ((calls.foldl (OutageCall.next config email) .empty).recordFailure config down time email).1 =
      .ok true) :
    config.maxAttempts ≤ (failuresSinceReset calls : Int) + 1 :=
  ((CountsAtMost.calls ordered clears fun time _ => .empty email time).recordFailure config down).2 locked

/-- The reset misses Redis after the counter has expired. Then a failure in the process locks nothing, and the second
one on Redis does. -/
theorem lockout_after_outage :
    let calls : List OutageCall := [.recordFailure 0 fun _ => false, .reset (11 * second) true,
      .recordFailure (12 * second) fun _ => true, .recordFailure (13 * second) fun _ => false]
    shortLockout.maxAttempts ≤ (failuresSinceReset calls : Int) + 1 := by
  intro calls
  refine lockout_needs_failures shortLockout "ann@example.com" calls (14 * second) (fun _ => false) (by decide) ?_
    (by decide +kernel)
  exact ⟨trivial, .inr (by decide +kernel), trivial, trivial, trivial⟩

/-- The reset does not reach Redis, and the first failure after it locks the address. -/
theorem lost_reset_locks :
    let calls : List OutageCall := [.recordFailure 0 fun _ => false, .reset second true]
    1 ≤ shortLockout.maxAttempts ∧
    ((calls.foldl (OutageCall.next shortLockout "ann@example.com") .empty).recordFailure shortLockout
      (fun _ => false) (2 * second) "ann@example.com").1 = .ok true ∧
    (failuresSinceReset calls : Int) + 1 < shortLockout.maxAttempts := by
  decide +kernel

end AuthService
