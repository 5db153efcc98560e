/-
This file proves which clients share a rate-limit counter.
-/

import AuthService.Proof.FixedWindow

namespace AuthService

/-- Which requests of an address pass the interceptor with Redis reachable. -/
def passed (globalLimiter loginLimiter : Limiter) (address : String) : Counters → List Incoming → List Bool
  | _, [] => []
  | counters, incoming :: rest =>
      let result := rateLimit globalLimiter loginLimiter (fun _ => false) incoming counters
      if extractIP incoming.ctx = address then
        result.1.isOk :: passed globalLimiter loginLimiter address result.2 rest
      else passed globalLimiter loginLimiter address result.2 rest

/-- The requests that do not come from an address. -/
def withoutFrom (address : String) (requests : List Incoming) : List Incoming :=
  requests.filter fun incoming => extractIP incoming.ctx ≠ address

/-- The checks of the requests are made one after another. -/
def InOrder (requests : List Incoming) : Prop :=
  (requests.flatMap fun incoming => [incoming.time, incoming.loginTime]).Pairwise (· ≤ ·)

/-- The tag of the stricter limit in front of an address, a number of times. -/
def tagged : Nat → String → String
  | 0, address => address
  | count + 1, address => "auth:" ++ tagged count address

theorem tagged_tag (count : Nat) (address : String) :
    tagged count ("auth:" ++ address) = tagged (count + 1) address := by
  induction count with
  | zero => rfl
  | succ count ih => exact congrArg ("auth:" ++ ·) ih

theorem length_tagged (count : Nat) (address : String) :
    (tagged count address).length = 5 * count + address.length := by
  induction count with
  | zero => exact (Nat.zero_add _).symm
  | succ count ih =>
      rw [tagged, String.length_append, ih]
      change 5 + _ = _
      omega

theorem tagged_ne (count : Nat) (address : String) : tagged (count + 1) address ≠ address := by
  intro same
  have lengths := length_tagged (count + 1) address
  rw [same] at lengths
  omega

section Agreement
variable {b key : String} {counters counters' : Counters} {globalLimiter loginLimiter : Limiter} {incoming : Incoming}

/-- The texts that a request from the address can bring into the key of a counter, directly or through others. -/
def Above (b key : String) : Prop := ∃ count, key = tagged count b

theorem above_tag (above : Above b key) : Above b ("auth:" ++ key) := by
  obtain ⟨count, rfl⟩ := above
  exact ⟨count + 1, rfl⟩

/-- A tagged text is above the address when it is the address itself or the text is. -/
theorem above_of_tag (above : Above b ("auth:" ++ key)) : b = "auth:" ++ key ∨ Above b key := by
  obtain ⟨count, same⟩ := above
  cases count with
  | zero => exact .inl same.symm
  | succ count => exact .inr ⟨count, (String.append_right_inj _).mp same⟩

/-- The counters agree on all keys that are not above the address. -/
def SameOutside (b : String) (counters counters' : Counters) : Prop :=
  ∀ key start, ¬ Above b key → counters (counterKey key start) = counters' (counterKey key start)

theorem SameOutside.symm (agree : SameOutside b counters counters') : SameOutside b counters' counters :=
  fun key start outside => (agree key start outside).symm

/-- A check with a key above the address changes nothing else. -/
theorem SameOutside.allow_above (agree : SameOutside b counters counters') (limiter : Limiter) (now : Time)
    (above : Above b key) :
    SameOutside b (limiter.allow false now key counters).2 counters' := by
  intro other start outside
  refine Eq.trans ?_ (agree other start outside)
  refine luaIncrExpire_other fun same => ?_
  obtain ⟨rfl, _⟩ := counterKey_inj same
  exact outside above

/-- A check with another key has the same result on both sides. -/
theorem SameOutside.allow (agree : SameOutside b counters counters') (limiter : Limiter) (now : Time)
    (outside : ¬ Above b key) :
    (limiter.allow false now key counters).1 = (limiter.allow false now key counters').1 ∧
      SameOutside b (limiter.allow false now key counters).2 (limiter.allow false now key counters').2 := by
  have same : counters (limiter.redisKey now key) = counters' (limiter.redisKey now key) := agree key _ outside
  refine ⟨?_, fun other start apart => ?_⟩
  · simp only [Limiter.allow, if_neg Bool.false_ne_true, luaIncrExpire_value, lookup_congr same]
  · by_cases equal : counterKey other start = limiter.redisKey now key
    · rw [equal]
      exact luaIncrExpire_congr same
    · exact ((luaIncrExpire_other equal).trans (agree other start apart)).trans (luaIncrExpire_other equal).symm

/-- A request from an address above the given one changes nothing else. -/
theorem SameOutside.rateLimit_above (agree : SameOutside b counters counters')
    (above : Above b (extractIP incoming.ctx)) :
    SameOutside b (rateLimit globalLimiter loginLimiter (fun _ => false) incoming counters).2 counters' := by
  have global := agree.allow_above globalLimiter incoming.time above
  have login := global.allow_above loginLimiter incoming.loginTime (above_tag above)
  unfold rateLimit
  dsimp only
  split
  · exact global
  · split
    · split
      · exact login
      · exact login
    · exact global

/-- A request from another address changes the same, and it is answered the same when its tagged address is no key
above the given one either. -/
theorem SameOutside.rateLimit (agree : SameOutside b counters counters') (globalLimiter loginLimiter : Limiter)
    (outside : ¬ Above b (extractIP incoming.ctx)) :
    SameOutside b (rateLimit globalLimiter loginLimiter (fun _ => false) incoming counters).2
        (rateLimit globalLimiter loginLimiter (fun _ => false) incoming counters').2 ∧
      (¬ Above b ("auth:" ++ extractIP incoming.ctx) →
        (rateLimit globalLimiter loginLimiter (fun _ => false) incoming counters).1 =
          (rateLimit globalLimiter loginLimiter (fun _ => false) incoming counters').1) := by
  obtain ⟨same, global⟩ := agree.allow globalLimiter incoming.time outside
  unfold AuthService.rateLimit
  dsimp only
  rw [same]
  split
  · exact ⟨global, fun _ => rfl⟩
  · split
    · by_cases above : Above b ("auth:" ++ extractIP incoming.ctx)
      · have login := (global.allow_above loginLimiter incoming.loginTime above).symm.allow_above loginLimiter
          incoming.loginTime above
        refine ⟨?_, fun apart => absurd above apart⟩
        split <;> split <;> exact login.symm
      · obtain ⟨answered, login⟩ := global.allow loginLimiter incoming.loginTime above
        rw [answered]
        split
        · exact ⟨login, fun _ => rfl⟩
        · exact ⟨login, fun _ => rfl⟩
    · exact ⟨global, fun _ => rfl⟩

/-- An address whose keys are not above the given one does not notice its requests. -/
theorem SameOutside.passed {a : String} (outside : ¬ Above b a) (tagOutside : ¬ Above b ("auth:" ++ a))
    (requests : List Incoming) (agree : SameOutside b counters counters') :
    passed globalLimiter loginLimiter a counters requests =
      passed globalLimiter loginLimiter a counters' (withoutFrom b requests) := by
  induction requests generalizing counters counters' with
  | nil => rfl
  | cons incoming requests ih =>
      by_cases removed : extractIP incoming.ctx = b
      · have other : extractIP incoming.ctx ≠ a := fun same => outside ⟨0, same.symm.trans removed⟩
        have dropped : withoutFrom b (incoming :: requests) = withoutFrom b requests :=
          List.filter_cons_of_neg fun kept => of_decide_eq_true kept removed
        rw [dropped, AuthService.passed, if_neg other]
        exact ih (agree.rateLimit_above ⟨0, removed⟩)
      · have kept : withoutFrom b (incoming :: requests) = incoming :: withoutFrom b requests :=
          List.filter_cons_of_pos (decide_eq_true removed)
        rw [kept, AuthService.passed, AuthService.passed]
        by_cases above : Above b (extractIP incoming.ctx)
        · have other : extractIP incoming.ctx ≠ a := fun same => outside (same ▸ above)
          rw [if_neg other, if_neg other]
          exact ih ((agree.rateLimit_above above).symm.rateLimit_above above).symm
        · obtain ⟨later, answered⟩ := agree.rateLimit globalLimiter loginLimiter above
          split
          · rename_i same
            rw [answered (same ▸ tagOutside), ih later]
          · exact ih later

end Agreement

section Sharing

/-- A context whose client address is the given text. -/
def peerContext (address : String) : Context := ⟨none, some (address ++ ":1")⟩

theorem extractIP_peerContext (address : String) : extractIP (peerContext address) = address := by
  have colon : ':' ∉ ['1'] := by decide
  have text : (address ++ ":1").toList = address.toList ++ ':' :: ['1'] := String.toList_append
  change peerIP (peerContext address) = address
  simp only [peerIP, peerContext, text, Separators.dropWhile_reverse_last _ colon, List.reverse_reverse,
    String.ofList_toList]

/-- A login request from an address at the epoch. -/
def loginFrom (address : String) : Incoming := ⟨peerContext address, "/api.AuthService/Login", 0, 0⟩

/-- One request per minute. -/
def single : Limiter := ⟨1, minute⟩

/-- The key of the counter of a text at the epoch. -/
def epochKey (key : String) : String := single.redisKey 0 key

theorem epochKey_ne {first second : String} (different : first ≠ second) : epochKey first ≠ epochKey second :=
  fun same => different (counterKey_inj same).1

variable {counters : Counters} {address : String}

/-- The number that the counter of a text holds at the epoch. -/
def epochCount (counters : Counters) (key : String) : Int := (lookup counters 0 (epochKey key)).getD 0

/-- A check passes when nothing was counted before. -/
theorem allow_single (key : String) (counters : Counters) :
    (single.allow false 0 key counters).1 = (decide (epochCount counters key + 1 ≤ 1), none) ∧
      epochCount (single.allow false 0 key counters).2 key = epochCount counters key + 1 ∧
      ∀ other, other ≠ key →
        epochCount (single.allow false 0 key counters).2 other = epochCount counters other := by
  have positive : ¬ single.ttlSecs ≤ 0 := by decide
  have soon : (0 : Time) ≤ 0 + single.ttlSecs * second := by decide
  refine ⟨?_, ?_, fun other different => ?_⟩
  · simp only [Limiter.allow, if_neg Bool.false_ne_true, luaIncrExpire_value]
    rfl
  · have counted : lookup (counters.luaIncrExpire single.ttlSecs 0 (epochKey key)).2 0 (epochKey key) =
        some (epochCount counters key + 1) := luaIncrExpire_later positive rfl soon
    exact congrArg (Option.getD · 0) counted
  · exact congrArg (Option.getD · 0) (lookup_congr (luaIncrExpire_other (epochKey_ne different)))

/-- The answer to a login request from an address, and the counters after it. -/
def countLogin (address : String) (counters : Counters) : Except Status Unit × Counters :=
  rateLimit single single (fun _ => false) (loginFrom address) counters

theorem passed_own (address : String) (counters : Counters) (rest : List Incoming) :
    passed single single address counters (loginFrom address :: rest) =
      (countLogin address counters).1.isOk :: passed single single address (countLogin address counters).2 rest :=
  if_pos (extractIP_peerContext address)

theorem passed_other {other : String} (different : other ≠ address) (counters : Counters) (rest : List Incoming) :
    passed single single address counters (loginFrom other :: rest) =
      passed single single address (countLogin other counters).2 rest :=
  if_neg fun same => different ((extractIP_peerContext other).symm.trans same)

/-- A request whose address was counted before is refused. -/
theorem countLogin_counted (found : epochCount counters address = 1) :
    (countLogin address counters).1.isOk = false ∧
      ∀ other, other ≠ address →
        epochCount (countLogin address counters).2 other = epochCount counters other := by
  obtain ⟨answered, _, others⟩ := allow_single address counters
  have refused : refuses (single.allow false 0 address counters).1 = true := by
    rw [answered, found]
    rfl
  simp only [countLogin, rateLimit, loginFrom, extractIP_peerContext, if_pos refused]
  exact ⟨rfl, others⟩

/-- A request whose address was not counted before is refused when its tagged address was. -/
theorem countLogin_uncounted (absent : epochCount counters address = 0) :
    (countLogin address counters).1.isOk =
        decide (epochCount counters ("auth:" ++ address) + 1 ≤ 1) ∧
      epochCount (countLogin address counters).2 address = 1 ∧
      epochCount (countLogin address counters).2 ("auth:" ++ address) =
        epochCount counters ("auth:" ++ address) + 1 ∧
      ∀ other, other ≠ address → other ≠ "auth:" ++ address →
        epochCount (countLogin address counters).2 other = epochCount counters other := by
  have longer : "auth:" ++ address ≠ address := tagged_ne 0 address
  obtain ⟨answered, addressCounted, others⟩ := allow_single address counters
  rw [absent] at addressCounted
  obtain ⟨tagAnswered, tagCounted, tagOthers⟩ :=
    allow_single ("auth:" ++ address) (single.allow false 0 address counters).2
  have passes : ¬ refuses (single.allow false 0 address counters).1 = true := by
    rw [answered, absent]
    decide
  have sensitive : shortMethod "/api.AuthService/Login" ∈ sensitiveMethods := by decide
  rw [others _ longer] at tagAnswered tagCounted
  simp only [countLogin, rateLimit, loginFrom, extractIP_peerContext, if_neg passes, if_pos sensitive, tagAnswered]
  refine ⟨?_, ?_, ?_, fun other different tagDifferent => ?_⟩
  · cases decide (epochCount counters ("auth:" ++ address) + 1 ≤ 1) <;> rfl
  · split <;> exact (tagOthers address longer.symm).trans addressCounted
  · split <;> exact tagCounted
  · split <;> exact (tagOthers other tagDifferent).trans (others other different)

/-- One request from an address and from each of its tagged forms, up to a number of tags. -/
def ladder : Nat → String → List Incoming
  | 0, address => [loginFrom address]
  | count + 1, address => loginFrom address :: ladder count ("auth:" ++ address)

/-- Every second request of a ladder passes, and the first one when its address was not counted. -/
def alternates : Nat → Bool → Bool
  | 0, counted => !counted
  | count + 1, counted => alternates count !counted

theorem alternates_not (count : Nat) (counted : Bool) : alternates count (!counted) = !alternates count counted := by
  induction count generalizing counted with
  | zero => rfl
  | succ count ih => exact ih !counted

theorem passed_ladder (count : Nat) (counted : Bool) (first : epochCount counters address = if counted then 1 else 0)
    (rest : ∀ index, epochCount counters (tagged (index + 1) address) = 0) :
    passed single single (tagged count address) counters (ladder count address) = [alternates count counted] := by
  induction count generalizing counters address counted with
  | zero =>
      rw [ladder, tagged, passed_own, passed]
      cases counted with
      | true => rw [(countLogin_counted first).1, alternates, Bool.not_true]
      | false =>
          have tagFirst : epochCount counters ("auth:" ++ address) = 0 := rest 0
          rw [(countLogin_uncounted first).1, tagFirst]
          rfl
  | succ count ih =>
      have apart (index : Nat) : tagged (index + 1) address ≠ address := tagged_ne index address
      have apart' (index : Nat) : tagged (index + 2) address ≠ "auth:" ++ address :=
        fun same => apart index ((String.append_right_inj _).mp same)
      rw [ladder, passed_other (apart count).symm, ← tagged_tag, alternates]
      cases counted with
      | true =>
          obtain ⟨_, others⟩ := countLogin_counted first
          refine ih false ((others _ (apart 0)).trans (rest 0)) fun index => ?_
          rw [tagged_tag, others _ (apart (index + 1)), rest]
      | false =>
          obtain ⟨_, _, tagCounted, others⟩ := countLogin_uncounted first
          refine ih true ?_ fun index => ?_
          · exact tagCounted.trans (congrArg (· + 1) (rest 0))
          · rw [tagged_tag, others _ (apart (index + 1)) (apart' index), rest]

theorem inOrder_of_epoch {requests : List Incoming}
    (epoch : ∀ incoming ∈ requests, incoming.time = 0 ∧ incoming.loginTime = 0) : InOrder requests := by
  refine List.pairwise_of_forall_mem_list fun time member time' member' => ?_
  have zero {time : Time} (member : time ∈ requests.flatMap fun incoming => [incoming.time, incoming.loginTime]) :
      time = 0 := by
    obtain ⟨incoming, inside, listed⟩ := List.mem_flatMap.mp member
    rcases List.mem_pair.mp listed with rfl | rfl
    · exact (epoch incoming inside).1
    · exact (epoch incoming inside).2
  exact Int.le_of_eq ((zero member).trans (zero member').symm)

theorem mem_ladder {count : Nat} {incoming : Incoming} (member : incoming ∈ ladder count address) :
    ∃ index, incoming = loginFrom (tagged index address) := by
  induction count generalizing address with
  | zero => exact ⟨0, List.mem_singleton.mp member⟩
  | succ count ih =>
      rcases List.mem_cons.mp member with rfl | later
      · exact ⟨0, rfl⟩
      · obtain ⟨index, rfl⟩ := ih later
        exact ⟨index + 1, congrArg loginFrom (tagged_tag index address)⟩

/-- Without the requests from its first address a ladder starts one step higher. -/
theorem withoutFrom_ladder (count : Nat) (address : String) :
    withoutFrom address (ladder (count + 1) address) = ladder count ("auth:" ++ address) := by
  have removed : withoutFrom address (ladder (count + 1) address) =
      withoutFrom address (ladder count ("auth:" ++ address)) :=
    List.filter_cons_of_neg fun kept => of_decide_eq_true kept (extractIP_peerContext address)
  rw [removed]
  refine List.filter_eq_self.mpr fun incoming member => decide_eq_true ?_
  obtain ⟨index, rfl⟩ := mem_ladder member
  rw [loginFrom, extractIP_peerContext, tagged_tag]
  exact tagged_ne index address

/-- A request from the tagged address spends the only request that the address has. -/
theorem passed_after_tag (address : String) :
    passed single single address .empty [loginFrom ("auth:" ++ address), loginFrom address] = [false] := by
  have fresh : epochCount .empty ("auth:" ++ address) = 0 := rfl
  have different : address ≠ "auth:" ++ address := (tagged_ne 0 address).symm
  have longer : address ≠ tagged 2 address := (tagged_ne 1 address).symm
  obtain ⟨_, tagCounted, _, others⟩ := countLogin_uncounted fresh
  rw [passed_other different.symm, passed_own, passed, (countLogin_uncounted (others _ different longer)).1, tagCounted]
  rfl

end Sharing

/-- The requests of an address are passed as if another one sent nothing, for all limits and all requests, exactly
when it is not the other address with the tag of the stricter limit in front, any number of times, and the other one
is not its own tagged form. -/
theorem buckets_independent_iff (a b : String) (different : a ≠ b) :
    (∀ (globalLimiter loginLimiter : Limiter) (requests : List Incoming), InOrder requests →
      passed globalLimiter loginLimiter a .empty requests =
        passed globalLimiter loginLimiter a .empty (withoutFrom b requests)) ↔
      (∀ count, a ≠ tagged (count + 1) b) ∧ b ≠ "auth:" ++ a := by
  constructor
  · intro independent
    refine ⟨?_, ?_⟩
    · rintro count rfl
      have ordered : InOrder (ladder (count + 1) b) := by
        refine inOrder_of_epoch fun incoming member => ?_
        obtain ⟨index, rfl⟩ := mem_ladder member
        exact ⟨rfl, rfl⟩
      have same := independent single single (ladder (count + 1) b) ordered
      rw [withoutFrom_ladder, passed_ladder (count + 1) false rfl fun _ => rfl, ← tagged_tag,
        passed_ladder count false rfl fun _ => rfl, alternates, alternates_not] at same
      exact absurd (List.cons.inj same).1 (by cases alternates count false <;> decide)
    · rintro rfl
      have ordered : InOrder [loginFrom ("auth:" ++ a), loginFrom a] := by
        refine inOrder_of_epoch fun incoming member => ?_
        rcases List.mem_pair.mp member with rfl | rfl <;> exact ⟨rfl, rfl⟩
      have kept : withoutFrom ("auth:" ++ a) [loginFrom ("auth:" ++ a), loginFrom a] = ladder 0 a := by
        simp only [withoutFrom, List.filter, loginFrom, extractIP_peerContext, ne_eq, different, not_true,
          not_false_iff, decide_true, decide_false, ladder]
      have same := independent single single _ ordered
      rw [kept, passed_after_tag a] at same
      have alone : passed single single a .empty (ladder 0 a) = [true] := passed_ladder 0 false rfl fun _ => rfl
      rw [alone] at same
      exact absurd same (by decide)
  · rintro ⟨unreached, other⟩ globalLimiter loginLimiter requests _
    have outside : ¬ Above b a := by
      rintro ⟨count, same⟩
      cases count with
      | zero => exact different same
      | succ count => exact unreached count same
    have tagOutside : ¬ Above b ("auth:" ++ a) := fun above => (above_of_tag above).elim other outside
    exact SameOutside.passed outside tagOutside requests fun _ _ _ => rfl

/-- Two different IP addresses never share a counter. -/
theorem plain_addresses_independent :
    "10.0.0.1" ≠ "10.0.0.2" ∧
      ∀ (globalLimiter loginLimiter : Limiter) (requests : List Incoming), InOrder requests →
        passed globalLimiter loginLimiter "10.0.0.1" .empty requests =
          passed globalLimiter loginLimiter "10.0.0.1" .empty (withoutFrom "10.0.0.2" requests) := by
  refine ⟨by decide, (buckets_independent_iff _ _ (by decide)).mpr ⟨fun count same => ?_, by decide⟩⟩
  have lengths := length_tagged (count + 1) "10.0.0.2"
  rw [← same] at lengths
  change 8 = 5 * (count + 1) + 8 at lengths
  omega

/-- A login request at the epoch that names its address in x-forwarded-for. -/
def forwardedLogin (address : String) : Incoming where
  ctx := ⟨some fun name => if name = "x-forwarded-for" then [address] else [], some "127.0.0.1:50000"⟩
  fullMethod := "/api.AuthService/Login"
  time := 0
  loginTime := 0

/-- A client that forwards the address auth:10.0.0.1 spends the login limit of the client 10.0.0.1. -/
theorem forged_tag_spends_limit :
    "10.0.0.1" ≠ "auth:10.0.0.1" ∧ InOrder [forwardedLogin "auth:10.0.0.1", forwardedLogin "10.0.0.1"] ∧
      passed single single "10.0.0.1" .empty [forwardedLogin "auth:10.0.0.1", forwardedLogin "10.0.0.1"] = [false] ∧
      passed single single "10.0.0.1" .empty
        (withoutFrom "auth:10.0.0.1" [forwardedLogin "auth:10.0.0.1", forwardedLogin "10.0.0.1"]) = [true] := by
  refine ⟨by decide, inOrder_of_epoch fun incoming member => ?_, by decide +kernel, by decide +kernel⟩
  rcases List.mem_pair.mp member with rfl | rfl <;> exact ⟨rfl, rfl⟩

end AuthService
