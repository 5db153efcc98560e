/-
This file executes `RefreshToken` call by call, whatever executes its calls.
-/

import AuthService.Proof.Conduct

namespace AuthService
open Interleaving Program

variable {W : Type} {exec : (command : Command) → W → Option (command.Reply × W)}
variable {tokenHash : String} {cached : CachedSession} {start middle last : W}

/-- A copy in the cache is used. -/
theorem eval_lookup_hit (hit : exec (.cache (.get tokenHash)) start = some (.ok cached, last)) :
    (lookupSession tokenHash).run.eval exec start = some (.ok cached, last) := by
  unfold lookupSession
  rw [eval_ok (eval_perform hit)]
  rfl

/-- Without a copy in the cache the store is read. -/
theorem eval_lookup_miss {error : StoreError} {reply : Except StoreError Session}
    (missed : exec (.cache (.get tokenHash)) start = some (.error error, middle))
    (read : exec (.sessions (.getByTokenHash tokenHash)) middle = some (reply, last)) :
    (lookupSession tokenHash).run.eval exec start =
      (orStatus .sessionNotFound invalidRefreshToken reply >>= fun session => pure session.cached :
        Handler CachedSession).run.eval exec last := by
  unfold lookupSession
  rw [eval_ok (eval_perform missed)]
  exact eval_ok (eval_perform read)

/-- A copy that has expired has its row deleted. -/
theorem eval_checkExpiry_expired {checked : Time} (clocked : exec .clock start = some (checked, middle))
    (expired : cached.expiresAt < checked) {reply : Except StoreError Unit}
    (deleted : exec (.sessions (.deleteByTokenHash tokenHash)) middle = some (reply, last)) :
    (checkExpiry tokenHash cached).run.eval exec start =
      (deleteSessionFromCache tokenHash >>= fun _ => throw expiredRefreshToken : Handler Unit).run.eval exec last := by
  unfold checkExpiry
  rw [eval_ok (eval_perform clocked), if_pos expired, eval_ok (eval_perform deleted)]

theorem eval_checkExpiry_alive {checked : Time} (clocked : exec .clock start = some (checked, last))
    (alive : ¬ cached.expiresAt < checked) :
    (checkExpiry tokenHash cached).run.eval exec start = some (.ok (), last) := by
  unfold checkExpiry
  rw [eval_ok (eval_perform clocked), if_neg alive]
  rfl

section
variable {service : Service} {req : RefreshTokenRequest} {looked : W} (ctx : Context)
  (finds : (lookupSession (service.hash req.refreshToken)).run.eval exec start = some (.ok cached, looked))
include finds

/-- A refresh whose copy has expired is refused. -/
theorem eval_refresh_expired {status : Status}
    (checks : (checkExpiry (service.hash req.refreshToken) cached).run.eval exec looked = some (.error status, last)) :
    (refreshToken service ctx req).run.eval exec start = some (.error status, last) := by
  unfold refreshToken
  rw [eval_ok finds, eval_error checks]

/-- A refresh whose copy is in time comes to the rotation and ends with its reply. -/
theorem eval_refresh_alive {read signed drawn ready : W} {access plain : String} {built : Time}
    {reply : Except StoreError Session}
    (checks : (checkExpiry (service.hash req.refreshToken) cached).run.eval exec looked = some (.ok (), read))
    (signs : exec (.tokens (.generate ⟨cached.userID, cached.userEmail, ["user"]⟩)) read = some (some access, signed))
    (draws : exec (.random .token) signed = some (some plain, drawn))
    (clocked : exec .clock drawn = some (built, ready))
    (rotates : exec (.sessions (.rotateToken (service.hash req.refreshToken)
      (refreshSession service ctx req cached plain built))) ready = some (reply, last)) :
    (refreshToken service ctx req).run.eval exec start = (do
      let created ← orStatus .sessionNotFound invalidRefreshToken reply
      deleteSessionFromCache (service.hash req.refreshToken)
      cacheSession (service.hash plain) ⟨created.id, cached.userID, cached.userEmail,
        (refreshSession service ctx req cached plain built).deviceID, created.expiresAt⟩
      report (some cached.userID) cached.userID cached.userEmail .tokenRefresh (extractClientInfo ctx)
        [("session_id", created.id)] [("session_id", created.id)]
      return .refreshToken access plain : Handler Response).run.eval exec last := by
  have given {A : Type} (value : A) (state : W) : (orInternal (some value)).run.eval exec state =
      some (.ok value, state) := rfl
  unfold refreshToken
  rw [eval_ok finds, eval_ok checks, eval_ok (eval_perform signs), eval_ok (given _ _),
    eval_ok (eval_perform draws), eval_ok (given _ _), eval_ok (eval_perform clocked), eval_ok (eval_perform rotates)]
  rfl

end
end AuthService
