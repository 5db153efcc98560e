/-
This file proves what happens to the users table: users stay, their addresses stay, and only one call
changes a password.
-/

import AuthService.Proof.Ledger

namespace AuthService
open Interleaving System

namespace UserTable
variable {table next : UserTable} {command : UserCommand} {reply : command.Reply} {choice : Choice} {now : Time}

/-- The three ways in which a call leaves the table. -/
theorem exec_cases (executed : exec command choice now table = some (reply, next)) :
    next = table ∨
    (∃ email passwordHash id, command = .create email passwordHash ∧
      next.rows = ⟨id, email, passwordHash, now, now⟩ :: table.rows) ∨
    ∃ userID passwordHash, command = .updatePasswordHash userID passwordHash ∧
      next.rows = table.rows.map (withPassword userID passwordHash now) := by
  cases command with
  | create email passwordHash =>
      simp only [exec, create] at executed
      split at executed
      · cases executed
        exact .inl rfl
      · split at executed
        · cases executed
          exact .inl rfl
        · split at executed
          · cases executed
          · cases executed
            exact .inr (.inl ⟨email, passwordHash, choice.id, rfl, rfl⟩)
  | getByEmail email =>
      cases executed
      exact .inl rfl
  | getByID id =>
      cases executed
      exact .inl rfl
  | updatePasswordHash userID passwordHash =>
      simp only [exec, updatePasswordHash] at executed
      split at executed
      · cases executed
        exact .inl rfl
      · split at executed
        · cases executed
          exact .inr (.inr ⟨userID, passwordHash, rfl, rfl⟩)
        · cases executed
          exact .inl rfl

/-- A user keeps its identifier and its address. -/
theorem exec_keeps (executed : exec command choice now table = some (reply, next)) {user : User}
    (member : user ∈ table.rows) : ∃ later ∈ next.rows, later.id = user.id ∧ later.email = user.email := by
  rcases exec_cases executed with rfl | ⟨_, _, _, _, rows⟩ | ⟨userID, passwordHash, _, rows⟩
  · exact ⟨user, member, rfl, rfl⟩
  · exact ⟨user, rows ▸ List.mem_cons_of_mem _ member, rfl, rfl⟩
  · refine ⟨withPassword userID passwordHash now user, ?_, withPassword_id .., withPassword_email ..⟩
    rw [rows]
    exact List.mem_map.mpr ⟨user, member, rfl⟩

theorem id_injective (table : UserTable) {first second : User} (left : first ∈ table.rows)
    (right : second ∈ table.rows) (same : first.id = second.id) : first = second :=
  List.inj_on_of_nodup_map table.uniqueID left right same

/-- A stored password changes only by `UpdatePasswordHash` for its user. -/
theorem exec_password (executed : exec command choice now table = some (reply, next)) {before after : User}
    (old : before ∈ table.rows) (new : after ∈ next.rows) (same : after.id = before.id)
    (changed : after.passwordHash ≠ before.passwordHash) :
    command = .updatePasswordHash before.id after.passwordHash := by
  rcases exec_cases executed with rfl | ⟨email, passwordHash, id, _, rows⟩ | ⟨userID, passwordHash, call, rows⟩
  · rw [next.id_injective new old same] at changed
    exact absurd rfl changed
  · have kept : before ∈ next.rows := rows ▸ List.mem_cons_of_mem _ old
    rw [next.id_injective new kept same] at changed
    exact absurd rfl changed
  · rw [rows] at new
    obtain ⟨origin, inside, rfl⟩ := List.mem_map.mp new
    rw [withPassword_id] at same
    obtain rfl := table.id_injective inside old same
    unfold withPassword at changed ⊢
    split at changed
    · rename_i mine
      rw [call, if_pos mine, mine]
    · exact absurd rfl changed

theorem getByEmail_ok {email : String} {user : User} (found : table.getByEmail email = .ok user) :
    user ∈ table.rows ∧ user.email = email := by
  unfold getByEmail at found
  split at found
  · rename_i selected
    cases found
    have matched := List.find?_some selected
    exact ⟨List.mem_of_find?_eq_some selected, of_decide_eq_true matched⟩
  · cases found

theorem getByID_ok {id : String} {user : User} (found : table.getByID id = .ok user) :
    user ∈ table.rows ∧ user.id = id := by
  unfold getByID at found
  split at found
  · rename_i selected
    cases found
    have matched := List.find?_some selected
    exact ⟨List.mem_of_find?_eq_some selected, of_decide_eq_true matched⟩
  · cases found

end UserTable

/-- The user that an event read. -/
def readUser : Event Ports → Option User
  | ⟨_, .users (.getByEmail _), .ok user⟩ => some user
  | ⟨_, .users (.getByID _), .ok user⟩ => some user
  | _ => none

theorem readUser_eq_some {event : Event Ports} {user : User} (read : readUser event = some user) :
    event.exchange.command.readsUser = true := by
  obtain ⟨task, command, reply⟩ := event
  cases command with
  | users command =>
      cases command with
      | getByEmail email => rfl
      | getByID id => rfl
      | _ => cases read
  | _ => cases read

section
variable {service : Service} {store : SessionStore} {choice : Choice} {world next : World store}

theorem getByEmail_found {email : String} {user : User}
    (executed : exec service (.users (.getByEmail email)) choice world = some (.ok user, next)) :
    user ∈ world.users.rows ∧ user.email = email := by
  obtain ⟨users, performed, rfl⟩ := exec_users executed
  have replied := congrArg Prod.fst (Option.some.inj performed)
  dsimp only at replied
  split at replied
  · cases replied
  · exact UserTable.getByEmail_ok replied

theorem getByID_found {id : String} {user : User}
    (executed : exec service (.users (.getByID id)) choice world = some (.ok user, next)) :
    user ∈ world.users.rows ∧ user.id = id := by
  obtain ⟨users, performed, rfl⟩ := exec_users executed
  have replied := congrArg Prod.fst (Option.some.inj performed)
  dsimp only at replied
  split at replied
  · cases replied
  · exact UserTable.getByID_ok replied

/-- A user that is read is in the table. -/
theorem readUser_found {command : Command} {reply : command.Reply} {task : Nat} {user : User}
    (executed : exec service command choice world = some (reply, next))
    (read : readUser ⟨task, command, reply⟩ = some user) : user ∈ world.users.rows := by
  unfold readUser at read
  split at read
  · rename_i same
    cases same
    obtain rfl := Option.some.inj read
    exact (getByEmail_found executed).1
  · rename_i same
    cases same
    obtain rfl := Option.some.inj read
    exact (getByID_found executed).1
  · cases read

/-- Every call keeps the identifier and the address of a user. -/
theorem exec_user {command : Command} {reply : command.Reply}
    (executed : exec service command choice world = some (reply, next)) {user : User}
    (member : user ∈ world.users.rows) :
    ∃ later ∈ next.users.rows, later.id = user.id ∧ later.email = user.email := by
  by_cases call : ∃ call, command = .users call
  · obtain ⟨call, rfl⟩ := call
    obtain ⟨users, performed, rfl⟩ := exec_users executed
    exact UserTable.exec_keeps performed member
  · have kept := (exec_changes executed).keeps_users fun other same => call ⟨other, same⟩
    exact ⟨user, kept ▸ member, rfl, rfl⟩

end

section
variable {service : Service} {store : SessionStore} {base : World store} {requests : List Request}
variable {allowed : ServiceConfig store → ServiceLabel → Prop} {config : ServiceConfig store}

/-- A user that a task has read is still in the table, with the same identifier and address. -/
theorem reaches_user
    (reached : (system service store).Reaches allowed ((system service store).begin base requests) config) :
    ∀ event ∈ config.history, ∀ user, readUser event = some user →
      ∃ later ∈ config.world.users.rows, later.id = user.id ∧ later.email = user.email := by
  apply reached.invariant
  · rintro event ⟨⟩
  · intro config label next reached known _ moved
    obtain ⟨_, _, rfl⟩ | ⟨task, choice, request, command, rest, reply, world, _, selected, executed, rfl⟩ |
      ⟨tick, world, _, drifted, rfl⟩ := service_cases moved
    · exact known
    · intro event member user read
      rcases List.mem_cons.mp member with rfl | before
      · exact exec_user executed (readUser_found executed read)
      · obtain ⟨later, inside, identity, address⟩ := known event before user read
        obtain ⟨last, inside', identity', address'⟩ := exec_user executed inside
        exact ⟨last, inside', identity'.trans identity, address'.trans address⟩
    · obtain ⟨cache, now, rfl⟩ := drift_frame drifted
      exact known

/-- A user that was read by an address has that address. -/
theorem reaches_address
    (reached : (system service store).Reaches allowed ((system service store).begin base requests) config)
    {task : Nat} {email : String} {user : User}
    (member : (⟨task, .users (.getByEmail email), .ok user⟩ : Event Ports) ∈ config.history) :
    user.email = email := by
  have explained : Explained (fun (event : Event Ports) _ => ∀ (email : String) (user : User),
      event.exchange = ⟨.users (.getByEmail email), .ok user⟩ → user.email = email) config.history := by
    apply reaches_explained reached
    intro config task request command rest choice reply world _ _ executed email user same
    cases same
    exact (getByEmail_found executed).2
  obtain ⟨_, _, _, satisfied⟩ := explained.mem member
  exact satisfied email user rfl

end
end AuthService
