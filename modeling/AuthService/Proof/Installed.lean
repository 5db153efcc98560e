/-
This file proves which call every session row stems from.
-/

import AuthService.Proof.Ledger

namespace AuthService
open Interleaving System

/-- The session that an event was given and the one that it created. -/
def installationBy : Event Ports → Option (Session × Session)
  | ⟨_, .sessions command, reply⟩ => command.installation reply
  | _ => none

theorem installedBy_eq (event : Event Ports) :
    installedBy event = (installationBy event).map fun pair => pair.1.tokenHash := by
  obtain ⟨task, command, reply⟩ := event
  cases command with
  | sessions command => exact command.installed_eq reply
  | _ => rfl

/-- The row stems from a call of the history that created it. -/
def Stems (stored : Time → Time) (history : List (Event Ports)) (row : Row) : Prop :=
  ∃ event ∈ history, ∃ session created, installationBy event = some (session, created) ∧
    created.FillsIn session ∧ row = created.keptRow stored

theorem Stems.cons {stored : Time → Time} {history : List (Event Ports)} {row : Row}
    (stems : Stems stored history row) (event : Event Ports) : Stems stored (event :: history) row := by
  obtain ⟨earlier, member, found⟩ := stems
  exact ⟨earlier, List.mem_cons_of_mem _ member, found⟩

section
variable {service : Service} {store : SessionStore} [lawful : store.Lawful]
variable {base : World store} {requests : List Request}
variable {allowed : ServiceConfig store → ServiceLabel → Prop} {config : ServiceConfig store}

/-- Every row was there at the beginning or stems from a call that created it. -/
theorem reaches_rows (sound : base.Sound)
    (reached : (system service store).Reaches allowed ((system service store).begin base requests) config) :
    ∀ row ∈ rowsOf config, row ∈ store.rowSet base.sessions ∨ Stems lawful.stored config.history row := by
  apply reached.invariant
  · exact fun row member => .inl member
  · intro config label next reached origin _ moved
    obtain ⟨_, _, rfl⟩ | ⟨task, choice, request, command, rest, reply, world, _, selected, executed, rfl⟩ |
      ⟨tick, world, _, drifted, rfl⟩ := service_cases moved
    · exact origin
    · by_cases call : ∃ call, command = .sessions call
      · obtain ⟨call, rfl⟩ := call
        obtain ⟨sessions, performed, rfl⟩ := exec_sessions executed
        have effect := ((reaches_ledger sound reached).effect sound (reaches_disciplined reached) selected
          performed).2
        intro row member
        rcases effect.origin member with before | ⟨session, created, installed, filled, same⟩
        · exact (origin row before).imp_right fun stems => stems.cons _
        · exact .inr ⟨_, List.mem_cons_self, session, created, installed, filled, same⟩
      · have kept := (exec_changes executed).keeps_sessions fun other same => call ⟨other, same⟩
        have rows : store.rowSet world.sessions = rowsOf config := congrArg store.rowSet kept
        intro row member
        rw [rowsOf, rows] at member
        exact (origin row member).imp_right fun stems => stems.cons _
    · obtain ⟨cache, now, rfl⟩ := drift_frame drifted
      exact origin

/-- Every session that was created fills in the one that the call was given. -/
theorem reaches_filled (sound : base.Sound)
    (reached : (system service store).Reaches allowed ((system service store).begin base requests) config)
    {event : Event Ports} {session created : Session} (member : event ∈ config.history)
    (installed : installationBy event = some (session, created)) : created.FillsIn session := by
  have explained : Explained (fun (event : Event Ports) _ => ∀ session created,
      installationBy event = some (session, created) → created.FillsIn session) config.history := by
    apply reaches_explained reached
    intro config task request command rest choice reply world reached selected executed session created
    cases command with
    | sessions command =>
        obtain ⟨sessions, performed, _⟩ := exec_sessions executed
        exact ((reaches_ledger sound reached).effect sound (reaches_disciplined reached) selected
          performed).2.filled
    | _ => nofun
  obtain ⟨_, _, _, satisfied⟩ := explained.mem member
  exact satisfied session created installed

/-- A row stems from the call that installed its token hash. -/
theorem row_of_installation (sound : base.Sound)
    (reached : (system service store).Reaches allowed ((system service store).begin base requests) config)
    {event : Event Ports} {session created : Session} (member : event ∈ config.history)
    (installed : installationBy event = some (session, created)) {row : Row}
    (present : row ∈ rowsOf config) (same : row.tokenHash = session.tokenHash) :
    created.FillsIn session ∧ row = created.keptRow lawful.stored := by
  have ledger := reaches_ledger sound reached
  have observed : installedBy event = some session.tokenHash := by
    rw [installedBy_eq, installed, Option.map_some]
  rcases reaches_rows sound reached row present with old | ⟨event', member', session', created', installed',
    filled, rfl⟩
  · obtain ⟨plain, drawn, hashed⟩ := drawn_of_installed (reaches_disciplined reached) member observed
    have issued : session.tokenHash ∈ base.issued := sound.issued _ ⟨row, old, same⟩
    exact absurd issued (ledger.apart _ (List.mem_filterMap.mpr ⟨_, drawn, congrArg some hashed⟩))
  · have equal : installedBy event = installedBy event' := by
      rw [observed, installedBy_eq, installed', Option.map_some, ← same, Session.keptRow_tokenHash,
        filled.tokenHash]
    obtain rfl := eq_of_observed_once installedBy config.history ledger.installs member member' equal
      (by rw [observed]; rfl)
    rw [installed, Option.some.injEq, Prod.mk.injEq] at installed'
    obtain ⟨rfl, rfl⟩ := installed'
    exact ⟨filled, rfl⟩

end
end AuthService
