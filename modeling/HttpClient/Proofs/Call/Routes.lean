/-
# Which transports a call can reach

A router finds a transport among those that it has mounted, its default, and those
that its connector has made and the session has kept.  If all of these have some
property, and whoever else uses the session keeps only such transports in it, then
every exchange of a call goes through a transport that has it.
-/
import HttpClient.Proofs.Call.Steps
import HttpClient.Proofs.Routing.Choice

namespace HttpClient

open Auth Redirect Call

variable {T : Type} {P : T → Prop}

def Connections.Only (P : T → Prop) (kept : Connections T) : Prop := ∀ k ∈ kept.kept, P k.2

/-- All transports that the router has, or can have made, have a property. -/
structure Router.Only (P : T → Prop) (r : Router T) : Prop where
  default : P r.default
  mounts : ∀ m ∈ r.mounts, P m.2
  connector : ∀ connector, r.connector = some connector →
    ∀ made p t, connector made p = .ok t → P t

theorem Connections.only_empty : Connections.Only P {} :=
  fun _ there => absurd there List.not_mem_nil

theorem Router.only_default {r : Router T} (default : P r.default) (mounts : r.mounts = [])
    (connector : r.connector = none) : r.Only P where
  default := default
  mounts m there := by
    rw [mounts] at there
    exact absurd there List.not_mem_nil
  connector _ h := by
    rw [connector] at h
    cases h

theorem Router.mounted?_only {r : Router T} {u : Url} {t : T} (only : r.Only P)
    (h : r.mounted? u = some t) : P t := by
  obtain ⟨m, found, rfl⟩ := Option.map_eq_some_iff.mp h
  rcases mem_of_foldl_better found with there | hnone
  · obtain ⟨mount, mounted, -, same⟩ := mem_scored there
    rw [← same]
    exact only.mounts mount mounted
  · cases hnone

theorem Connections.find?_only {kept : Connections T} {key : String} {t : T} (only : kept.Only P)
    (h : kept.find? key = some t) : P t := by
  obtain ⟨k, found, rfl⟩ := Option.map_eq_some_iff.mp h
  exact only k (List.mem_of_find?_eq_some found)

theorem Connections.through_only {kept : Connections T} {connector : Connector T} {p : Proxy}
    (makes : ∀ made p t, connector made p = .ok t → P t) (only : kept.Only P) :
    (∀ t, (kept.through connector p).1 = .ok t → P t) ∧ (kept.through connector p).2.Only P := by
  unfold through
  split
  · rename_i t found
    refine ⟨?_, only⟩
    intro t' same
    cases same
    exact find?_only only found
  · unfold make
    cases made : connector kept.calls p with
    | error e => exact ⟨fun _ same => (by cases same), only⟩
    | ok t =>
        have new := makes _ _ _ made
        simp only [keep]
        split
        · rename_i other found
          refine ⟨?_, only⟩
          intro t' same
          cases same
          exact find?_only only found
        · constructor
          · intro t' same
            cases same
            exact new
          · intro k there
            rcases List.mem_append.mp there with old | added
            · exact only k old
            · cases List.mem_singleton.mp added
              exact new

/-- The way to a transport leads to one of these, and keeps no others. -/
theorem Router.route_only {r : Router T} {u : Url} {kept : Connections T} (only : r.Only P)
    (others : kept.Only P) :
    (∀ t, (r.route u kept).1 = .ok t → P t) ∧ (r.route u kept).2.Only P := by
  have byDefault : (∀ t, (Except.ok r.default : Except Error T) = .ok t → P t) ∧ kept.Only P :=
    ⟨fun t same => by cases same; exact only.default, others⟩
  unfold route
  split
  · rename_i t mounted
    exact ⟨fun t' same => by cases same; exact mounted?_only only mounted, others⟩
  · split
    · split
      · exact ⟨fun _ same => (by cases same), others⟩
      · exact byDefault
      · split
        · exact byDefault
        · rename_i connector connects
          exact Connections.through_only (only.connector connector connects) others
    · exact byDefault

namespace Client

variable {c : Client} {mode : Mode} {own : Changes} {P : Transport → Prop}

theorem beforeSend_only (only : c.router.Only P) {r : Request} {s : Session}
    (kept : s.connections.Only P) : (c.beforeSend r s).2.connections.Only P := by
  have routed := (Router.route_only (u := r.url) only kept).2
  simp only [beforeSend]
  split
  · exact kept
  · split
    · rename_i found
      rw [found] at routed
      exact routed
    · rename_i found
      rw [found] at routed
      split
      · exact routed
      · exact routed

theorem handOver_connections (c : Client) (mode : Mode) (transport : Transport) (r : Request)
    (u : Session) : (c.handOver mode transport r u).2.connections = u.connections := by
  unfold handOver
  cases answered : (transport.handle mode u.journal r).result with
  | error e => simp only [answered]
  | ok response => simp only [answered, afterReceive]

theorem steps_only (only : c.router.Only P) :
    c.Steps mode fun t t' => t.connections.Only P → t'.connections.Only P where
  ready r s kept := beforeSend_only only kept
  handed transport r s kept := by
    rw [handOver_connections]
    exact kept
  started flow r s kept := kept
  resumed flow r response s kept := kept
  stayed s kept := kept

/-- Before each change of a call the session holds only such transports as the router has, if it
did so at first and the others keep it so. -/
theorem only_reached {rely : Session → Session → Prop} {s s' : Session} {r : Request}
    {options : Options} {result : Except Error Answer} (only : c.router.Only P)
    (others : ∀ s t, rely s t → s.connections.Only P → t.connections.Only P)
    (start : s.connections.Only P) (h : Goes rely (c.call mode r options) s own result s') :
    ∀ change ∈ own, change.1.connections.Only P := by
  have kept := Activity.Goes.keeps (P := fun s : Session => s.connections.Only P) others h
  exact (kept ((steps_only only).call h) start).1

end Client

end HttpClient
