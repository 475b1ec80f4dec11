/-
# Routing

Each exchange finds its transport on its own, so those of one call may go through
different transports.  A mounted transport comes first: the one whose pattern has
the greatest score on the url, of equal scores the one mounted first.  Then comes
the proxy that a trusted environment names, and last the default.

The transport to a proxy is made by the connector and kept under the proxy's key.
Looking it up, having it made and keeping it are three separate steps: another
call may have kept one meanwhile, and then that one is used.
-/
import HttpClient.Routing.Proxy
import HttpClient.Text.Quoted

namespace HttpClient

/-- Makes the transport to a proxy, knowing the proxies that it was given before. -/
abbrev Connector (T : Type) := List Proxy → Proxy → Except Error T

/-- How the transport of an exchange is found. -/
structure Router (T : Type) where
  default : T
  /-- The mounted transports, in the order in which they were mounted. -/
  mounts : List (MountPattern × T) := []
  /-- The environment may send exchanges through a proxy. -/
  trustEnvironment : Bool := true
  environment : Environment := fun _ => none
  connector : Option (Connector T) := none

/-- The transports to proxies. -/
structure Connections (T : Type) where
  /-- The proxies that the connector was given so far. -/
  calls : List Proxy := []
  /-- The transports that were kept, under the keys of their proxies. -/
  kept : List (String × T) := []

namespace Connections

variable {T : Type}

def empty : Connections T := {}

instance : Inhabited (Connections T) := ⟨empty⟩

def find? (c : Connections T) (key : String) : Option T := (c.kept.find? (·.1 = key)).map (·.2)

def make (c : Connections T) (connector : Connector T) (p : Proxy) :
    Except Error T × Connections T :=
  (connector c.calls p, { c with calls := c.calls ++ [p] })

/-- Keeps a transport under a key, unless there is one already; the one under the key is used. -/
def keep (c : Connections T) (key : String) (t : T) : T × Connections T :=
  match c.find? key with
  | some kept => (kept, c)
  | none => (t, { c with kept := c.kept ++ [(key, t)] })

/-- The transport to a proxy. -/
def through (c : Connections T) (connector : Connector T) (p : Proxy) :
    Except Error T × Connections T :=
  match c.find? p.key with
  | some t => (.ok t, c)
  | none =>
    match c.make connector p with
    | (.error e, c) => (.error e, c)
    | (.ok t, c) => (.ok (c.keep p.key t).1, (c.keep p.key t).2)

theorem find?_keep (c : Connections T) (key j : String) (t : T) :
    (c.keep key t).2.find? j = if j = key then some ((c.find? key).getD t) else c.find? j := by
  unfold keep
  split
  · rename_i kept h
    by_cases e : j = key
    · subst e; simp [h]
    · simp [e]
  · rename_i h
    by_cases e : j = key
    · subst e
      have h' : c.kept.find? (·.1 = j) = none := by simpa [find?] using h
      simp [find?, List.find?_append, h']
    · have e' : ¬ key = j := fun x => e x.symm
      simp [find?, List.find?_append, e, e']

end Connections

namespace Router

variable {T : Type}

/-- The greater of two scored mounts, the first one of equals. -/
def better (best : Option (Nat × T)) (next : Nat × T) : Option (Nat × T) :=
  match best with
  | none => some next
  | some b => if b.1 < next.1 then some next else some b

/-- The mounts that admit a url, with their scores. -/
def scored (r : Router T) (u : Url) : List (Nat × T) :=
  r.mounts.filterMap fun (pattern, t) => (pattern.score? u).map fun score => (score, t)

def mounted? (r : Router T) (u : Url) : Option T :=
  ((r.scored u).foldl better none).map (·.2)

def route (r : Router T) (u : Url) (c : Connections T) : Except Error T × Connections T :=
  match r.mounted? u with
  | some t => (.ok t, c)
  | none =>
    if r.trustEnvironment then
      match r.environment.proxy u with
      | .error e => (.error e, c)
      | .ok none => (.ok r.default, c)
      | .ok (some p) =>
        match r.connector with
        | none => (.ok r.default, c)
        | some connector => c.through connector p
    else (.ok r.default, c)

def mount (r : Router T) (pattern : String) (t : T) : Except Error (Router T) :=
  (MountPattern.parse pattern).map fun p => { r with mounts := r.mounts ++ [(p, t)] }

def describe (r : Router T) : String :=
  Text.record "Router"
    [("mounts", Text.quotedList (r.mounts.map (·.1.text))),
      ("trust_env", toString r.trustEnvironment)]

end Router

end HttpClient
