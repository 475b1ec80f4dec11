/-
# Calls alone

A call that has the session to itself is run, and what it changes can be computed.
It goes as it is run in any company that may also do nothing, so what is proved for
every company holds of it; and a run on a given script shows that the statements
about calls speak of something.
-/
import HttpClient.Proofs.Call.Goes
import HttpClient.Script.Transport

namespace HttpClient

open Call

namespace Client

variable {rely : Session → Session → Prop}

/-- The changes of a call that has the session to itself. -/
def changes (c : Client) (mode : Mode) (r : Request) (options : Options) (s : Session) : Changes :=
  (c.call mode r options).run.changes s

theorem goes_send (alone : ∀ s, rely s s) (c : Client) (mode : Mode) (r : Request)
    (options : Options) (s : Session) :
    Goes rely (c.call mode r options) s (c.changes mode r options s)
      (c.send mode r options s).1 (c.send mode r options s).2 :=
  Activity.goes_run alone _ s

end Client

/-! ## A client with a script -/

namespace Sample

open Script

def place (path : String) : Url :=
  ⟨"http", some ⟨"", none, some (.domain "q.test"), none⟩, path, none, none⟩

def reply (status : Status) (fields : List (HeaderName × String)) (body : Body) : Reply :=
  .response
    { status
      headers := ⟨fields.flatMap fun (n, text) =>
        (HeaderValue.ofText text).toOption.toList.map (n, ·)⟩
      body
      url := place "/" }

def moved (location : String) : Reply := reply ⟨302, by decide⟩ [(.location, location)] .empty

def kept (location : String) : Reply := reply ⟨307, by decide⟩ [(.location, location)] .empty

def fine : Reply := reply ⟨200, by decide⟩ [] .empty

def okay : Status := ⟨200, by decide⟩

def found : Status := ⟨302, by decide⟩

def temporary : Status := ⟨307, by decide⟩

/-- A client whose calls are answered from a script. -/
def client (replies : List Reply) (auth : Option Auth) (maxRedirects : Nat) : Client :=
  { router := { default := mock "default" replies, trustEnvironment := false }
    auth
    followRedirects := true
    maxRedirects
    defaultHeaders := .empty
    baseUrl := none
    requestHooks := []
    responseHooks := []
    clock := fun _ => .epoch }

def request (method : Method) (body : Body) : Request := { method, url := place "/a", body }

def failure? (c : Client) (r : Request) : Option Error :=
  match (c.send .blocking r {} {}).1 with
  | .ok _ => none
  | .error e => some e

theorem send_of_failure? {c : Client} {r : Request} {e : Error} (h : failure? c r = some e) :
    (c.send .blocking r {} {}).1 = .error e := by
  unfold failure? at h
  cases ended : (c.send .blocking r {} {}).1 with
  | ok answer =>
      rw [ended] at h
      cases h
  | error e' =>
      rw [ended] at h
      cases h
      rfl

def answer? (c : Client) (r : Request) : Option Answer := (c.send .blocking r {} {}).1.toOption

theorem send_of_answer? {c : Client} {r : Request} {answer : Answer}
    (h : answer? c r = some answer) : (c.send .blocking r {} {}).1 = .ok answer := by
  unfold answer? at h
  cases ended : (c.send .blocking r {} {}).1 with
  | ok answer' =>
      rw [ended] at h
      cases h
      rfl
  | error e =>
      rw [ended] at h
      cases h

end Sample

end HttpClient
