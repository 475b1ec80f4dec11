/-
# Amendments

An amendment is a change of a request that is written down instead of programmed.
Its parts are made in a fixed order: method, url, header fields set, appended and
removed, body, and last the replacement of the whole request.  The first part that
fails ends it, and what was changed before stays changed.
-/
import HttpClient.Auth.Flow

namespace HttpClient.Script

open Auth

structure Amendment where
  /-- The failure to report instead of changing anything. -/
  fail : Option Error := none
  method : Option String := none
  url : Option String := none
  set : List (String × Bytes) := []
  append : List (String × Bytes) := []
  remove : List String := []
  body : Option Body := none
  /-- The request to put in place of everything, or why there is none. -/
  replace : Option (Except Error Request) := none

namespace Amendment

def setMethod (method : String) (r : Request) : Except Error Request :=
  (Method.parse method).map fun method => { r with method }

def setUrl (url : String) (r : Request) : Except Error Request :=
  ((Url.parse url).mapError Error.ofUrl).map fun url => { r with url }

/-- The request without the fields of a name. A text that is no name is the name of none. -/
def removeHeader (name : String) (r : Request) : Request :=
  match HeaderName.ofString? name with
  | some n => { r with headers := r.headers.erase n }
  | none => r

/-- The single changes, in order. -/
def changes (a : Amendment) : List (Request → Except Error Request) :=
  a.method.toList.map setMethod
  ++ a.url.toList.map setUrl
  ++ a.set.map (fun (name, value) r => r.setHeader name value)
  ++ a.append.map (fun (name, value) r => r.appendHeader name value)
  ++ a.remove.map (fun name r => .ok (removeHeader name r))
  ++ a.body.toList.map (fun body r => .ok { r with body })
  ++ a.replace.toList.map (fun other (_ : Request) => other)

def apply (a : Amendment) (r : Request) : Edited :=
  match a.fail with
  | some e => ⟨r, some e⟩
  | none => Edited.chain r a.changes

end Amendment

/-- A round of a written plan: responses with this status are answered by this amendment. -/
structure PlannedRound where
  status : Nat
  amendment : Amendment

/-- The authentication plan that starts with an amendment and goes through written rounds. -/
def plan (start : Amendment) (rounds : List PlannedRound)
    (buffersRequest buffersResponse : Bool) : Plan where
  start := fun _ r => start.apply r
  rounds := rounds.map fun round _ r response =>
    if response.status.code = round.status then ⟨round.amendment.apply r, true⟩
    else ⟨⟨r, none⟩, false⟩
  buffersRequest := buffersRequest
  buffersResponse := buffersResponse

end HttpClient.Script
