/-
# Written hooks

A written request hook may number the requests that it is shown and amend all of
them or a single one.  A written response hook may be meant for one status only;
it sets header fields, reads the body, and fails, as far as it is told to.
-/
import HttpClient.Client.Basic
import HttpClient.Script.Amendment

namespace HttpClient.Script

/-- What a request hook does. -/
structure RequestNote where
  /-- The name of the field that gets the number of the request. -/
  count : Option String := none
  /-- The number of the only request to amend. -/
  only : Option Nat := none
  amendment : Amendment := {}

namespace RequestNote

/-- The request with its number, if it is to have one. -/
def number (note : RequestNote) (n : Nat) (r : Request) : Except Error Request :=
  match note.count with
  | some name => r.setHeader name (Text.utf8 (toString n))
  | none => .ok r

/-- The hook with an index. -/
def hook (note : RequestNote) (index : Nat) : RequestHook := fun j r => do
  let n := j.shown index
  let r ← note.number n r
  if note.only.all (· == n) then (note.amendment.apply r).toExcept else return r

end RequestNote

/-- What a response hook does. -/
structure ResponseNote where
  /-- The status of the only responses that it is meant for. -/
  status : Option Nat := none
  set : List (String × Bytes) := []
  read : Bool := false
  fail : Option Error := none

namespace ResponseNote

/-- The response with one value in place of all those of a name. -/
def setHeader (r : Response) (field : String × Bytes) : Except Error Response :=
  (Request.field field.1 field.2).map fun (n, v) => { r with headers := r.headers.set n v }

/-- The response with its body in memory. A hook does not await. -/
def readBody (r : Response) : Except Error Response :=
  match r.read .blocking with
  | (.ok _, r) => .ok r
  | (.error e, _) => .error e

def hook (note : ResponseNote) : ResponseHook := fun _ r =>
  if note.status.all (· == r.status.code) then do
    let r ← note.set.foldlM setHeader r
    let r ← if note.read then readBody r else .ok r
    match note.fail with
    | some e => .error e
    | none => .ok r
  else .ok r

end ResponseNote

end HttpClient.Script
