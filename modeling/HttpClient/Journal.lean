/-
# The journal of a client

Whatever a client does with the outside world is written down in the order in
which it happens.  The outside parties, that is transports, hooks, clocks and
authentication plans, may look at the journal: that makes them functions, though
what they do may depend on everything that has happened.
-/
import HttpClient.Message.Response

namespace HttpClient

/-- Something that a client did with the outside world. -/
inductive Event where
  /-- A request hook was shown a request, which it may have changed afterwards. -/
  | requestHook (index : Nat) (head : RequestHead)
  /-- A transport was given a request and answered it. -/
  | exchange (transport : String) (head : RequestHead) (body : Body)
    (result : Except Error Response)
  /-- A transport was given a request but could not read its body. -/
  | unreadable (transport : String) (head : RequestHead) (failure : Error)
  /-- A response hook was shown a response, which it may have changed afterwards. -/
  | responseHook (index : Nat) (response : Response)
  /-- An authentication plan was shown a response, so many of its rounds being taken. -/
  | planned (taken : Nat) (response : Response)

/-- What a client did with the outside world, oldest first. -/
abbrev Journal := List Event

namespace Journal

/-- How many requests a transport has answered. -/
def served (j : Journal) (transport : String) : Nat :=
  j.countP fun
    | .exchange name _ _ _ => name = transport
    | _ => false

/-- How many requests a request hook has been shown. -/
def shown (j : Journal) (hook : Nat) : Nat :=
  j.countP fun
    | .requestHook index _ => index = hook
    | _ => false

end Journal

end HttpClient
