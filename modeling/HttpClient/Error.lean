/-
# Failures

Every failure of a call is one of these.  The first six come from a transport and
are passed through untouched; the others are raised while a call is prepared,
routed, authenticated or redirected.  Callers branch on the category, people read
the message.
-/
import HttpClient.Text.Quoted
import HttpClient.Url.Basic

namespace HttpClient

/-- The wait that took too long. -/
inductive Wait where
  /-- The wait for a connection. -/
  | connect
  /-- The wait for response data. -/
  | read
  /-- The wait for request data to be taken. -/
  | write
  /-- The wait for a permit to start. -/
  | pool
deriving DecidableEq, Repr

def Wait.word : Wait → String
  | .connect => "connect"
  | .read => "read"
  | .write => "write"
  | .pool => "pool"

/-- What made a call fail. -/
inductive Error where
  | connect (detail : String)
  | read (detail : String)
  | write (detail : String)
  | close (detail : String)
  | proxy (detail : String)
  | timeout (wait : Wait) (detail : String)
  | protocol (detail : String)
  | remoteProtocol (detail : String)
  /-- The response of `url` was one redirect too many; so many responses came before it. -/
  | tooManyRedirects (url : Url) (history : Nat)
  | unsupportedProtocol (detail : String)
  /-- A one-shot body was to be sent a second time. -/
  | streamConsumed
  /-- A body that is produced asynchronously was to be read by blocking. -/
  | streamMode
  | unimplemented (detail : String)
  | invalidMountPattern (detail : String)
  | invalidUrl (detail : String)
  | badHeader (detail : String)
  | netRc (detail : String)
  | hook (detail : String)
deriving DecidableEq, Repr

namespace Error

/-- The coarse cause of a failure. -/
inductive Category where
  /-- The network failed, as reported by a transport. -/
  | transport
  /-- A wait took too long. -/
  | timeout
  /-- The peer sent malformed or unsupported data. -/
  | protocol
  /-- A redirect could not be followed. -/
  | redirect
  /-- A one-shot body was misused. -/
  | stream
  /-- The client was given bad configuration or input. -/
  | config
deriving DecidableEq, Repr

def category : Error → Category
  | .connect _ | .read _ | .write _ | .close _ | .proxy _ => .transport
  | .timeout _ _ => .timeout
  | .protocol _ | .remoteProtocol _ | .unimplemented _ => .protocol
  | .tooManyRedirects _ _ | .unsupportedProtocol _ => .redirect
  | .streamConsumed | .streamMode => .stream
  | .invalidMountPattern _ | .invalidUrl _ | .badHeader _ | .netRc _ | .hook _ => .config

/-- The failure is a wait that took too long. -/
def isTimeout : Error → Bool
  | .timeout _ _ => true
  | _ => false

/-- The failure was reported by a transport, or is a wait that took too long. -/
def isTransport (e : Error) : Bool := e.category = .transport || e.category = .timeout

def message : Error → String
  | .connect d => "connect failed: " ++ d
  | .read d => "read failed: " ++ d
  | .write d => "write failed: " ++ d
  | .close d => "close failed: " ++ d
  | .proxy d => "proxy failed: " ++ d
  | .timeout w d => w.word ++ " timeout: " ++ d
  | .protocol d => "protocol error: " ++ d
  | .remoteProtocol d => "remote protocol error: " ++ d
  | .tooManyRedirects url n => s!"too many redirects ({n}) at " ++ url.text
  | .unsupportedProtocol d => "unsupported protocol: " ++ d
  | .streamConsumed => "body stream has already been consumed"
  | .streamMode => "body stream read in the wrong mode (blocking vs async)"
  | .unimplemented d => "not implemented: " ++ d
  | .invalidMountPattern d => "mount pattern must be scheme://host[:port]: " ++ d
  | .invalidUrl d => "invalid url: " ++ d
  | .badHeader d => "bad header: " ++ d
  | .netRc d => "netrc: " ++ d
  | .hook d => "event hook failed: " ++ d

def waitName : Wait → String
  | .connect => "Connect"
  | .read => "Read"
  | .write => "Write"
  | .pool => "Pool"

def describe : Error → String
  | .connect d => Text.item "Connect" [Text.quoted d]
  | .read d => Text.item "Read" [Text.quoted d]
  | .write d => Text.item "Write" [Text.quoted d]
  | .close d => Text.item "Close" [Text.quoted d]
  | .proxy d => Text.item "Proxy" [Text.quoted d]
  | .timeout w d => Text.item "Timeout" [waitName w, Text.quoted d]
  | .protocol d => Text.item "Protocol" [Text.quoted d]
  | .remoteProtocol d => Text.item "RemoteProtocol" [Text.quoted d]
  | .tooManyRedirects url n =>
    Text.record "TooManyRedirects" [("url", Text.quoted url.text), ("history", toString n)]
  | .unsupportedProtocol d => Text.item "UnsupportedProtocol" [Text.quoted d]
  | .streamConsumed => "StreamConsumed"
  | .streamMode => "StreamMode"
  | .unimplemented d => Text.item "Unimplemented" [Text.quoted d]
  | .invalidMountPattern d => Text.item "InvalidMountPattern" [Text.quoted d]
  | .invalidUrl d => Text.item "InvalidUrl" [Text.quoted d]
  | .badHeader d => Text.item "BadHeader" [Text.quoted d]
  | .netRc d => Text.item "NetRc" [Text.quoted d]
  | .hook d => Text.item "Hook" [Text.quoted d]

def ofUrl (e : Url.ParseError) : Error := .invalidUrl e.message

end Error

end HttpClient
