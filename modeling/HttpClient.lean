import HttpClient.Client.Admission
import HttpClient.Proofs.Auth.Checkable
import HttpClient.Proofs.Auth.Counts
import HttpClient.Proofs.Auth.Unchecked
import HttpClient.Proofs.Call.Cookies
import HttpClient.Proofs.Call.History
import HttpClient.Proofs.Call.Logins
import HttpClient.Proofs.Call.Modes
import HttpClient.Proofs.Call.OneShot
import HttpClient.Proofs.Call.Trail
import HttpClient.Proofs.Cookie.Decisions
import HttpClient.Proofs.Message.Guard
import HttpClient.Proofs.Redirect.Authorization
import HttpClient.Proofs.Redirect.ByHand
import HttpClient.Proofs.Redirect.Limit
import HttpClient.Proofs.Routing.Choice
import HttpClient.Proofs.Routing.Connections
import HttpClient.Script.Hook
import HttpClient.Script.Transport
import HttpClient.Proofs.Auth.Rendering
import HttpClient.Proofs.Call.Standing
import HttpClient.Proofs.Call.FirstFailure
import HttpClient.Proofs.Routing.Together
import HttpClient.Proofs.Call.Reordered
import HttpClient.Proofs.Call.Admission
import HttpClient.Proofs.Call.Locations
import HttpClient.Proofs.Call.Fields
import HttpClient.Proofs.Cookie.Lifetimes
import HttpClient.Proofs.Redirect.Unfollowed
import HttpClient.Proofs.Call.Challenged
import HttpClient.Proofs.Routing.Patterns
import HttpClient.Proofs.Routing.Exclusions
import HttpClient.Proofs.Routing.Variables
import HttpClient.Proofs.Redirect.EmptyHost
import HttpClient.Proofs.Call.ServedCookies
import HttpClient.Proofs.Message.Awaiting
import HttpClient.Proofs.Auth.NetRcEntries
import HttpClient.Proofs.Call.Prepared
import HttpClient.Proofs.Auth.ListItems
import HttpClient.Proofs.Descriptions
import HttpClient.Proofs.Message.Responses
