import FleetOps.Credentials
import FleetOps.Curve.Edwards
import FleetOps.Curve.Field
import FleetOps.Curve.Weierstrass
import FleetOps.Digest.Sha512
import FleetOps.Encoding.Base64
import FleetOps.Encoding.Der
import FleetOps.Encoding.Gzip
import FleetOps.Encoding.Inflate
import FleetOps.Failure
import FleetOps.Failure.Handshake
import FleetOps.Fleet.Access
import FleetOps.Fleet.Relay
import FleetOps.Fleet.Report
import FleetOps.Http.Address
import FleetOps.Http.Coding
import FleetOps.Http.Cookie
import FleetOps.Http.MediaType
import FleetOps.Http.Message
import FleetOps.Http.Uri
import FleetOps.Json.Decimal
import FleetOps.Json.Printer
import FleetOps.Json.Reader
import FleetOps.Json.Token
import FleetOps.Json.Tree
import FleetOps.Json.Value
import FleetOps.Key.Armor
import FleetOps.Key.Asn1
import FleetOps.Key.OpenSsh
import FleetOps.Key.PrivateKey
import FleetOps.Octets
import FleetOps.Program
import FleetOps.Service.Action
import FleetOps.Service.Caller
import FleetOps.Service.CheckIn
import FleetOps.Service.Command
import FleetOps.Service.Measure
import FleetOps.Service.Nodes
import FleetOps.Service.Page
import FleetOps.Service.Route
import FleetOps.Service.Router
import FleetOps.Settings
import FleetOps.Ssh.Connection
import FleetOps.Ssh.Output
import FleetOps.Ssh.Script
import FleetOps.Store.Backend
import FleetOps.Store.Cache
import FleetOps.Store.Front
import FleetOps.Store.Memory
import FleetOps.Store.Seed
import FleetOps.Supervision.History
import FleetOps.Supervision.Plan
import FleetOps.Supervision.Run
import FleetOps.Supervision.Tasks
import FleetOps.Table
import FleetOps.Text.Blank
import FleetOps.Text.Case
import FleetOps.Text.CaseRange
import FleetOps.Text.Escaped
import FleetOps.Text.Form
import FleetOps.Text.Markup
import FleetOps.Text.Numeral
import FleetOps.Text.Order
import FleetOps.Text.Percent
import FleetOps.Text.Quoted
import FleetOps.Text.Utf8
import FleetOps.Proofs.Supervision.TaskSteps
import FleetOps.Proofs.Supervision.RunSteps
import FleetOps.Proofs.Supervision.Courses
import FleetOps.Proofs.Supervision.Termination
import FleetOps.Proofs.Supervision.TaskPaths
import FleetOps.Proofs.Supervision.Links
import FleetOps.Proofs.Supervision.Scripts
import FleetOps.Proofs.Program
import FleetOps.Ssh.Calls
import FleetOps.Proofs.Ssh.Connection
import FleetOps.Proofs.Ssh.Calls
import FleetOps.Proofs.Failure.Handshake
import FleetOps.Proofs.Ssh.Refusal
import FleetOps.Proofs.Table
import FleetOps.Store.Request
import FleetOps.Proofs.Store.Cache
import FleetOps.Proofs.Store.Keys
import FleetOps.Proofs.Store.Memory
import FleetOps.Proofs.Store.Relays
import FleetOps.Proofs.Store.Refinement
import FleetOps.Proofs.Service.Action
import FleetOps.Proofs.Service.Twins
import FleetOps.Store.Traffic
import FleetOps.Proofs.Store.Traffic
import FleetOps.Proofs.Store.Revocation
import FleetOps.Proofs.Store.RelayReads
import FleetOps.Proofs.Store.Registration
import FleetOps.Proofs.Store.Standing
import FleetOps.Proofs.Store.Alike
import FleetOps.Proofs.Service.CommandChecks
import FleetOps.Proofs.Store.Named
import FleetOps.Proofs.Service.Reachable
import FleetOps.Proofs.Credentials
import FleetOps.Proofs.Supervision.Dials
import FleetOps.Proofs.Service.Logins
import FleetOps.Proofs.Store.Works
import FleetOps.Proofs.Store.SameAccess
import FleetOps.Proofs.Service.Admission
import FleetOps.Proofs.Service.Contents
import FleetOps.Proofs.Service.NonInterference
import FleetOps.Proofs.Service.CheckedIn
import FleetOps.Proofs.Service.PageForm
import FleetOps.Proofs.Service.PageSlots
import FleetOps.Proofs.Service.Registrations
import FleetOps.Proofs.Json.Tokens
import FleetOps.Proofs.Json.Trees
import FleetOps.Proofs.Json.Values
import FleetOps.Proofs.Fleet.Report
import FleetOps.Proofs.Fleet.RoundTrip
import FleetOps.Proofs.Service.Listings
import FleetOps.Proofs.Text.Order
import FleetOps.Proofs.Store.Pages
import FleetOps.Proofs.Store.Outages
import FleetOps.Proofs.Ssh.Closing
import FleetOps.Proofs.Ssh.Output
import FleetOps.Proofs.Service.Provenance
import FleetOps.Proofs.Fleet.Projection
import FleetOps.Proofs.Text.Form
import FleetOps.Proofs.Service.CustomIds
import FleetOps.Proofs.Text.Numeral
import FleetOps.Proofs.Settings
import FleetOps.Proofs.Service.TimeLimits
import FleetOps.Proofs.Http.Message
import FleetOps.Proofs.Service.PresentedKeys
import FleetOps.Proofs.Service.Probes
import FleetOps.Proofs.Ssh.LoginOrder
