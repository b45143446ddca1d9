import ImageOwnership.Text.Base64
import ImageOwnership.Text.Blank
import ImageOwnership.Text.CodePoint
import ImageOwnership.Text.DecimalDigit
import ImageOwnership.Text.Printable
import ImageOwnership.Text.Quoted
import ImageOwnership.Text.Utf16
import ImageOwnership.Text.Utf32
import ImageOwnership.Text.Utf8
import ImageOwnership.Decimal.Binary64
import ImageOwnership.Decimal.Shortest
import ImageOwnership.Decimal.Notation
import ImageOwnership.Decimal.Numeral
import ImageOwnership.Decimal.Reading
import ImageOwnership.Json.Basic
import ImageOwnership.Json.Token
import ImageOwnership.Json.Parsing
import ImageOwnership.Json.Encoding
import ImageOwnership.Json.Display
import ImageOwnership.Document
import ImageOwnership.Image.Manifest
import ImageOwnership.Image.Config
import ImageOwnership.Image.Reference
import ImageOwnership.Package.Descriptor
import ImageOwnership.Provider
import ImageOwnership.Settings
import ImageOwnership.Url.Percent
import ImageOwnership.Url.Form
import ImageOwnership.Url.Address
import ImageOwnership.Url.Basic
import ImageOwnership.Url.Names
import ImageOwnership.Url.Parsing
import ImageOwnership.Url.Host
import ImageOwnership.Url.Resolution
import ImageOwnership.Http.Header
import ImageOwnership.Http.Message
import ImageOwnership.Http.Cookie
import ImageOwnership.Http.Run
import ImageOwnership.Http.Redirect
import ImageOwnership.Http.Client
import ImageOwnership.Http.Retry
import ImageOwnership.Http.Script
import ImageOwnership.Http.Recording
import ImageOwnership.Failure
import ImageOwnership.Log
import ImageOwnership.Registry
import ImageOwnership.Ownership
import ImageOwnership.Command.Arguments
import ImageOwnership.Command.Path
import ImageOwnership.Command.Disk
import ImageOwnership.Command.Output
import ImageOwnership.Command.Check
import ImageOwnership.Main
import ImageOwnership.Proofs.Http.Performance
import ImageOwnership.Proofs.Http.Course
import ImageOwnership.Proofs.Http.Writing
import ImageOwnership.Proofs.Conversation
import ImageOwnership.Proofs.Session
import ImageOwnership.Proofs.Acceptance
import ImageOwnership.Proofs.RivalOwners
import ImageOwnership.Proofs.Endings
import ImageOwnership.Proofs.Classification
import ImageOwnership.Proofs.Attribution
import ImageOwnership.Proofs.Http.Headers
import ImageOwnership.Proofs.Http.Alike
import ImageOwnership.Proofs.RequestPlan
import ImageOwnership.Proofs.IndexSwap
import ImageOwnership.Proofs.RatePolicy
import ImageOwnership.Proofs.Http.Replay
import ImageOwnership.Proofs.Http.Scripted
import ImageOwnership.Proofs.Cancellation
import ImageOwnership.Proofs.Closing
import ImageOwnership.Proofs.Http.Delay
import ImageOwnership.Proofs.Delay
import ImageOwnership.Proofs.Url.Splitting
import ImageOwnership.Proofs.Url.Below
import ImageOwnership.Proofs.Http.Issued
import ImageOwnership.Proofs.Url.Segments
import ImageOwnership.Proofs.FirstMatch
import ImageOwnership.Proofs.Destination
import ImageOwnership.Proofs.RepositoryPath
import ImageOwnership.Proofs.Http.Authorization
import ImageOwnership.Proofs.TokenDiscipline
import ImageOwnership.Proofs.Confinement
import ImageOwnership.Proofs.Http.Budget
import ImageOwnership.Proofs.Budget
import ImageOwnership.Proofs.Http.Exhaustion
import ImageOwnership.Proofs.Variation
import ImageOwnership.Proofs.Patience
import ImageOwnership.Proofs.Http.Unnoticed
import ImageOwnership.Proofs.Http.UserAgent
import ImageOwnership.Proofs.Lending
import ImageOwnership.Proofs.OriginSlashes
import ImageOwnership.Proofs.Http.Rounds
import ImageOwnership.Proofs.Invocation
import ImageOwnership.Proofs.ExitCode
import ImageOwnership.Proofs.Announcement
import ImageOwnership.Proofs.Text.Utf8
import ImageOwnership.Proofs.Json.Tokens
import ImageOwnership.Proofs.Json.Members
import ImageOwnership.Proofs.Json.Literals
import ImageOwnership.Proofs.WrittenDescriptor
import ImageOwnership.Proofs.Url.Form
import ImageOwnership.Proofs.Image.Repository
import ImageOwnership.Proofs.TokenRequest
import ImageOwnership.Proofs.StatedToken
import ImageOwnership.Proofs.Refusals
import ImageOwnership.Proofs.Json.Unique
import ImageOwnership.Proofs.Image.Documents
import ImageOwnership.Proofs.DocumentSwap
import ImageOwnership.Proofs.Identifiers
import ImageOwnership.Proofs.Settings.Check
import ImageOwnership.Proofs.TokenUrlForm
import ImageOwnership.Proofs.UsableSettings
import ImageOwnership.Proofs.EmptyVariables
import ImageOwnership.Proofs.Package.Descriptor
import ImageOwnership.Proofs.UnfitFile
