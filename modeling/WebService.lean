import WebService.Calendar.Date
import WebService.Calendar.Moment
import WebService.Calendar.Reader
import WebService.Calendar.Writer
import WebService.Cors
import WebService.Digest.Sha256
import WebService.Error
import WebService.Header.Field
import WebService.Json.Document
import WebService.Json.Escaped
import WebService.Json.Reader
import WebService.Json.Shape
import WebService.Json.Value
import WebService.Json.Writer
import WebService.Log.Entry
import WebService.Log.Journal
import WebService.Log.Message
import WebService.Log.Notice
import WebService.Markup.Document
import WebService.Markup.Element
import WebService.Markup.Event
import WebService.Markup.Writer
import WebService.Media.Container
import WebService.Media.Extension
import WebService.Media.Mark
import WebService.Media.Office
import WebService.Media.Signature
import WebService.Media.Storage.Directory
import WebService.Media.Storage.Sector
import WebService.Method
import WebService.Network.Address
import WebService.Number.Binary
import WebService.Number.Layout
import WebService.Number.Reading
import WebService.Number.Shortest
import WebService.Paging
import WebService.Proofs.Calendar.Days
import WebService.Proofs.Calendar.Offset
import WebService.Proofs.Calendar.RoundTrip
import WebService.Proofs.Chain
import WebService.Proofs.Cors.Grant
import WebService.Proofs.Cors.Origin
import WebService.Proofs.Cors.Overwrite
import WebService.Proofs.Cors.Vary
import WebService.Proofs.Json.Escaped
import WebService.Proofs.Json.Fits
import WebService.Proofs.Json.OneLine
import WebService.Proofs.Json.Order
import WebService.Proofs.Json.Record
import WebService.Proofs.Json.Text
import WebService.Proofs.Json.Value
import WebService.Proofs.Json.Written
import WebService.Proofs.Log.Custom
import WebService.Proofs.Log.Line
import WebService.Proofs.Lookup
import WebService.Proofs.Markup.Acceptance
import WebService.Proofs.Markup.Attributes
import WebService.Proofs.Markup.Grammar
import WebService.Proofs.Markup.Html
import WebService.Proofs.Markup.Lossless
import WebService.Proofs.Markup.Nesting
import WebService.Proofs.Markup.Offence
import WebService.Proofs.Markup.Outline
import WebService.Proofs.Markup.Reading
import WebService.Proofs.Markup.Spelled
import WebService.Proofs.Markup.Tag
import WebService.Proofs.Markup.Wellformed
import WebService.Proofs.Markup.Written
import WebService.Proofs.Method
import WebService.Proofs.Notes.Answer
import WebService.Proofs.Notes.Change
import WebService.Proofs.Notes.Number
import WebService.Proofs.Notes.Run
import WebService.Proofs.Number.Integer
import WebService.Proofs.Number.Order
import WebService.Proofs.Number.Rounding
import WebService.Proofs.Paging
import WebService.Proofs.Paging.Partition
import WebService.Proofs.Request.Address
import WebService.Proofs.Request.Arguments
import WebService.Proofs.Request.Preference
import WebService.Proofs.Request.Range
import WebService.Proofs.Request.Rejection
import WebService.Proofs.Request.RoundTrip
import WebService.Proofs.Response.Filename
import WebService.Proofs.Response.Headers
import WebService.Proofs.Response.Map
import WebService.Proofs.Response.Message
import WebService.Proofs.Response.Sending
import WebService.Proofs.Response.Status
import WebService.Proofs.Response.Unique
import WebService.Proofs.Response.Whole
import WebService.Proofs.Route.First
import WebService.Proofs.Route.Grammar
import WebService.Proofs.Route.Head
import WebService.Proofs.Route.Lookup
import WebService.Proofs.Route.Match
import WebService.Proofs.Route.Reverse
import WebService.Proofs.Service.AccessLine
import WebService.Proofs.Service.Arrival
import WebService.Proofs.Service.BodyLimit
import WebService.Proofs.Service.Boundary
import WebService.Proofs.Service.Dispatch
import WebService.Proofs.Service.Missing
import WebService.Proofs.Service.Refusal
import WebService.Proofs.Service.Registration
import WebService.Proofs.Service.Sending
import WebService.Proofs.Settings.Defaults
import WebService.Proofs.Settings.File
import WebService.Proofs.Settings.Key
import WebService.Proofs.Settings.Layers
import WebService.Proofs.Settings.Merge
import WebService.Proofs.Settings.Precedence
import WebService.Proofs.Settings.Reading
import WebService.Proofs.Text.Blank
import WebService.Proofs.Text.Form
import WebService.Proofs.Text.Lossy
import WebService.Proofs.Text.Octets
import WebService.Proofs.Text.Percent
import WebService.Proofs.Text.Split
import WebService.Proofs.Text.Substitution
import WebService.Proofs.Toml.Scalar
import WebService.Proofs.Toml.Value
import WebService.Proofs.Toml.Written
import WebService.Request.Argument
import WebService.Request.Basic
import WebService.Request.Body
import WebService.Request.Outcome
import WebService.Request.Preference
import WebService.Request.Target
import WebService.Response.Basic
import WebService.Response.Build
import WebService.Response.Message
import WebService.Response.Wire
import WebService.Route.Fault
import WebService.Route.Pattern
import WebService.Route.Table
import WebService.Service.Application
import WebService.Service.Handler
import WebService.Service.Notes
import WebService.Service.Resource
import WebService.Settings.Coercion
import WebService.Settings.Config
import WebService.Settings.Fault
import WebService.Settings.Layer
import WebService.Settings.Path
import WebService.Settings.Setting
import WebService.Text.Blank
import WebService.Text.Form
import WebService.Text.Letter
import WebService.Text.Lowercase
import WebService.Text.Percent
import WebService.Text.Quoted
import WebService.Text.Range
import WebService.Text.Split
import WebService.Text.Uppercase
import WebService.Text.Utf8
import WebService.Text.Visible
import WebService.Toml.Line
import WebService.Toml.Moment
import WebService.Toml.Number
import WebService.Toml.Reader
import WebService.Toml.Table
import WebService.Toml.Text
import WebService.Toml.Time
