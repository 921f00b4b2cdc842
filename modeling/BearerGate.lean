import BearerGate.Auth.Context
import BearerGate.Auth.Extract
import BearerGate.Auth.Layer
import BearerGate.Auth.Mechanism
import BearerGate.Auth.Policy
import BearerGate.Auth.Problem
import BearerGate.Claim.Data
import BearerGate.Claim.Inspect
import BearerGate.Claim.Lift
import BearerGate.Claim.Printer
import BearerGate.Claim.Standard
import BearerGate.Endpoint.Roles
import BearerGate.Endpoint.Router
import BearerGate.Holder
import BearerGate.Http.Message
import BearerGate.Http.Query
import BearerGate.Identity
import BearerGate.Injection.Attempt
import BearerGate.Injection.Collector
import BearerGate.Injection.Conversion
import BearerGate.Injection.Declaration
import BearerGate.Injection.Injected
import BearerGate.Injection.Registry
import BearerGate.Injection.Shape
import BearerGate.Json.Basic
import BearerGate.Json.Number
import BearerGate.Json.Parser
import BearerGate.Json.Printer
import BearerGate.Jwt.Header
import BearerGate.Jwt.Parts
import BearerGate.Jwt.Validator
import BearerGate.Key.Armor
import BearerGate.Key.Der
import BearerGate.Key.Rsa
import BearerGate.Key.Sha256
import BearerGate.Main
import BearerGate.Number.Decimal
import BearerGate.Number.Double
import BearerGate.Number.Shortest
import BearerGate.Request.Script
import BearerGate.Request.Task
import BearerGate.Route.Pattern
import BearerGate.Route.Table
import BearerGate.Server.Address
import BearerGate.Server.CommandLine
import BearerGate.Settings.Basic
import BearerGate.Settings.Load
import BearerGate.Settings.Tree
import BearerGate.Settings.Variable
import BearerGate.Settings.Yaml.Cursor
import BearerGate.Settings.Yaml.Document
import BearerGate.Settings.Yaml.Node
import BearerGate.Settings.Yaml.Scalar
import BearerGate.Settings.Yaml.Text
import BearerGate.Text.Base64
import BearerGate.Text.Blank
import BearerGate.Text.Hidden
import BearerGate.Text.Pieces
import BearerGate.Text.Quoted
import BearerGate.Text.TextMap
import BearerGate.Text.TextSet
import BearerGate.Text.Utf8
import BearerGate.Token
import BearerGate.Proofs.Admission
import BearerGate.Proofs.RoleDerivation
import BearerGate.Proofs.TaskIsolation
import BearerGate.Proofs.ValidatedClaims
import BearerGate.Proofs.InjectionTypes
import BearerGate.Proofs.RoleGroup
import BearerGate.Proofs.Delivery
import BearerGate.Proofs.OneToken
import BearerGate.Proofs.Encodings
import BearerGate.Proofs.BearerSelection
import BearerGate.Proofs.DeliveryShapes
import BearerGate.Proofs.SignatureFirst
import BearerGate.Proofs.TimeWindow
import BearerGate.Proofs.SiteGroups
import BearerGate.Proofs.CollectorRuns
import BearerGate.Proofs.RegistryRuns
import BearerGate.Proofs.Bootstrap
import BearerGate.Proofs.DeclarationOrder
import BearerGate.Proofs.PathLanguage
import BearerGate.Proofs.PublicPaths
import BearerGate.Proofs.UniformChallenge
import BearerGate.Proofs.IntegerDoubles
import BearerGate.Proofs.LiftAndLower
import BearerGate.Proofs.VerificationReport
import BearerGate.Proofs.GracePeriods
import BearerGate.Proofs.OptionalValues
import BearerGate.Proofs.KindHints
import BearerGate.Proofs.KeySpellings
import BearerGate.Proofs.CallerGroup
import BearerGate.Proofs.ClaimLookups
import BearerGate.Proofs.JsonTexts
import BearerGate.Proofs.Serialization
import BearerGate.Proofs.SettingSources
import BearerGate.Proofs.NormalizedKeys
import BearerGate.Proofs.TypeGrammar
import BearerGate.Proofs.WidenedLongs
import BearerGate.Proofs.SettingFields
import BearerGate.Proofs.SettingLayers
