import SshTunnel.Agent
import SshTunnel.Auth
import SshTunnel.Bytes.Base64
import SshTunnel.Bytes.BigEndian
import SshTunnel.ClientConfig
import SshTunnel.CommandLine.Arguments
import SshTunnel.CommandLine.Help
import SshTunnel.CommandLine.Report
import SshTunnel.CommandLine.Surroundings
import SshTunnel.Connection
import SshTunnel.Curve.Edwards
import SshTunnel.Curve.Modular
import SshTunnel.Curve.Named
import SshTunnel.Curve.Weierstrass
import SshTunnel.Descriptor.Basic
import SshTunnel.Descriptor.Uri
import SshTunnel.Digest.Hmac
import SshTunnel.Digest.Sha1
import SshTunnel.Digest.Sha512
import SshTunnel.Duration.Basic
import SshTunnel.Duration.Parser
import SshTunnel.Environment.Basic
import SshTunnel.Environment.Template
import SshTunnel.Error
import SshTunnel.FileSystem.Basic
import SshTunnel.FileSystem.Path
import SshTunnel.Glob
import SshTunnel.IpAddress
import SshTunnel.Json
import SshTunnel.Key.Der
import SshTunnel.Key.Pem
import SshTunnel.Key.Private
import SshTunnel.Key.Public
import SshTunnel.Key.Source
import SshTunnel.KnownHosts.Basic
import SshTunnel.KnownHosts.File
import SshTunnel.Main
import SshTunnel.Mux.Fault
import SshTunnel.Mux.Framing
import SshTunnel.Mux.Message
import SshTunnel.Mux.Opening
import SshTunnel.Mux.Pump
import SshTunnel.Mux.Session
import SshTunnel.Mux.Wire
import SshTunnel.Network
import SshTunnel.Notice
import SshTunnel.OsError
import SshTunnel.Plan
import SshTunnel.Proofs.Address.Agreement
import SshTunnel.Proofs.Address.HostText
import SshTunnel.Proofs.Address.Literal
import SshTunnel.Proofs.Address.Printed
import SshTunnel.Proofs.Address.Reading
import SshTunnel.Proofs.Address.Secrecy
import SshTunnel.Proofs.Address.Spelled
import SshTunnel.Proofs.Auth.Chain
import SshTunnel.Proofs.Bytes.Base64
import SshTunnel.Proofs.Bytes.Words
import SshTunnel.Proofs.ClientConfig.OnePass
import SshTunnel.Proofs.ClientConfig.Sayings
import SshTunnel.Proofs.ClientConfig.Scopes
import SshTunnel.Proofs.ClientConfig.Spellings
import SshTunnel.Proofs.Descriptor.Query
import SshTunnel.Proofs.Descriptor.Scheme
import SshTunnel.Proofs.Descriptor.Written
import SshTunnel.Proofs.Environment.Mentions
import SshTunnel.Proofs.Environment.Parts
import SshTunnel.Proofs.Except
import SshTunnel.Proofs.Glob.Language
import SshTunnel.Proofs.Glob.Lists
import SshTunnel.Proofs.Glob.Loop
import SshTunnel.Proofs.Glob.TrailingStar
import SshTunnel.Proofs.KnownHosts.Grammar
import SshTunnel.Proofs.KnownHosts.Identity
import SshTunnel.Proofs.KnownHosts.LetterCase
import SshTunnel.Proofs.KnownHosts.Reading
import SshTunnel.Proofs.KnownHosts.Sayings
import SshTunnel.Proofs.KnownHosts.Verdict
import SshTunnel.Proofs.Mux.AfterClose
import SshTunnel.Proofs.Mux.Credit
import SshTunnel.Proofs.Mux.Download
import SshTunnel.Proofs.Mux.EndOfInput
import SshTunnel.Proofs.Mux.Fields
import SshTunnel.Proofs.Mux.Flags
import SshTunnel.Proofs.Mux.Frames
import SshTunnel.Proofs.Mux.Grants
import SshTunnel.Proofs.Mux.HalfClose
import SshTunnel.Proofs.Mux.Layout
import SshTunnel.Proofs.Mux.Opens
import SshTunnel.Proofs.Mux.Release
import SshTunnel.Proofs.Mux.Requests
import SshTunnel.Proofs.Mux.Sessions
import SshTunnel.Proofs.Mux.Supply
import SshTunnel.Proofs.Mux.Upload
import SshTunnel.Proofs.Mux.Visits
import SshTunnel.Proofs.Mux.Window
import SshTunnel.Proofs.Proxy.Connect
import SshTunnel.Proofs.Proxy.Dialogue
import SshTunnel.Proofs.Proxy.Greeting
import SshTunnel.Proofs.Proxy.Messages
import SshTunnel.Proofs.Proxy.Replies
import SshTunnel.Proofs.Resolution.Execution
import SshTunnel.Proofs.Resolution.FailFast
import SshTunnel.Proofs.Resolution.Offers
import SshTunnel.Proofs.Resolution.Order
import SshTunnel.Proofs.Resolution.Secrecy
import SshTunnel.Proofs.Resolution.Unique
import SshTunnel.Proofs.Route.Selection
import SshTunnel.Proofs.Text.Cuts
import SshTunnel.Proofs.Text.Lower
import SshTunnel.Proofs.Text.Numeral
import SshTunnel.Proofs.Text.Percent
import SshTunnel.Proofs.Text.Quoted
import SshTunnel.Proofs.Text.SameLetters
import SshTunnel.Proofs.Text.Utf8
import SshTunnel.Proofs.Trust.Switches
import SshTunnel.Proxy.Address
import SshTunnel.Proxy.Negotiation
import SshTunnel.RemoteUser
import SshTunnel.Resolution
import SshTunnel.Route
import SshTunnel.Settings
import SshTunnel.Target
import SshTunnel.Text.Blank
import SshTunnel.Text.CharClass
import SshTunnel.Text.LetterCase
import SshTunnel.Text.Lower
import SshTunnel.Text.Numeral
import SshTunnel.Text.Percent
import SshTunnel.Text.Quoted
import SshTunnel.Text.Split
import SshTunnel.Text.Unprintable
import SshTunnel.Text.Utf8
import SshTunnel.Trust
import SshTunnel.Yaml.Cursor
import SshTunnel.Yaml.Document
import SshTunnel.Yaml.Property
import SshTunnel.Yaml.Scalar
import SshTunnel.Yaml.Token
import SshTunnel.Yaml.Tokens
