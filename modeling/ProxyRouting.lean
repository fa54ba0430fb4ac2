import ProxyRouting.Address.IPv4
import ProxyRouting.Address.IPv6
import ProxyRouting.Affinity.Cache
import ProxyRouting.Affinity.Hashing
import ProxyRouting.Bytes
import ProxyRouting.CommandLine
import ProxyRouting.Config.Choice
import ProxyRouting.Config.Document
import ProxyRouting.Config.Error
import ProxyRouting.Config.FileTree
import ProxyRouting.Config.Json
import ProxyRouting.Config.Load
import ProxyRouting.Config.Schema
import ProxyRouting.Connection.Attempt
import ProxyRouting.Connection.Script
import ProxyRouting.Connection.Trace
import ProxyRouting.Credentials
import ProxyRouting.Flow
import ProxyRouting.HostPort
import ProxyRouting.Main
import ProxyRouting.Notice
import ProxyRouting.Proofs.Connection.Steps
import ProxyRouting.Proofs.Socks5.Acceptance
import ProxyRouting.Proofs.Socks5.Dialogue
import ProxyRouting.Proofs.Socks5.Grammar
import ProxyRouting.Proofs.Socks5.Monotonicity
import ProxyRouting.Proxy
import ProxyRouting.Random.MersenneTwister
import ProxyRouting.Random.Uniform
import ProxyRouting.Random.Weighted
import ProxyRouting.Registry
import ProxyRouting.Router
import ProxyRouting.Rule
import ProxyRouting.Scheme
import ProxyRouting.Selector
import ProxyRouting.Socks5.Error
import ProxyRouting.Socks5.Handshake
import ProxyRouting.Socks5.Reply
import ProxyRouting.Socks5.Request
import ProxyRouting.Text.Base64
import ProxyRouting.Text.Decimal
import ProxyRouting.Text.Integer
import ProxyRouting.Text.Percent
import ProxyRouting.Text.Wildcard
import ProxyRouting.Url
import ProxyRouting.Proofs.Connection.Stream
import ProxyRouting.Proofs.Connection.Tunnel
import ProxyRouting.Proofs.Affinity.Lookup
import ProxyRouting.Proofs.Registry.Build
import ProxyRouting.Proofs.Selector.Choice
import ProxyRouting.Proofs.Selector.Runs
import ProxyRouting.Proofs.Selector.Selection
import ProxyRouting.Proofs.Selector.Stickiness
import ProxyRouting.Proofs.Selector.Transparency
import ProxyRouting.Proofs.Affinity.Clients
import ProxyRouting.Proofs.Selector.Isolation
import ProxyRouting.Proofs.Socks5.Calls
import ProxyRouting.Proofs.Socks5.Requests
import ProxyRouting.Proofs.Socks5.Steps
import ProxyRouting.Proofs.Socks5.Messages
import ProxyRouting.Proofs.Connection.History
import ProxyRouting.Proofs.Connection.Completion
import ProxyRouting.Proofs.Connection.Exchange
import ProxyRouting.Proofs.Connection.Secrecy
import ProxyRouting.Proofs.Config.Loading
import ProxyRouting.Proofs.Router.Configuration
import ProxyRouting.Proofs.Config.Validity
import ProxyRouting.Proofs.Random.Weighted
import ProxyRouting.Proofs.Selector.Drawing
import ProxyRouting.Proofs.Url.Parts
import ProxyRouting.Proofs.Router.Decisions
import ProxyRouting.Proofs.Text.Integer
import ProxyRouting.Proofs.Config.Writing
import ProxyRouting.Proofs.Affinity.Mapping
import ProxyRouting.Proofs.Registry.Masking
import ProxyRouting.Proofs.Config.Passwords
import ProxyRouting.Proofs.Selector.Masking
import ProxyRouting.Proofs.Router.Secrecy
import ProxyRouting.Proofs.Affinity.Sharding
import ProxyRouting.Proofs.Selector.Sessions
import ProxyRouting.Proofs.Random.Uniformity
import ProxyRouting.Proofs.Selector.Proportion
import ProxyRouting.Proofs.Text.Cutting
import ProxyRouting.Proofs.Text.Wildcard
import ProxyRouting.Proofs.Text.Percent
import ProxyRouting.Proofs.Url.Grammar
import ProxyRouting.Proofs.Credentials.Embedding
import ProxyRouting.Proofs.HostPort.Agreement
import ProxyRouting.Proofs.Address.IPv4
import ProxyRouting.Proofs.Address.IPv6
import ProxyRouting.Proofs.Socks5.Destinations
import ProxyRouting.Proofs.HostPort.Grammar
import ProxyRouting.Proofs.Registry.Members
import ProxyRouting.Proofs.Config.Entries
import ProxyRouting.Proofs.Text.Base64
import ProxyRouting.Proofs.Credentials.Header
import ProxyRouting.Proofs.Url.Display
import ProxyRouting.Proofs.Config.Places
import ProxyRouting.Proofs.Config.Choice
import ProxyRouting.Proofs.Connection.Queue
import ProxyRouting.Proofs.CommandLine.Routes
import ProxyRouting.Proofs.CommandLine.Accounting
import ProxyRouting.Proofs.CommandLine.Independence
import ProxyRouting.Proofs.Socks5.Strictness
import ProxyRouting.Proofs.Socks5.Buffering
import ProxyRouting.Proofs.Connection.Buffering
