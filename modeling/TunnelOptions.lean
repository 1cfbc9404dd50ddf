import TunnelOptions.Log.Journal
import TunnelOptions.Settings.Reading
import TunnelOptions.Settings.Writing
import TunnelOptions.Toml.Quoted.RoundTrip
import TunnelOptions.Tower.Calls
import TunnelOptions.Proofs.Nesting
import TunnelOptions.Proofs.Refusal
import TunnelOptions.Proofs.LastWrite
import TunnelOptions.Proofs.Reachable
import TunnelOptions.Proofs.BulkWrites
import TunnelOptions.Proofs.Decimal
import TunnelOptions.Proofs.Toml.Scalars
import TunnelOptions.Proofs.Toml.Keys
import TunnelOptions.Proofs.Toml.Statements
import TunnelOptions.Proofs.Toml.Drafts
import TunnelOptions.Proofs.OptionValues
import TunnelOptions.Proofs.OpenTunnel
import TunnelOptions.Proofs.SavedSettings
import TunnelOptions.Proofs.ClientSettings
import TunnelOptions.Proofs.Vocabulary
import TunnelOptions.Proofs.Events
import TunnelOptions.Proofs.TypedWrites
import TunnelOptions.Proofs.EntryOrder
import TunnelOptions.Proofs.Collecting
import TunnelOptions.Proofs.Aliases
import TunnelOptions.Proofs.GivenNames
import TunnelOptions.Proofs.ListTexts
import TunnelOptions.Proofs.QuotedScalars
import TunnelOptions.Proofs.InsertionOrder
import TunnelOptions.Proofs.Literals
import TunnelOptions.Proofs.IntegerTexts
import TunnelOptions.Proofs.BooleanTexts
import TunnelOptions.Proofs.Outlines
import TunnelOptions.Proofs.TunnelOutlines
import TunnelOptions.Proofs.OneLog
