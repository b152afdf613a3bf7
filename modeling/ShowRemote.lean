import ShowRemote.Main
import ShowRemote.Show.Wire
import ShowRemote.Proofs.Session.Coherence
import ShowRemote.Proofs.Session.Confirmation
import ShowRemote.Proofs.Session.Quiescence
import ShowRemote.Proofs.Session.Replica
import ShowRemote.Proofs.Session.Streams
import ShowRemote.Proofs.Session.Polarity
import ShowRemote.Proofs.Json.Members
import ShowRemote.Proofs.Show.Payload
import ShowRemote.Proofs.Show.Listing
import ShowRemote.Proofs.Json.Spelling
import ShowRemote.Proofs.Json.Grammar
import ShowRemote.Proofs.Json.Compact
import ShowRemote.Proofs.Json.Record
import ShowRemote.Proofs.Show.Command
import ShowRemote.Proofs.Show.Identifier
import ShowRemote.Proofs.CommandLine.Dialogue
import ShowRemote.Proofs.Session.Sequence
import ShowRemote.Proofs.CommandLine.Account
import ShowRemote.Proofs.CommandLine.Exit
import ShowRemote.Proofs.CommandLine.Conversation
import ShowRemote.Proofs.CommandLine.Watch
import ShowRemote.Proofs.Decimal.Rounding
import ShowRemote.Proofs.Json.Follow
import ShowRemote.Proofs.Json.Literal
import ShowRemote.Proofs.Settings.Layers
import ShowRemote.Proofs.Show.Cast
import ShowRemote.Proofs.Show.Wire
import ShowRemote.Show.Word
import ShowRemote.Proofs.Json.Depth
import ShowRemote.Proofs.Show.Word
import ShowRemote.Proofs.Show.Direct
import ShowRemote.Proofs.Url.Plain
import ShowRemote.Proofs.Http.Base
import ShowRemote.Proofs.Json.Soundness
import ShowRemote.Proofs.CommandLine.Classification
import ShowRemote.Proofs.Http.Server
import ShowRemote.Proofs.CommandLine.Pace
import ShowRemote.Proofs.Text.Pieces
import ShowRemote.Proofs.Url.Escape
import ShowRemote.Proofs.Url.Trail
import ShowRemote.Proofs.Url.Digits
import ShowRemote.Proofs.Url.Pieces
import ShowRemote.Proofs.Url.Bytes
import ShowRemote.Proofs.Url.Host
import ShowRemote.Proofs.Url.Authority
import ShowRemote.Http.Normal
import ShowRemote.Proofs.Http.Normal
