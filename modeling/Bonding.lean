import Bonding.Bond.Contract
import Bonding.Bond.Types
import Bonding.Coin
import Bonding.Console.Http
import Bonding.Console.Probe
import Bonding.Console.Reply
import Bonding.Console.Run
import Bonding.Console.Runs
import Bonding.Console.Scenario
import Bonding.Console.Setup
import Bonding.Console.Shape
import Bonding.Console.Storage
import Bonding.Crypto.Address
import Bonding.Crypto.Bech32
import Bonding.Crypto.Sha256
import Bonding.Dotenv
import Bonding.Effect
import Bonding.Fault
import Bonding.Genesis
import Bonding.Genesis.Yaml
import Bonding.History
import Bonding.Host
import Bonding.Json.Decode
import Bonding.Json.Parse
import Bonding.Json.Print
import Bonding.Json.Value
import Bonding.Keeper
import Bonding.KeyMap
import Bonding.Ledger
import Bonding.Log.Event
import Bonding.Log.Level
import Bonding.Message
import Bonding.Metrics
import Bonding.Metrics.Protobuf
import Bonding.Node.Directory
import Bonding.Node.Run
import Bonding.Number.Binary64
import Bonding.Number.Convert
import Bonding.Number.Decimal
import Bonding.Number.Int256
import Bonding.Oracle.Contract
import Bonding.Oracle.Types
import Bonding.Postgres.Connection
import Bonding.Query
import Bonding.Record
import Bonding.Schedule
import Bonding.Session.Basic
import Bonding.Settings
import Bonding.Staking.Contract
import Bonding.Staking.Types
import Bonding.Store
import Bonding.Text.Case
import Bonding.Text.Integer
import Bonding.Text.Path
import Bonding.Text.Printable
import Bonding.Text.Quoted
import Bonding.Text.Utf8
import Bonding.Time.DurationLiteral
import Bonding.Time.Instant
import Bonding.Time.Rfc3339
import Bonding.Time.Zone
import Bonding.Web.Address
import Bonding.Web.Api
import Bonding.Web.Accept
import Bonding.Web.Cors
import Bonding.Web.Headers
import Bonding.Web.Target
import Bonding.Web.RequestLine
import Bonding.Yaml.Decode
import Bonding.Yaml.Node
import Bonding.Yaml.Resolve
import Bonding.Yaml.Timestamp
import Bonding.Yaml.Token
import Bonding.Yaml.Token.Fetch
import Bonding.Yaml.Token.Scalar
import Bonding.Yaml.Token.Stream
import Bonding.Main
import Bonding.Proofs.KeyMap
import Bonding.Proofs.Ledger
import Bonding.Proofs.Run
import Bonding.Proofs.Commit
import Bonding.Proofs.Atomic
import Bonding.Proofs.Conservation
import Bonding.Proofs.Authority
import Bonding.Proofs.Bond
import Bonding.Proofs.Calls
import Bonding.Proofs.Solvency
import Bonding.Proofs.Settings
import Bonding.Proofs.Configured
import Bonding.Proofs.Debt
import Bonding.Proofs.Points
import Bonding.Proofs.Backing
import Bonding.Proofs.Epoch
import Bonding.Proofs.Vesting
import Bonding.Proofs.Dilution
import Bonding.Proofs.Deposit
import Bonding.Proofs.Quotes
import Bonding.Proofs.Deadlines
import Bonding.Proofs.Adjustment
import Bonding.Proofs.Literals
import Bonding.Proofs.Codec
import Bonding.Proofs.Warmup
import Bonding.Proofs.RedeemStake
import Bonding.Proofs.Settlement
