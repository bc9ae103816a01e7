import Obulus.Settlement.Guarantees
import Obulus.Settlement.Storage
import Obulus.Payout.Transfers
import Obulus.Payout.NeverHidden
import Obulus.Funds.ExactlyOnce
import Obulus.Mail.Delivery
import Obulus.Client.Agreement
import Obulus.Search.Neutrality
import Obulus.Search.Completeness
import Obulus.Search.Distribution
import Obulus.Hosted.Validators
import Obulus.Hosted.Ordering
import Obulus.Guards.Agreement
import Obulus.Research.Exclusion
import Obulus.Research.Recovery
import Obulus.Payout.Concurrent.Exclusive
import Obulus.Calls.Supersession
import Obulus.Calls.Earnings
import Obulus.Calls.Closed
import Obulus.Calls.EvenSplit
import Obulus.Calls.ReflectionTree
import Obulus.Local.Exclusive
import Obulus.Local.StatusCalls
import Obulus.Gateway.Absence
import Obulus.Gateway.Receipt
import Obulus.Gateway.ExactRelease
import Obulus.Gateway.Tracker
import Obulus.Generation.Sweep
import Obulus.Migration.Unbacked
import Obulus.Quality.Identifiers
import Obulus.Synthesis.Grounded
import Obulus.Wallets.Ledger
import Obulus.Calls.EscrowReturned
import Obulus.Store.Postgres
import Obulus.Gateway.Durability
import Obulus.Generation.Ready
import Obulus.Generation.Once
