import KungfuTora.Proofs.References
import KungfuTora.Proofs.Interleaving
import KungfuTora.Proofs.Isolation
import KungfuTora.Proofs.Attribution
import KungfuTora.Proofs.Trades
import KungfuTora.Proofs.Delivery
import KungfuTora.Proofs.Shareholder
import KungfuTora.Proofs.RoundTrip
import KungfuTora.Proofs.Converters
import KungfuTora.Proofs.Numbers
import KungfuTora.Proofs.RecordNumbers
import KungfuTora.Proofs.Cancels
import KungfuTora.Proofs.Commutation
import KungfuTora.Proofs.Readiness
import KungfuTora.Proofs.StartUp
import KungfuTora.Proofs.Volume
import KungfuTora.Proofs.Keys
import KungfuTora.Proofs.Requests
import KungfuTora.Misc.Chain
import KungfuTora.MarketData
import KungfuTora.Proofs.Quotes
import KungfuTora.Proofs.Subscriptions
import KungfuTora.Misc.Counter
import KungfuTora.Misc.Fields
import KungfuTora.Misc.Overwriting
import KungfuTora.Misc.Simulation
import KungfuTora.Misc.Streams
import KungfuTora.Proofs.Atomicity
import KungfuTora.Proofs.LedgerRefinement
import KungfuTora.Proofs.MarketSession
import KungfuTora.Proofs.Numbering
import KungfuTora.Proofs.Overlays
import KungfuTora.Proofs.Redelivery
import KungfuTora.Proofs.SessionIndependence
import KungfuTora.Proofs.TerminalInfo
import KungfuTora.Misc.Relay
import KungfuTora.Proofs.Books
import KungfuTora.Proofs.ConcurrentRefinement
import KungfuTora.Proofs.StartUpOrder
