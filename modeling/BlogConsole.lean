import BlogConsole.Main
import BlogConsole.Proofs.Client.Address
import BlogConsole.Proofs.Loop.Interchange
import BlogConsole.Proofs.Listing.Accumulation
import BlogConsole.Proofs.Listing.Paging
import BlogConsole.Proofs.Listing.Prefix
import BlogConsole.Proofs.Listing.Token
import BlogConsole.Proofs.Loop.Cancellation
import BlogConsole.Proofs.Loop.Creation
import BlogConsole.Proofs.Loop.Loading
import BlogConsole.Proofs.Loop.Once
import BlogConsole.Proofs.Loop.Order
import BlogConsole.Proofs.Loop.Serializability
import BlogConsole.Proofs.Loop.Solo
import BlogConsole.Proofs.Store.History
import BlogConsole.Proofs.Store.Projection
import BlogConsole.Proofs.Client.Session
import BlogConsole.Proofs.Client.Refusal
import BlogConsole.Proofs.Command.Endings
import BlogConsole.Proofs.Settings.Expansion
import BlogConsole.Proofs.Settings.Resolution
import BlogConsole.Proofs.Command.Creation
import BlogConsole.Proofs.Command.Isolation
import BlogConsole.Proofs.Command.Key
import BlogConsole.Proofs.Command.Token
import BlogConsole.Proofs.Markup.Stripping
import BlogConsole.Proofs.Client.Place
import BlogConsole.Proofs.Listing.Requests
import BlogConsole.Proofs.Client.Restyling
import BlogConsole.Proofs.Task.Restyling
import BlogConsole.Proofs.Loop.Restyling
