import DemandRide.Main
import DemandRide.Proofs.Number.Ordered
import DemandRide.Proofs.Number.Rounding
import DemandRide.Proofs.Number.Binary64
import DemandRide.Proofs.Number.Exact
import DemandRide.Proofs.Number.Monotone
import DemandRide.Proofs.Number.Extended
import DemandRide.Proofs.Number.RoundedOrder
import DemandRide.Proofs.Number.Symmetry
import DemandRide.Proofs.Json.Record
import DemandRide.Proofs.Road.Network
import DemandRide.Proofs.Road.Moves
import DemandRide.Proofs.Road.Search
import DemandRide.Proofs.Road.Order
import DemandRide.Proofs.Road.Growth
import DemandRide.Proofs.Road.Trail
import DemandRide.Proofs.Road.LeastTime
import DemandRide.Proofs.Road.Infinite
import DemandRide.Proofs.Stops.Nearest
import DemandRide.Proofs.Stops.Area
import DemandRide.Proofs.Stops.Choice
import DemandRide.Proofs.Itinerary.FirstFault
import DemandRide.Proofs.Service.History
import DemandRide.Proofs.Service.Structure
import DemandRide.Proofs.Service.Batch
import DemandRide.Proofs.Service.Departures
import DemandRide.Proofs.Service.Connection
import DemandRide.Proofs.Service.UnknownLinks
import DemandRide.Proofs.Service.Failures
import DemandRide.Proofs.Service.Queries
import DemandRide.Proofs.Service.Rides
import DemandRide.Proofs.Service.Comparison
import DemandRide.Proofs.Walk.Mirror
import DemandRide.Proofs.Service.Postponement
import DemandRide.Proofs.Service.Terms
import DemandRide.Proofs.Service.Reports
import DemandRide.Proofs.Service.Fallbacks
import DemandRide.Proofs.Service.Modes
import DemandRide.Proofs.Service.Attribution
import DemandRide.Proofs.Scenario
import DemandRide.Proofs.Scenario.Stops
import DemandRide.Proofs.Scenario.Refinement
import DemandRide.Proofs.Scenario.Obstacles
import DemandRide.Proofs.Format.RoundTrip
import DemandRide.Proofs.Format.Unread
import DemandRide.Proofs.CommandLine.Review
import DemandRide.Proofs.CommandLine.Route
import DemandRide.Proofs.Program
