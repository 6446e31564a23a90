import RideHitch.Library.Machine
import RideHitch.Library.Bisection
import RideHitch.Library.Eviction
import RideHitch.Library.LastWrite
import RideHitch.Library.Requests
import RideHitch.Library.Rounding
import RideHitch.Geohash
import RideHitch.GeohashCells
import RideHitch.RealmInteractor
import RideHitch.RouteCalculator
import RideHitch.RoutePolygon
import RideHitch.AddTrip.Coherence
import RideHitch.AddTrip.MissingData
import RideHitch.AddTrip.SearchList
import RideHitch.AddTrip.RouteChoice
import RideHitch.LambdaInteractor
import RideHitch.ResultsMapVC
import RideHitch.MatchSearch
import RideHitch.LateAnswers
import RideHitch.ConfigureTripVC
import RideHitch.LoginViewController
import RideHitch.DynamoDBInteractor
import RideHitch.RemoteTable
import RideHitch.TimeEntry
import RideHitch.TripsViewController
import RideHitch.Fleet
import RideHitch.MatchRequests
import RideHitch.Proposer
import RideHitch.Provenance
import RideHitch.LocationAccess
import RideHitch.Navigation.Stack
import RideHitch.Navigation.Opened
import RideHitch.Navigation.Rides
import RideHitch.Navigation.Progress
import RideHitch.Settling
