import ScdtServer.Core.Transition
import ScdtServer.Core.Interaction
import ScdtServer.Core.Ownership
import ScdtServer.Core.TaskPool
import ScdtServer.Core.ByteReader
import ScdtServer.Core.Collect
import ScdtServer.Core.Alignment
import ScdtServer.Challd.Ports
import ScdtServer.Challd.Bindings
import ScdtServer.Challd.RequestReader
import ScdtServer.Challd.Host
import ScdtServer.Core.Base64
import ScdtServer.Challd.AddressManager
import ScdtServer.Challd.Container
import ScdtServer.Challd.Interface
import ScdtServer.Challd.Main
import ScdtServer.Challd.Daemon
import ScdtServer.Challd.Holdings
import ScdtServer.Challd.TaskSpecs
import ScdtServer.Challd.Invariant
import ScdtServer.Challd.Accounting
import ScdtServer.Challd.Soundness
import ScdtServer.Challd.Leaks
import ScdtServer.Challd.CleanAddresses
import ScdtServer.Challd.Isolation
import ScdtServer.Challd.Shutdown
import ScdtServer.Challd.Allocator
import ScdtServer.CtfArchive.ChalldClient
import ScdtServer.Challd.Connection
import ScdtServer.CtfArchive.Http
import ScdtServer.CtfArchive.Jwt
import ScdtServer.CtfArchive.Auth
import ScdtServer.CtfArchive.Codes
import ScdtServer.CtfArchive.Guest
import ScdtServer.Core.Sql
import ScdtServer.CtfArchive.Dates
import ScdtServer.CtfArchive.Tables
import ScdtServer.CtfArchive.Api
import ScdtServer.CtfArchive.Authority
import ScdtServer.CtfArchive.Redemption
import ScdtServer.CtfArchive.Expiry
import ScdtServer.CtfArchive.Processes
import ScdtServer.CtfArchive.PortLimit
import ScdtServer.CtfArchive.Pairing
import ScdtServer.CtfArchive.Placement
import ScdtServer.CtfArchive.CategoryNames
import ScdtServer.CtfArchive.Updates
import ScdtServer.CtfArchive.Calendar
import ScdtServer.CtfArchive.Privileges
import ScdtServer.CtfArchive.ChallengeStore
import ScdtServer.CtfArchive.Delivery
import ScdtServer.Challd.BusyScan
import ScdtServer.Challd.Creation
import ScdtServer.Challd.Occupancy
import ScdtServer.Core.Liveness
import ScdtServer.Challd.Errands
import ScdtServer.Challd.Records
import ScdtServer.Challd.Replies
import ScdtServer.Challd.Completion
import ScdtServer.CtfArchive.Sessions
import ScdtServer.CtfArchive.Configurations
import ScdtServer.CtfArchive.Panics
import ScdtServer.CtfArchive.Catalogue
import ScdtServer.Deployment.System
import ScdtServer.Deployment.Provenance
import ScdtServer.Deployment.Answers
import ScdtServer.Deployment.Service
