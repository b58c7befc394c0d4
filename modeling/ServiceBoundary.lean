import ServiceBoundary.Main
import ServiceBoundary.Workspace
import ServiceBoundary.Proofs.Propagation
import ServiceBoundary.Proofs.Selection
import ServiceBoundary.Proofs.Walk
import ServiceBoundary.Proofs.Demand
import ServiceBoundary.Proofs.Planning
import ServiceBoundary.Proofs.Words
import ServiceBoundary.Proofs.Session
import ServiceBoundary.Proofs.Ownership
import ServiceBoundary.Proofs.Comparison
import ServiceBoundary.Proofs.Linking
import ServiceBoundary.Proofs.Counterparts
import ServiceBoundary.Proofs.Redeclaration
import ServiceBoundary.Proofs.FixedPoint
import ServiceBoundary.Proofs.Promotion
import ServiceBoundary.Proofs.History
import ServiceBoundary.Proofs.Files
import ServiceBoundary.Proofs.Requests
import ServiceBoundary.Proofs.Stages
import ServiceBoundary.Proofs.Frames
import ServiceBoundary.Proofs.Complaints
import ServiceBoundary.Proofs.UpToDate
import ServiceBoundary.Proofs.Pending
import ServiceBoundary.Proofs.Rebuild
import ServiceBoundary.Proofs.Delivery
import ServiceBoundary.Proofs.Flags
import ServiceBoundary.Proofs.LinkOutcome
import ServiceBoundary.Proofs.Descent
import ServiceBoundary.Proofs.Visits
import ServiceBoundary.Proofs.Enumeration
import ServiceBoundary.Proofs.PlanOutcome
import ServiceBoundary.Proofs.Expansion
import ServiceBoundary.Proofs.Overview
import ServiceBoundary.Proofs.Literals
import ServiceBoundary.Proofs.Tables
import ServiceBoundary.Proofs.FlagLines
import ServiceBoundary.Proofs.Paths
import ServiceBoundary.Proofs.Locating
import ServiceBoundary.Proofs.Refreshing
import ServiceBoundary.Proofs.Schemas
import ServiceBoundary.Proofs.ManifestTables
