import Decisioning.Cache.Contract
import Decisioning.Cache.Fault
import Decisioning.Cache.Memory
import Decisioning.Main
import Decisioning.Proposition.Record
import Decisioning.Rule.Record
import Decisioning.Proofs.SortedMap
import Decisioning.Proofs.SurfaceStore
import Decisioning.Proofs.RankOrder
import Decisioning.Proofs.BatchImage
import Decisioning.Proofs.Operation
import Decisioning.Proofs.Engines
import Decisioning.Proofs.AppContent
import Decisioning.Proofs.LastWriter
import Decisioning.Proofs.Restart
import Decisioning.Proofs.CardHistory
import Decisioning.Proofs.Addressees
import Decisioning.Proofs.RequestHistory
import Decisioning.Proofs.Arrival
import Decisioning.Proofs.CardContent
import Decisioning.Proofs.FileCache
import Decisioning.Proofs.Forgetting
import Decisioning.Proofs.Durability
import Decisioning.Proofs.BuiltStore
import Decisioning.Proofs.SurfaceContents
import Decisioning.Proofs.EngineRules
import Decisioning.Proofs.AcceptedPayload
import Decisioning.Proofs.Tracking
import Decisioning.Proofs.RequestedSurfaces
import Decisioning.Proofs.Prediction
import Decisioning.Proofs.Merging
import Decisioning.Proofs.RecordReading
import Decisioning.Proofs.RequestLedger
import Decisioning.Proofs.DrawnIds
import Decisioning.Proofs.StoreReaders
import Decisioning.Proofs.CleanImage
import Decisioning.Proofs.Notices
import Decisioning.Proofs.TrackedInteraction
import Decisioning.Proofs.ReservedKey
import Decisioning.Proofs.CardLife
import Decisioning.Proofs.InterruptedWrite
import Decisioning.Proofs.KeyPath
import Decisioning.Proofs.PrintedReport
