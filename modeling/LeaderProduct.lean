import LeaderProduct.Cancellation
import LeaderProduct.MobileMutations
import LeaderProduct.OptimisticLock
import LeaderProduct.RevisionGrowth
import LeaderProduct.LiveInvoice
import LeaderProduct.AcceptedOrder
import LeaderProduct.DocumentDelivery
import LeaderProduct.SnapshotBatch
import LeaderProduct.SessionLogout
import LeaderProduct.OrderPaging
import LeaderProduct.CatalogConvergence
import LeaderProduct.PhoneFinality
import LeaderProduct.BoundedGuesses
import LeaderProduct.ProviderTruth
import LeaderProduct.ContactProof
import LeaderProduct.BlockedUsers
import LeaderProduct.FailedExport
import LeaderProduct.CardCache
import LeaderProduct.MaxAuthenticity
import LeaderProduct.AdminRefusals
import LeaderProduct.EmployeeStanding
import LeaderProduct.AccessPrecedence
import LeaderProduct.QuantityTiers
import LeaderProduct.MarketplaceConsistency
import LeaderProduct.PointNumbers
import LeaderProduct.RouteStops
import LeaderProduct.PointSampling
import LeaderProduct.OrderTotals
import LeaderProduct.DeliveredInvoice
import LeaderProduct.InvoiceQueue
import LeaderProduct.InvoiceStatuses
import LeaderProduct.ExportQueue
import LeaderProduct.PayloadHash
import LeaderProduct.OrderStatusText
import LeaderProduct.SmartSearch
import LeaderProduct.GroupPromotion
import LeaderProduct.UnnamedLabor
import LeaderProduct.AppealSla
import LeaderProduct.PaymentStates
import LeaderProduct.MessagePaging
import LeaderProduct.ReadReceipts
import LeaderProduct.AppealWatchers
import LeaderProduct.ReleaseCheck
import LeaderProduct.ReleaseCache
import LeaderProduct.ImageBackOff
import LeaderProduct.ActiveDepartments
import LeaderProduct.RoleHierarchy
import LeaderProduct.Reminders
import LeaderProduct.FinancialDocumentPages
import LeaderProduct.DrillDownPages
import LeaderProduct.KafkaQueue
import LeaderProduct.SocketPresence
import LeaderProduct.QrCache
import LeaderProduct.PushTokens
import LeaderProduct.RateLimits
import LeaderProduct.ServiceRuleFlags
import LeaderProduct.NotificationWishes
import LeaderProduct.ForcedSummaries
