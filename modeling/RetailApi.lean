import RetailApi.Proofs.TransferLosses
import RetailApi.Proofs.PurchaseReceiving
import RetailApi.Proofs.CreditSales
import RetailApi.Proofs.AbortedCheckouts
import RetailApi.Proofs.CancelledCheckouts
import RetailApi.Proofs.RefundRequests
import RetailApi.Proofs.CouponUsage
import RetailApi.Proofs.CancelledOrders
import RetailApi.Proofs.ExactHolds
import RetailApi.Proofs.CatalogConvergence
import RetailApi.Proofs.LiveVariants
import RetailApi.Proofs.PlanQuotas
import RetailApi.Proofs.StockAlerts
import RetailApi.Proofs.DefaultWarehouses
import RetailApi.Proofs.ShiftClosing
import RetailApi.Proofs.OutboxDelivery
import RetailApi.Proofs.WebhookDelivery
import RetailApi.Proofs.StockPublications
import RetailApi.Proofs.OrderImports
import RetailApi.Proofs.EventOrder
import RetailApi.Proofs.RebuildCutover
import RetailApi.Proofs.SubscriptionLife
import RetailApi.Proofs.CategoryTree
import RetailApi.Proofs.EventDeliveries
import RetailApi.Proofs.ShippedOrders
import RetailApi.Proofs.BalancedLedger
import RetailApi.Proofs.CreditLimit
import RetailApi.Proofs.PayableBooks
import RetailApi.Proofs.RefundBooks
import RetailApi.Proofs.CodBooks
import RetailApi.Proofs.OrderRefunds
import RetailApi.Proofs.LoyaltyEvents
import RetailApi.Proofs.DimensionConvergence
import RetailApi.Proofs.CatalogEdits
import RetailApi.Proofs.TenantIsolation
import RetailApi.Proofs.SessionEnds
import RetailApi.Proofs.Quotes
import RetailApi.Proofs.ShiftVariances
import RetailApi.Proofs.CashSummary
import RetailApi.Proofs.ProviderPayments
import RetailApi.Proofs.PurchaseEvents
import RetailApi.Proofs.RefundPayouts
import RetailApi.Proofs.BranchLifecycle
import RetailApi.Proofs.AverageCost
import RetailApi.Proofs.ExpiredHolds
import RetailApi.Proofs.MergedLines
import RetailApi.Proofs.PublishedQuantities
import RetailApi.Proofs.UnitConversions
import RetailApi.Proofs.TwoAverages
import RetailApi.Proofs.CheckDigits
import RetailApi.Proofs.CsvFiles
import RetailApi.Proofs.EventBus
import RetailApi.Proofs.RemoteHolds
