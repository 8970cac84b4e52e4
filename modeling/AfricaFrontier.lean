import AfricaFrontier.Lib.Run
import AfricaFrontier.Lib.Pool
import AfricaFrontier.Lib.Table
import AfricaFrontier.Lib.Window
import AfricaFrontier.Lib.Custody
import AfricaFrontier.Python.Json
import AfricaFrontier.Python.Subscript
import AfricaFrontier.Python.Decimal
import AfricaFrontier.Config.Redis
import AfricaFrontier.Config.RateLimit
import AfricaFrontier.EventBus.Consumer
import AfricaFrontier.Support.SupportAi
import AfricaFrontier.Payments.Models
import AfricaFrontier.Payments.Creation
import AfricaFrontier.Payments.Session
import AfricaFrontier.Kora.Reconciliation
import AfricaFrontier.Kora.Webhook
import AfricaFrontier.Kora.Settlement
import AfricaFrontier.Kora.StatusOrder
import AfricaFrontier.Kora.Envelope
import AfricaFrontier.Kora.Store
import AfricaFrontier.Kora.Delivery
import AfricaFrontier.Kora.Acknowledgement
import AfricaFrontier.Kora.PayoutDebit
import AfricaFrontier.Kora.RefundRoute
import AfricaFrontier.Kora.RefundBound
import AfricaFrontier.Kora.RefundCoherence
import AfricaFrontier.Kora.RefundTarget
import AfricaFrontier.Kora.Books
import AfricaFrontier.Kora.PayoutAgreement
import AfricaFrontier.Kora.MoneyMatch
import AfricaFrontier.Kora.Handling
import AfricaFrontier.Kora.Redelivery
import AfricaFrontier.Kora.SignedContent
import AfricaFrontier.Kora.EventIds
import AfricaFrontier.Kora.AllOrNothing
import AfricaFrontier.Payments.MonthlyLimit
import AfricaFrontier.Kora.PayoutRoute
import AfricaFrontier.Kora.OutgoingMoney
import AfricaFrontier.Kora.PayoutRetries
import AfricaFrontier.Kora.RefundReplay
import AfricaFrontier.Kora.CashNeutral
import AfricaFrontier.Kora.Worker
import AfricaFrontier.Kora.WorkerLoop
import AfricaFrontier.Kora.FinishedTasks
import AfricaFrontier.Kora.TaskClaims
import AfricaFrontier.Kora.Polling
import AfricaFrontier.Kora.PreviewFootprint
import AfricaFrontier.Payments.PaymentRoute
import AfricaFrontier.Payments.AcceptedOnce
import AfricaFrontier.Kora.MonthlyCap
import AfricaFrontier.Payments.OutcomeEvents
import AfricaFrontier.Auth.Models
import AfricaFrontier.Auth.Otp
import AfricaFrontier.Auth.Routes
import AfricaFrontier.Auth.Histories
import AfricaFrontier.Auth.KycStatus
import AfricaFrontier.Auth.PhoneVerified
import AfricaFrontier.Auth.RetiredCodes
import AfricaFrontier.Auth.OtpRaces
import AfricaFrontier.Kora.RefusedRequests
import AfricaFrontier.Python.Text
import AfricaFrontier.Kora.StatusReading
import AfricaFrontier.Kora.KoraClient
import AfricaFrontier.Kora.ReleasedTasks
import AfricaFrontier.Lib.Chain
import AfricaFrontier.Kora.PollingPace
import AfricaFrontier.Auth.OneAccount
import AfricaFrontier.PlatformManager.ApiKeys
import AfricaFrontier.EasyMarkets.Wallets
import AfricaFrontier.Payments.VirtualAccounts
import AfricaFrontier.Config.Security
import AfricaFrontier.Auth.TokenKinds
import AfricaFrontier.Payments.Reads
import AfricaFrontier.Auth.RefusedSignIns
import AfricaFrontier.Lib.Keyset
import AfricaFrontier.Payments.LedgerPages
import AfricaFrontier.Lib.Rounding
import AfricaFrontier.Python.Context
import AfricaFrontier.RevenueEngine.Balance
import AfricaFrontier.RevenueEngine.Split
import AfricaFrontier.Trading.Reconciliation
import AfricaFrontier.RevenueEngine.FairSplit
import AfricaFrontier.RevenueEngine.MonthlyRevenue
import AfricaFrontier.EasyMarkets.WalletLegs
import AfricaFrontier.Lib.Dict
import AfricaFrontier.EasyMarkets.PortfolioValue
import AfricaFrontier.Kora.RefundAmounts
import AfricaFrontier.Kora.PayoutExecutable
import AfricaFrontier.Payments.Simulation
import AfricaFrontier.Payments.SandboxIntent
import AfricaFrontier.Python.DecimalText
import AfricaFrontier.Payments.AzaClient
import AfricaFrontier.Payments.PublicPreview
import AfricaFrontier.Payments.PreviewDisplay
import AfricaFrontier.Support.Incidents
import AfricaFrontier.Lib.Pages
import AfricaFrontier.Python.Words
import AfricaFrontier.Trading.Instruments
import AfricaFrontier.Lib.Roulette
import AfricaFrontier.MarketGateway.BrokerRouter
import AfricaFrontier.Lib.Sessions
import AfricaFrontier.MarketGateway.MarketRegistry
import AfricaFrontier.Payments.DerivedKeys
import AfricaFrontier.Python.Query
import AfricaFrontier.Python.Url
import AfricaFrontier.Config.DatabaseUrl
import AfricaFrontier.Auth.SignIns
import AfricaFrontier.Auth.BearerHistories
import AfricaFrontier.MarketGateway.AlpacaBroker
import AfricaFrontier.Lib.Dialogue
import AfricaFrontier.Kora.KoraCalls
import AfricaFrontier.Scripts.Sandbox
import AfricaFrontier.Scripts.RefundRunner
import AfricaFrontier.Scripts.Integration
import AfricaFrontier.Python.JsonText
import AfricaFrontier.Python.JsonScan
import AfricaFrontier.Python.JsonRoundTrip
import AfricaFrontier.Python.JsonOrder
import AfricaFrontier.Kora.SignedText
import AfricaFrontier.EventBus.Events
import AfricaFrontier.EventBus.EventWorker
import AfricaFrontier.MarketGateway.BrokerLinks
import AfricaFrontier.MarketGateway.BrokerActivities
import AfricaFrontier.Kora.FailureAlerts
import AfricaFrontier.PlatformManager.KeyLifetimes
import AfricaFrontier.Auth.TransferGate
import AfricaFrontier.EasyMarkets.DollarRoundTrip
