import YandexPay.Library.Transition
import YandexPay.Library.Table
import YandexPay.Library.Tx
import YandexPay.Library.Traverse
import YandexPay.Library.Dict
import YandexPay.Library.Grouping
import YandexPay.Library.Decimal
import YandexPay.Library.PyDecimal
import YandexPay.Library.PyDecimalQuantize
import YandexPay.Library.PyDecimalText
import YandexPay.Library.RevisionLock
import YandexPay.Library.LockProgress
import YandexPay.Library.LockGraph
import YandexPay.Library.JsValue
import YandexPay.Library.JsNumber
import YandexPay.Library.GoOutcome
import YandexPay.Library.Base64
import YandexPay.Library.NetUrl
import YandexPay.Library.PrefixCode
import YandexPay.Library.HexDigest
import YandexPay.Library.HttpHandler
import YandexPay.Library.OpenRequests
import YandexPay.Library.Saga
import YandexPay.Library.StableSort
import YandexPay.Library.BlockMode
import YandexPay.Library.Der
import YandexPay.Library.Delimited
import YandexPay.Library.JsUri
import YandexPay.Library.JsObject
import YandexPay.Library.PyNumberText
import YandexPay.Library.PyFloat
import YandexPay.Library.PyJson
import YandexPay.Library.GlobalMatch
import YandexPay.Library.Traversals
import YandexPay.Library.JsDate
import YandexPay.Library.WhileLoop
import YandexPay.Library.MixedRadix
import YandexPay.Library.Recent
import YandexPay.BillPayments.Kazna
import YandexPay.BillPayments.Entities
import YandexPay.BillPayments.Storage
import YandexPay.BillPayments.Documents
import YandexPay.BillPayments.Search
import YandexPay.BillPayments.Charges
import YandexPay.BillPayments.Completion
import YandexPay.BillPayments.Orders
import YandexPay.BillPayments.Transactions
import YandexPay.BillPayments.Amounts
import YandexPay.BillPayments.Locks
import YandexPay.BillPayments.Webhook
import YandexPay.BillPayments.Progress
import YandexPay.BillPayments.Machine
import YandexPay.BillPayments.Notifications
import YandexPay.BillPayments.Ledger
import YandexPay.BillPayments.PaymentStates
import YandexPay.BillPayments.Settlement
import YandexPay.BillPayments.SearchProtocol
import YandexPay.BillPayments.SearchLaws
import YandexPay.BillPayments.SearchProgress
import YandexPay.BillPayments.Charging
import YandexPay.Connections.Listener
import YandexPay.Connections.Url
import YandexPay.Connections.SetSearchParams
import YandexPay.Connections.DataUrl
import YandexPay.Connections.Manager
import YandexPay.PaymentToken.Token
import YandexPay.PaymentToken.Certificate
import YandexPay.PaymentToken.Recipient
import YandexPay.PaymentToken.RecipientKeyVerifier
import YandexPay.PaymentToken.Panics
import YandexPay.PaymentToken.RootKeys
import YandexPay.PaymentToken.Sender
import YandexPay.PaymentToken.LengthValue
import YandexPay.PaymentToken.RoundTrip
import YandexPay.PaymentToken.KeyOrder
import YandexPay.PaymentToken.Message
import YandexPay.Visa.Signer
import YandexPay.Visa.Verifier
import YandexPay.Mastercard.KeysManager
import YandexPay.Mastercard.KeysAgreement
import YandexPay.Mastercard.EncryptCard
import YandexPay.Server.Checkout
import YandexPay.Server.Agreement
import YandexPay.Server.Responses
import YandexPay.Server.Handlers
import YandexPay.Server.OneResponse
import YandexPay.Server.Enrollment
import YandexPay.Pkcs7.Encrypt
import YandexPay.Pkcs7.Envelope
import YandexPay.Server.EncryptedCard
import YandexPay.Psp.Currency
import YandexPay.Psp.Payture
import YandexPay.Psp.CustomFields
import YandexPay.Psp.Uniteller
import YandexPay.Psp.Amounts
import YandexPay.Checkout.Orders
import YandexPay.Checkout.Totals
import YandexPay.Checkout.ServerApi
import YandexPay.Checkout.LastRender
import YandexPay.Checkout.Process
import YandexPay.Checkout.Cashback
import YandexPay.Checkout.Coupons
import YandexPay.Checkout.Breakdown
import YandexPay.PayForm.Checkout
import YandexPay.PayForm.Watcher
import YandexPay.Intercom.RpcQueue
import YandexPay.Intercom.Rpc
import YandexPay.Sdk.Payment
import YandexPay.Fetch.Retry
import YandexPay.Console.PartnerSubmit
import YandexPay.Entities.Cart
import YandexPay.Utils.Uaas
import YandexPay.Utils.EventEmitter
import YandexPay.Utils.Move
import YandexPay.Utils.Combine
import YandexPay.CheckoutForm.Pickup
import YandexPay.CheckoutForm.PickupStore
import YandexPay.CheckoutForm.PickupCatalog
import YandexPay.CheckoutForm.PickupStatus
import YandexPay.CheckoutForm.PaymentSafety
import YandexPay.CheckoutForm.Shippings
import YandexPay.CheckoutForm.Slots
import YandexPay.CheckoutForm.Cheapest
import YandexPay.Frontend.Render
import YandexPay.Sprints.GetSprints
