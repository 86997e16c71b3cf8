import CempMobile.Lib.Program
import CempMobile.Lib.Runs
import CempMobile.Lib.Conforms
import CempMobile.Lib.Pool
import CempMobile.Lib.Table
import CempMobile.Database.MessageStates
import CempMobile.Core.Codec
import CempMobile.Ckb.Types
import CempMobile.Database.Messages
import CempMobile.Database.OutgoingTransactions
import CempMobile.Database.Balances
import CempMobile.Database.Attachments
import CempMobile.Database.Contacts
import CempMobile.Database.Store
import CempMobile.Ckb.Monitor
import CempMobile.Ckb.Publisher
import CempMobile.Ckb.Lifecycle
import CempMobile.Ckb.Incoming
import CempMobile.Images.Manifest
import CempMobile.Sync.PendingTransactions
import CempMobile.Ckb.Local
import CempMobile.Ckb.Acknowledgements
import CempMobile.Sync.Content
import CempMobile.Sync.Senders
import CempMobile.App.DatabaseKey
import CempMobile.Database.Journal
import CempMobile.Wallet.World
import CempMobile.Wallet.Activity
import CempMobile.Sync.Discovery
import CempMobile.Sync.Completeness
import CempMobile.Ckb.Idempotence
import CempMobile.Ckb.Responder
import CempMobile.Sync.Responses
import CempMobile.Sync.Reingest
import CempMobile.Lib.Crash
import CempMobile.Database.Rows
import CempMobile.Database.Standing
import CempMobile.Ckb.PublisherSteps
import CempMobile.Sync.ResponseFailures
import CempMobile.Sync.Advance
import CempMobile.Sync.Settlement
import CempMobile.Sync.Transports
import CempMobile.Sync.Recovery
import CempMobile.Ckb.ReclaimSteps
import CempMobile.Ckb.ReclaimBatch
import CempMobile.Ckb.ReclaimPass
import CempMobile.Ckb.ReclaimSafety
import CempMobile.Core.Json
import CempMobile.Lora.Transport
import CempMobile.Sync.Workers
import CempMobile.Images.Reclaim
import CempMobile.Sync.GroupReclaim
import CempMobile.Sync.Downloads
import CempMobile.Sync.LoraPoll
import CempMobile.Sync.Passes
import CempMobile.Sync.Finalization
import CempMobile.Sync.ResponseRuns
import CempMobile.Images.SendMessage
import CempMobile.Ckb.Resume
import CempMobile.Images.Reservation
import CempMobile.Ckb.PublishPhases
import CempMobile.Images.Uploads
import CempMobile.Images.Sealing
import CempMobile.App.ImageSend
import CempMobile.App.Messaging
import CempMobile.App.ImageRuns
import CempMobile.App.ImageRetries
import CempMobile.App.ChunkRows
import CempMobile.App.Profiles
import CempMobile.App.ProfileRuns
import CempMobile.Core.ProfileTrust
import CempMobile.Ckb.RotationVerify
import CempMobile.Database.Ledger
import CempMobile.Ckb.ReceiptOrder
import CempMobile.Database.Adapter
import CempMobile.Database.WorkerLeases
import CempMobile.Sync.Leases
import CempMobile.Sync.ScanWindow
import CempMobile.Lib.Chunks
import CempMobile.Lib.Binary64
import CempMobile.Images.Prepare
import CempMobile.Images.Receive
import CempMobile.Lib.Molecule
import CempMobile.Lib.MolCodec
import CempMobile.Core.Codecs
import CempMobile.Core.Canonical
import CempMobile.Lib.Calls
import CempMobile.Ckb.PublishRuns
import CempMobile.Ckb.EnvelopeIds
import CempMobile.Ckb.Abandonment
import CempMobile.Lib.Framing
import CempMobile.Ckb.Cighash
import CempMobile.Ckb.CighashStream
import CempMobile.Lib.Results
import CempMobile.Vault.Format
import CempMobile.Vault.FormatRoundTrip
import CempMobile.Vault.Impl
import CempMobile.Vault.World
import CempMobile.Vault.States
import CempMobile.Vault.Creation
import CempMobile.Vault.Device
import CempMobile.Vault.FileInvariant
import CempMobile.Vault.FileHistory
import CempMobile.Lib.Relabel
import CempMobile.Vault.Finality
import CempMobile.Vault.SlotUpdates
import CempMobile.Ckb.ClientWire
import CempMobile.Ckb.ClientRoundTrip
import CempMobile.Ckb.TransferHistory
import CempMobile.Ckb.TransferHistoryRuns
import CempMobile.Core.Validate
import CempMobile.Crypto.Envelope
import CempMobile.Lib.MolSize
import CempMobile.Crypto.EnvelopeRoundTrip
import CempMobile.Lib.Utf8
import CempMobile.Ckb.MessageWire
import CempMobile.Ckb.MessageRoundTrip
import CempMobile.Contracts.MessageType
import CempMobile.Ckb.MessageCells
import CempMobile.Ckb.Consolidate
import CempMobile.Sync.GenuineObjects
import CempMobile.Images.Download
import CempMobile.Database.Listing
import CempMobile.Ckb.RateLimitRuns
import CempMobile.Ckb.SigningSound
import CempMobile.App.ImagePreflight
import CempMobile.Core.PngRoundTrip
import CempMobile.Lora.Crc32
import CempMobile.Sync.Endpoints
import CempMobile.App.ForegroundSync
import CempMobile.Database.AsyncMutex
import CempMobile.Database.AdapterMutex
import CempMobile.Database.Migrate
import CempMobile.Lib.Chains
import CempMobile.Database.ProfileLineage
import CempMobile.App.RouteTagCache
import CempMobile.App.BackgroundSync
import CempMobile.App.Readiness
import CempMobile.Vault.FormatBytes
import CempMobile.Lib.InsertionOrder
import CempMobile.App.PeriodicTick
import CempMobile.App.TickRuns
import CempMobile.App.HeadlessTask
import CempMobile.App.HeadlessRuns
import CempMobile.App.HeadlessSignals
import CempMobile.Core.Fingerprint
import CempMobile.Core.ContactBundle
import CempMobile.Core.ContactImport
import CempMobile.Core.CardImage
import CempMobile.App.ContactCards
import CempMobile.Core.Text
import CempMobile.Sync.Retries
import CempMobile.App.QrScanner
import CempMobile.App.ImageHandles
import CempMobile.App.KeyStores
import CempMobile.Lib.Shuffle
import CempMobile.Vault.Quiz
