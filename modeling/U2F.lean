import U2F.Lib.Machine
import U2F.Lib.Family
import U2F.Lib.Call
import U2F.Lib.ByteStream
import U2F.Lib.ExactCodec
import U2F.Lib.Replay
import U2F.Lib.Base64
import U2F.Lib.Bits
import U2F.Lib.FirstMatch
import U2F.Lib.Linked
import U2F.Lib.LoadSave
import U2F.Lib.Footprint
import U2F.Lib.OneShot
import U2F.Lib.Traverse
import U2F.Lib.TypedArray
import U2F.Lib.Tickets
import U2F.Lib.CommandApdu
import U2F.Lib.Der
import U2F.Lib.Buffer
import U2F.Lib.History
import U2F.Lib.PolynomialHash
import U2F.Lib.Reads
import U2F.Lib.JSInteger
import U2F.Lib.Sha256
import U2F.Lib.Fragments
import U2F.Lib.Labels
import U2F.Lib.Uri
import U2F.Hid.Frames
import U2F.Hid.U2Fob
import U2F.Hid.U2FobApdu
import U2F.Hid.Channels
import U2F.Nfc.U2fNfcUtil
import U2F.Nfc.OutputChaining
import U2F.Nfc.ResponseChaining
import U2F.Nfc.PrintCmdAPDU
import U2F.Java.Platform
import U2F.Codec.RawMessageCodec
import U2F.Codec.ClientDataCodec
import U2F.Server.Data
import U2F.Server.MemoryDataStore
import U2F.Server.U2FServerReferenceImpl
import U2F.Server.DataStore
import U2F.Gae.DataStoreImpl
import U2F.Server.Accept
import U2F.Server.Runs
import U2F.Server.SignRequests
import U2F.Server.TestVectors
import U2F.Hid.U2FTest
import U2F.Codec.Layouts
import U2F.Codec.SerialCodec
import U2F.Server.Keys
import U2F.Gae.Concurrency
import U2F.Gae.Users
import U2F.Server.Origins
import U2F.Server.SignedStatements
import U2F.Server.Counters
import U2F.Server.UnsignedCounters
import U2F.Server.Sessions
import U2F.Server.Registrations
import U2F.Server.AttestationTransports
import U2F.Server.AuthorizationList
import U2F.Server.AndroidKeyStoreAttestation
import U2F.Server.EqualityLaws
import U2F.Key.U2FKeyReferenceImpl
import U2F.Client.U2FClientReferenceImpl
import U2F.Extension.RequestQueue
import U2F.Extension.OriginQueues
import U2F.Client.Completeness
import U2F.Protocol.Network
import U2F.Protocol.Authenticity
import U2F.Protocol.SoftTokenSite
import U2F.Protocol.SoftTokenBrowser
import U2F.Extension.DelegatingHelper
import U2F.Extension.ChannelLock
import U2F.Extension.HidGnubbyDevice
import U2F.Extension.HidWritePump
import U2F.Extension.UsbGnubbyDevice
import U2F.Extension.UsbTransfers
import U2F.Extension.ExclusiveLock
import U2F.Extension.Gnubby
import U2F.Extension.HidFraming
import U2F.Extension.WebRequest
import U2F.Extension.Etld
import U2F.Extension.EtldOriginCheck
import U2F.Extension.JSONValue
import U2F.Extension.AppIdCheck
import U2F.Extension.AppIdExact
import U2F.Extension.B64
import U2F.Extension.B64RoundTrip
import U2F.Extension.Sha256
import U2F.Extension.Sha256Fips
import U2F.Extension.Sha256Feeding
import U2F.Extension.Watchdog
import U2F.Extension.Countdown
import U2F.Extension.Signer
import U2F.Extension.QueuedSignRequest
import U2F.Extension.Enroller
import U2F.Extension.OneAnswer
import U2F.Extension.Finished
import U2F.Extension.NeverSilent
import U2F.Extension.AppIds
import U2F.Extension.SoftToken
import U2F.Extension.SoftTokenFormat
import U2F.Extension.EcdsaSignatures
import U2F.Page.U2fApi
import U2F.Page.U2fPort
import U2F.Page.Background
import U2F.Extension.SingleSigner
import U2F.Extension.SingleSignerClosed
import U2F.Extension.SingleSignerOutcome
import U2F.Extension.SingleSignerResults
import U2F.Extension.MultipleSigner
import U2F.Extension.MultipleSignerCounts
import U2F.Extension.UsbSignHandler
import U2F.Extension.UsbSignHandlerTouch
import U2F.Extension.UsbSignHandlerAnswers
import U2F.Extension.UsbEnrollHandler
import U2F.Extension.UsbEnrollHandlerLeaks
import U2F.Extension.SignerLookup
import U2F.Extension.EnrollAnswers
import U2F.Extension.GnubbyU2f
import U2F.Extension.ClientDataHash
import U2F.Extension.GnubbyClient
import U2F.Extension.GnubbySync
import U2F.Extension.ApduReply
import U2F.Extension.GnubbyExchange
import U2F.Extension.DeviceClients
import U2F.Extension.Gnubbies
import U2F.Extension.GnubbiesWaiters
import U2F.Extension.GnubbiesRelease
