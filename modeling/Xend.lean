import Xend.Sponsorship
import Xend.Submit
import Xend.SubmitRuns
import Xend.Validation
import Xend.ExactlyOnce
import Xend.Resubmission
import Xend.Provenance
import Xend.Isolation
import Xend.BlindRetry
import Xend.ApiRuns
import Xend.WalletEndpoints
import Xend.LedgerTruth
import Xend.Bip39Wordlist
import Xend.BitText
import Xend.Mnemonic
import Xend.PhraseSpelling
import Xend.Device
import Xend.SecureSigner
import Xend.KeyStore
import Xend.Provisioning
import Xend.BackendClient
import Xend.XendWallet
import Xend.StartUp
import Xend.Creation
import Xend.Retention
import Xend.BuildEndpoint
import Xend.SigningBoundary
import Xend.Assembly
import Xend.Numeral
import Xend.AddressText
import Xend.PhraseCodec
import Xend.ChainReads
import Xend.FixedWindow
import Xend.Gateway
import Xend.CompleteHistory
import Xend.Registration
import Xend.Exclusion
import Xend.ConcurrentCalls
import Xend.RateLimiter
import Xend.Outsiders
import Xend.Rejection
import Xend.Paging
import Xend.HistoryPages
import Xend.BuildFidelity
import Xend.NameCase
import Xend.Deletion
import Xend.SeedVault
import Xend.TypedFailures
import Xend.Watch
import Xend.Varint
import Xend.Wire
import Xend.Pbkdf2
import Xend.SeedDerivation
import Xend.RetryHint
import Xend.Channel
import Xend.Keychain
import Xend.Authentication
import Xend.FormText
import Xend.Routes
import Xend.Conformance
import Xend.ServiceRuns
import Xend.Deployment
import Xend.Payment
import Xend.SendTrace
import Xend.LedgerOrder
import Xend.History
import Xend.Retry
import Xend.Recovery
