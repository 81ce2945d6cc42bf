import AuthApi.Model.Schema
import AuthApi.Properties.RoleAssignment
import AuthApi.Properties.Revocation
import AuthApi.Properties.StaleTokens
import AuthApi.Properties.RefreshRotation
import AuthApi.Properties.LoginState
import AuthApi.Properties.ClientSecret
import AuthApi.Properties.DefaultRole
import AuthApi.Properties.Callbacks
import AuthApi.Properties.CallbackOutcome
import AuthApi.Encoding.Base64
import AuthApi.Encoding.Sha256
import AuthApi.Encoding.QueryStrings
import AuthApi.Properties.Privileges
import AuthApi.Properties.Timestamps
import AuthApi.Properties.RateLimiting
import AuthApi.Properties.ClientAddress
import AuthApi.Properties.PasswordGuesses
import AuthApi.Properties.LoginHistories
import AuthApi.Properties.Bootstrap
import AuthApi.Properties.TokenAgreement
import AuthApi.Properties.PasswordStore
import AuthApi.Properties.RetryAfter
import AuthApi.Properties.DeviceIds
import AuthApi.Properties.ProviderReplies
import AuthApi.Properties.FailedRenewals
import AuthApi.Properties.ServiceCalls
import AuthApi.Properties.SessionIsolation
import AuthApi.Properties.LoginPages
import AuthApi.Properties.RoleEdits
import AuthApi.Properties.Identities
import AuthApi.Properties.Emails
import AuthApi.Properties.RedisKeys
import AuthApi.Properties.RoleRaces
import AuthApi.Properties.DefaultRoleCalls
import AuthApi.Properties.Scrubbing
import AuthApi.Properties.ServiceRefinement
import AuthApi.Properties.HttpContract
import AuthApi.Properties.FailedRequests
import AuthApi.Properties.AcknowledgedWrites
import AuthApi.Properties.Progress
import AuthApi.Properties.AccountChanges
import AuthApi.Properties.SessionOrigins
import AuthApi.Properties.LoginTrail
import AuthApi.Properties.LoginUrls
import AuthApi.Properties.RedisKeyspace
import AuthApi.Properties.RedisTexts
import AuthApi.Properties.LogFile
