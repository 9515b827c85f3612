import SubstrateDevTemplate.Support.Runs
import SubstrateDevTemplate.Support.Script
import SubstrateDevTemplate.Support.Decimal
import SubstrateDevTemplate.Transfer.Amount
import SubstrateDevTemplate.Service.Definitions
import SubstrateDevTemplate.Service.Steps
import SubstrateDevTemplate.Service.Leaks
import SubstrateDevTemplate.Service.Agreement
import SubstrateDevTemplate.Context.Definitions
import SubstrateDevTemplate.Context.Agreement
import SubstrateDevTemplate.Service.Serial
import SubstrateDevTemplate.Service.Manager
import SubstrateDevTemplate.Context.Readiness
import SubstrateDevTemplate.Extrinsics.Definitions
import SubstrateDevTemplate.Extrinsics.Steps
import SubstrateDevTemplate.Extrinsics.Arguments
import SubstrateDevTemplate.Extrinsics.Arity
import SubstrateDevTemplate.ChainState.Definitions
import SubstrateDevTemplate.ParamInput.Agreement
import SubstrateDevTemplate.Runtime.WeightToFee
import SubstrateDevTemplate.Support.Number
import SubstrateDevTemplate.Transfer.Definitions
import SubstrateDevTemplate.Transfer.Percentage
import SubstrateDevTemplate.Transfer.Steps
import SubstrateDevTemplate.Submission.Protocol
import SubstrateDevTemplate.Submission.Lifecycle
import SubstrateDevTemplate.Submission.Outcome
import SubstrateDevTemplate.ChainState.Results
import SubstrateDevTemplate.Transfer.Balance
import SubstrateDevTemplate.Extrinsics.Units
import SubstrateDevTemplate.Support.Objects
import SubstrateDevTemplate.Catalogue.Definitions
import SubstrateDevTemplate.Catalogue.Complete
import SubstrateDevTemplate.Catalogue.Arity
import SubstrateDevTemplate.Support.Promise
import SubstrateDevTemplate.Support.Json
import SubstrateDevTemplate.Proxy.Definitions
import SubstrateDevTemplate.Proxy.Steps
import SubstrateDevTemplate.Proxy.Relay
import SubstrateDevTemplate.Proxy.Release
import SubstrateDevTemplate.Extrinsics.Lists
import SubstrateDevTemplate.Service.Reuse
import SubstrateDevTemplate.Context.Attempts
import SubstrateDevTemplate.Wallet.Definitions
import SubstrateDevTemplate.Wallet.Failures
import SubstrateDevTemplate.App.Chain
import SubstrateDevTemplate.App.Once
import SubstrateDevTemplate.App.Shown
import SubstrateDevTemplate.Context.OneAttempt
import SubstrateDevTemplate.Context.Settling
import SubstrateDevTemplate.EndpointSelector.Button
import SubstrateDevTemplate.EndpointSelector.Origins
import SubstrateDevTemplate.Extrinsics.Wallet
import SubstrateDevTemplate.Transfer.Wallet
import SubstrateDevTemplate.Wallet.Calls
import SubstrateDevTemplate.Runtime.Splitting
import SubstrateDevTemplate.App.Accounts
import SubstrateDevTemplate.Proxy.Settling
import SubstrateDevTemplate.Transfer.Form
import SubstrateDevTemplate.App.Typed
