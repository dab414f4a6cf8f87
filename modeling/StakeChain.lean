import StakeChain.Amount.Basic
import StakeChain.Amount.Text
import StakeChain.Block.Basic
import StakeChain.Block.Edit
import StakeChain.Block.Json
import StakeChain.Chain.Basic
import StakeChain.Chain.Fault
import StakeChain.Chain.Proposal
import StakeChain.Config
import StakeChain.Digest.BigEndian
import StakeChain.Digest.Sha256
import StakeChain.Election.Basic
import StakeChain.Election.ChaCha
import StakeChain.Election.Source
import StakeChain.Election.Sources
import StakeChain.Error
import StakeChain.Http.MediaType
import StakeChain.Http.Path
import StakeChain.Http.Payload
import StakeChain.Http.Request
import StakeChain.Http.Route
import StakeChain.Http.Service
import StakeChain.Http.View
import StakeChain.Json.Basic
import StakeChain.Json.Printer
import StakeChain.Json.Reader
import StakeChain.Json.Record
import StakeChain.Ledger.Basic
import StakeChain.Ledger.Operation
import StakeChain.Mempool
import StakeChain.Mint
import StakeChain.Registry.Basic
import StakeChain.Registry.Quorum
import StakeChain.Registry.Validator
import StakeChain.Staking.Pool
import StakeChain.Staking.Stake
import StakeChain.Staking.Summary
import StakeChain.Table
import StakeChain.Text.Blank
import StakeChain.Text.Hex
import StakeChain.Text.Numeral
import StakeChain.Text.Percent
import StakeChain.Text.Quoted
import StakeChain.Text.Unprinted
import StakeChain.Text.Utf8
import StakeChain.Time
import StakeChain.Transaction
import StakeChain.Proofs.Chain.Growth
import StakeChain.Proofs.Chain.Integrity
import StakeChain.Proofs.Chain.Agreement
import StakeChain.Proofs.Mint.Production
import StakeChain.Proofs.Registry.Operations
import StakeChain.Proofs.Registry.Tenure
import StakeChain.Proofs.Ledger.History
import StakeChain.Proofs.Ledger.Delivery
import StakeChain.Proofs.Block.Encoding
import StakeChain.Proofs.Chain.Commitment
import StakeChain.Proofs.Staking.Operations
import StakeChain.Proofs.Staking.Conservation
import StakeChain.Proofs.Staking.Passbook
import StakeChain.Proofs.Staking.Entitlement
import StakeChain.Proofs.Chain.Origin
import StakeChain.Proofs.Staking.Release
import StakeChain.Proofs.Http.BlockCheck
import StakeChain.Proofs.Http.Production
import StakeChain.Proofs.Http.Refusal
import StakeChain.Proofs.Chain.Blame
import StakeChain.Proofs.Staking.Isolation
import StakeChain.Proofs.Registry.Attendance
import StakeChain.Proofs.Staking.Lock
import StakeChain.Proofs.Election.Draws
import StakeChain.Proofs.Mint.Attempts
import StakeChain.Proofs.Registry.Admission
import StakeChain.Proofs.Ledger.Startup
import StakeChain.Proofs.Text.Percent
import StakeChain.Proofs.Http.Path
import StakeChain.Proofs.Http.Addressing
import StakeChain.Proofs.Election.Share
import StakeChain.Proofs.Mint.Retries
import StakeChain.Proofs.Chain.Tampering
import StakeChain.Proofs.Staking.Continuity
import StakeChain.Proofs.Registry.Reordering
import StakeChain.Proofs.Registry.Tally
import StakeChain.Proofs.Registry.Majority
import StakeChain.Proofs.Http.Liveness
import StakeChain.Proofs.Staking.Rounding
import StakeChain.Proofs.Amount.Grammar
import StakeChain.Proofs.Amount.Display
import StakeChain.Proofs.Staking.Summary
