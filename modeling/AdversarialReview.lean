import AdversarialReview.Proofs.Finalization.QueueOrder
import AdversarialReview.Proofs.Finalization.SingleWriter
import AdversarialReview.Proofs.NextAction.Deadlines
import AdversarialReview.Proofs.NextAction.Stops
import AdversarialReview.Proofs.NextAction.LostEvidence
import AdversarialReview.Gate.Decision
import AdversarialReview.Finalization.ExecutionSlices
import AdversarialReview.Argus.Verdict
import AdversarialReview.Proofs.Pipeline.Finality
import AdversarialReview.Proofs.Argus.Claim
import AdversarialReview.Proofs.Argus.Store
import AdversarialReview.Proofs.Fairness.Scheduler
import AdversarialReview.Burst.Lease
import AdversarialReview.Ama.Closure
import AdversarialReview.Ama.AutomatedRecovery
import AdversarialReview.Proofs.Ama.PreReceiptIntent
import AdversarialReview.MergeLease.MutationLock
import AdversarialReview.Proofs.Ama.LaunchRefunds
import AdversarialReview.Proofs.MergeLease.Accounts
import AdversarialReview.Proofs.Ama.LeaseOwners
import AdversarialReview.ReviewState.ExplicitReviewIntent
import AdversarialReview.ReviewState.StatusGraph
import AdversarialReview.Fairness.NoProgressLane
import AdversarialReview.Proofs.Duplicates.Closeouts
import AdversarialReview.Repository.Rename
import AdversarialReview.FollowUp.ReviewClaim
import AdversarialReview.FollowUp.RoundBudget
import AdversarialReview.Proofs.FollowUp.JobBuckets
import AdversarialReview.FollowUp.CommentDelivery
import AdversarialReview.Proofs.Governance.ConfigSource
import AdversarialReview.Governance.GateStore
import AdversarialReview.Proofs.Attestation.ReviewedQueue
import AdversarialReview.Alerts.Delivery
import AdversarialReview.Proofs.FollowUp.ReplyCoverage
import AdversarialReview.FollowUp.RereviewWake
import AdversarialReview.FastMerge.Processing
import AdversarialReview.Review.Verdict
import AdversarialReview.Proofs.Dispatch.QueueEnds
import AdversarialReview.Throttle.Observations
import AdversarialReview.MergeLease.Paths
import AdversarialReview.Proofs.Fairness.Rotation
import AdversarialReview.Ama.AttestationChain
import AdversarialReview.Proofs.Ama.LeaseCarrying
import AdversarialReview.Proofs.Ama.LedgerOperations
import AdversarialReview.Proofs.Finalization.QueueAdmission
import AdversarialReview.Proofs.Cascade.Alerts
import AdversarialReview.Proofs.Cascade.TokenHold
import AdversarialReview.Proofs.Cascade.TimeoutBudget
import AdversarialReview.Gate.CheckRollup
import AdversarialReview.Duplicates.ContentEvidence
import AdversarialReview.Finalization.HandoffText
import AdversarialReview.Review.AdditiveOnlyScope
import AdversarialReview.Proofs.Pipeline.Staleness
import AdversarialReview.Review.FenceMask
import AdversarialReview.Ama.PrimaryChange
import AdversarialReview.Broker.TokenBroker
import AdversarialReview.Proofs.Finalization.LaneFences
import AdversarialReview.Proofs.Finalization.LaneLocks
