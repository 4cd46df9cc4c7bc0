import RangeSurvey.Bench
import RangeSurvey.Fleet
import RangeSurvey.Latch.Waiters
import RangeSurvey.PeerSet.Members
import RangeSurvey.Proofs.Fleet.Agreement
import RangeSurvey.Proofs.Fleet.Cycle
import RangeSurvey.Proofs.Fleet.Order
import RangeSurvey.Proofs.Fleet.Unblocked
import RangeSurvey.Proofs.Site.Atomicity
import RangeSurvey.Proofs.Site.Hooks
import RangeSurvey.Proofs.Site.OwnRow
import RangeSurvey.Proofs.Site.Refusal
import RangeSurvey.Proofs.Site.Relay
import RangeSurvey.Proofs.Site.Renewal
import RangeSurvey.Proofs.Site.Request
import RangeSurvey.Proofs.Site.SelfRange
import RangeSurvey.Proofs.Site.Slots
import RangeSurvey.Proofs.Site.Starts
import RangeSurvey.Proofs.Site.Status
import RangeSurvey.Proofs.Site.Teardown
import RangeSurvey.Proofs.Site.Unstarted
import RangeSurvey.Proofs.Slot.Rotation
import RangeSurvey.Proofs.Slot.Start
import RangeSurvey.Proofs.Station.Canonical
import RangeSurvey.Proofs.Air.Answers
import RangeSurvey.Proofs.Site.Truncation
import RangeSurvey.Proofs.Air.Audience
import RangeSurvey.Proofs.Fleet.Verdicts
import RangeSurvey.Proofs.Air.Loss
import RangeSurvey.Proofs.Site.Geometry
import RangeSurvey.Proofs.PeerSet.Walk
import RangeSurvey.Proofs.Chain.History
import RangeSurvey.Proofs.Air.Bounds
import RangeSurvey.Proofs.Site.Notes
import RangeSurvey.Proofs.Latch.Carrier
