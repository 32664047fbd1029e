import ActivityFeed.Consumer
import ActivityFeed.Proofs.Broadcast
import ActivityFeed.Proofs.Freshness
import ActivityFeed.Proofs.Gaps
import ActivityFeed.Proofs.Interleaving
import ActivityFeed.Proofs.Listening
import ActivityFeed.Proofs.Meanwhile
import ActivityFeed.Proofs.Steadiness
import ActivityFeed.Wire
import ActivityFeed.Proofs.Grammar
import ActivityFeed.Proofs.Parsing
import ActivityFeed.Proofs.Encoding
import ActivityFeed.Proofs.WireFormat
import ActivityFeed.Proofs.Forms
import ActivityFeed.Proofs.Relation
import ActivityFeed.Proofs.Merging
import ActivityFeed.Proofs.Conversion
import ActivityFeed.Proofs.Owners
import ActivityFeed.Proofs.LaterCursor
import ActivityFeed.Proofs.Integers
import ActivityFeed.Proofs.Loading
import ActivityFeed.Proofs.Damage
import ActivityFeed.Proofs.Rounding
