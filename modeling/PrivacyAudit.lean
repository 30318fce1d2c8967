import PrivacyAudit.Main
import PrivacyAudit.Proofs.Batches
import PrivacyAudit.Proofs.Merging
import PrivacyAudit.Proofs.FreshReport
import PrivacyAudit.Proofs.Parallel
import PrivacyAudit.Proofs.Session
import PrivacyAudit.Proofs.Transparency
import PrivacyAudit.Proofs.Tree
import PrivacyAudit.Proofs.Walking
import PrivacyAudit.Proofs.Collecting
import PrivacyAudit.Proofs.Occurring
import PrivacyAudit.Proofs.Denotation
import PrivacyAudit.Proofs.Describing
import PrivacyAudit.Proofs.AnyDepth
import PrivacyAudit.Proofs.Reaching
import PrivacyAudit.Proofs.Contributions
import PrivacyAudit.Proofs.Routing
import PrivacyAudit.Proofs.Registering
import PrivacyAudit.Proofs.Quoting
import PrivacyAudit.Proofs.Rereading
import PrivacyAudit.Proofs.Telling
import PrivacyAudit.Proofs.Scoring
import PrivacyAudit.Proofs.Fingerprinting
import PrivacyAudit.Proofs.Capacity
import PrivacyAudit.Proofs.History
import PrivacyAudit.Proofs.Refusing
import PrivacyAudit.Proofs.Uniting
import PrivacyAudit.Proofs.Accounting
import PrivacyAudit.Proofs.Surrounding
import PrivacyAudit.Proofs.Sizing
import PrivacyAudit.Proofs.Plain
import PrivacyAudit.Proofs.BuiltIn
import PrivacyAudit.Proofs.Isolating
import PrivacyAudit.Proofs.Relocating
import PrivacyAudit.Proofs.Queueing
import PrivacyAudit.Proofs.Tagging
import PrivacyAudit.Proofs.Dropping
import PrivacyAudit.Proofs.Preferring
import PrivacyAudit.Proofs.Attempting
import PrivacyAudit.Proofs.Holding
import PrivacyAudit.Proofs.Extracting
import PrivacyAudit.Proofs.Declaring
import PrivacyAudit.Proofs.Lowering
import PrivacyAudit.Proofs.Markup
import PrivacyAudit.Proofs.Sourcing
import PrivacyAudit.Proofs.Listing
import PrivacyAudit.Proofs.Overriding
import PrivacyAudit.Proofs.Pruning
import PrivacyAudit.Proofs.Pairing
import PrivacyAudit.Proofs.Quotients
import PrivacyAudit.Proofs.Gating
import PrivacyAudit.Proofs.Numerals
import PrivacyAudit.Proofs.Hashing
import PrivacyAudit.Proofs.Assembling
import PrivacyAudit.Proofs.Writing
import PrivacyAudit.Proofs.Running
