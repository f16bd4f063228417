import PathTemplates.Environment
import PathTemplates.Session
import PathTemplates.Proofs.Forms
import PathTemplates.Proofs.Names
import PathTemplates.Proofs.Entries
import PathTemplates.Proofs.View
import PathTemplates.Proofs.Grammar
import PathTemplates.Proofs.Compile
import PathTemplates.Proofs.Runs
import PathTemplates.Proofs.Table
import PathTemplates.Proofs.Answers
import PathTemplates.Proofs.Percent
import PathTemplates.Proofs.Pieces
import PathTemplates.Proofs.Tokens
import PathTemplates.Proofs.Canonical
import PathTemplates.Proofs.Paths
import PathTemplates.Proofs.Deletion
import PathTemplates.Proofs.Recency
import PathTemplates.Proofs.Redeclaring
import PathTemplates.Proofs.Spelling
import PathTemplates.Proofs.Keys
import PathTemplates.Proofs.Listing
import PathTemplates.Proofs.Stability
import PathTemplates.Proofs.Trimming
import PathTemplates.Proofs.Outcome
import PathTemplates.Proofs.Reach
import PathTemplates.Proofs.Decoding
import PathTemplates.Proofs.Bytewise
import PathTemplates.Proofs.Derived
import PathTemplates.Proofs.Recovery
import PathTemplates.Proofs.Reading
import PathTemplates.Proofs.Escapes
import PathTemplates.Proofs.Brackets
import PathTemplates.Proofs.Items
import PathTemplates.Proofs.Branches
import PathTemplates.Proofs.Proper
import PathTemplates.Proofs.Anchoring
import PathTemplates.Proofs.Indifference
import PathTemplates.Proofs.Restating
import PathTemplates.Proofs.Shortening
import PathTemplates.Proofs.Minimizing
import PathTemplates.Proofs.Widening
import PathTemplates.Proofs.Implied
import PathTemplates.Proofs.Attribution
import PathTemplates.Proofs.Screening
import PathTemplates.Proofs.Cut
import PathTemplates.Proofs.Telling
import PathTemplates.Proofs.Numerals
import PathTemplates.Proofs.Sameness
import PathTemplates.Proofs.Documents
import PathTemplates.Proofs.Settings
