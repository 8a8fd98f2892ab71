import PostSieve.Main
import PostSieve.Sample
import PostSieve.Proofs.Scanning
import PostSieve.Proofs.Grammar
import PostSieve.Proofs.Reading
import PostSieve.Proofs.Balance
import PostSieve.Proofs.Conditions
import PostSieve.Proofs.Acceptance
import PostSieve.Proofs.Shape
import PostSieve.Proofs.Spelling
import PostSieve.Proofs.Evaluation
import PostSieve.Proofs.Duality
import PostSieve.Proofs.Dependence
import PostSieve.Proofs.TokenPatterns
import PostSieve.Proofs.Tiling
import PostSieve.Proofs.Program
import PostSieve.Proofs.ArchiveTexts
import PostSieve.Proofs.Composition
import PostSieve.Proofs.Lockstep
import PostSieve.Proofs.Spacing
import PostSieve.Proofs.Loading
import PostSieve.Proofs.Results
import PostSieve.Proofs.Complement
import PostSieve.Proofs.Cursors
import PostSieve.Proofs.Reuse
import PostSieve.Proofs.Timestamps
import PostSieve.Proofs.PostTexts
import PostSieve.Proofs.Months
import PostSieve.Proofs.Faults
import PostSieve.Proofs.GrammarErrors
import PostSieve.Proofs.Parentheses
import PostSieve.Proofs.ErrorPlaces
import PostSieve.Proofs.FirstFaults
import PostSieve.Proofs.AgeTexts
import PostSieve.Proofs.CountingBack
import PostSieve.Proofs.PassingTime
import PostSieve.Proofs.LongerAges
import PostSieve.Proofs.SingleConditions
import PostSieve.Proofs.CalendarDates
import PostSieve.Proofs.AgedPosts
import PostSieve.Proofs.OuterParens
import PostSieve.Proofs.Consumption
import PostSieve.Proofs.Counts
import PostSieve.Proofs.CallDepth
import PostSieve.Proofs.KindOrder
import PostSieve.Proofs.UnmatchedParens
import PostSieve.Proofs.LineBreaks
import PostSieve.Proofs.Outlines
import PostSieve.Proofs.OutlineTrees
import PostSieve.Proofs.Clock
import PostSieve.Proofs.Leaves
import PostSieve.Proofs.SingleTests
import PostSieve.Proofs.Traversals
import PostSieve.Proofs.Calls
import PostSieve.Proofs.Progress
