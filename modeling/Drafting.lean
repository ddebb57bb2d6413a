import Drafting.Main
import Drafting.Plane.Distance
import Drafting.Constraint.Kind
import Drafting.Session
import Drafting.Proofs.Comparison.Binary64
import Drafting.Proofs.Connectivity
import Drafting.Proofs.ArenaValues
import Drafting.Proofs.ComponentColumns
import Drafting.Proofs.Walk
import Drafting.Proofs.Iteration
import Drafting.Proofs.Solving
import Drafting.Proofs.Guarded
import Drafting.Proofs.Guarded.Search
import Drafting.Proofs.Guarded.Equations
import Drafting.Proofs.Guarded.Iteration
import Drafting.Proofs.Guarded.Solving
import Drafting.Proofs.DepthFirst.Transport
import Drafting.Proofs.Connectivity.Embedding
import Drafting.Proofs.Lint
import Drafting.Proofs.Walk.Sequence
import Drafting.Proofs.Concatenation
import Drafting.Proofs.Reordering
import Drafting.Proofs.Repetition
import Drafting.Proofs.Measurement
import Drafting.Proofs.Renaming.Columns
import Drafting.Proofs.Renaming
import Drafting.Proofs.Acceptance
import Drafting.Proofs.Relaxation
import Drafting.Proofs.Observation
import Drafting.Proofs.LeastSquares
import Drafting.Proofs.Derivatives
import Drafting.Proofs.LinearSystems
import Drafting.Proofs.Lint.Causes
import Drafting.Proofs.Conflict
import Drafting.Proofs.Negation
import Drafting.Proofs.DistanceSign
import Drafting.Proofs.Declarations
import Drafting.Proofs.Meaning
import Drafting.Proofs.Grammar
import Drafting.Proofs.Document
import Drafting.Proofs.Document.Layout
import Drafting.Proofs.Building
import Drafting.Proofs.Allocation
import Drafting.Proofs.Guarded.Drawing
import Drafting.Proofs.Rearrangement
import Drafting.Proofs.Building.Draining
import Drafting.Proofs.Reports
import Drafting.Proofs.Session
import Drafting.Proofs.Unmentioned
import Drafting.Proofs.DepthFirst.Recursion
import Drafting.Proofs.Connectivity.Preorder
import Drafting.Proofs.Iteration.Endings
import Drafting.Proofs.Derivatives.Expansion
import Drafting.Proofs.CommandLine
import Drafting.Proofs.LeastSquares.Uniqueness
import Drafting.Proofs.Lint.Exactness
import Drafting.Proofs.LeastSquares.Existence
import Drafting.Proofs.Freedom.Directions
import Drafting.Proofs.Freedom.Truth
import Drafting.Proofs.Iteration.Unknowns
import Drafting.Proofs.LevelBar
import Drafting.Proofs.LevelBar.Side
import Drafting.Proofs.UseLists.Recording
import Drafting.Proofs.ComponentColumns.FirstMention
import Drafting.Proofs.ComponentColumns.Evaluation
