import StateMachine.Main
import StateMachine.Proofs.Adding
import StateMachine.Proofs.Assoc
import StateMachine.Proofs.Bare
import StateMachine.Proofs.Sorting
import StateMachine.Proofs.Workspace
import StateMachine.Proofs.Consistency
import StateMachine.Proofs.Extracting
import StateMachine.Proofs.Building
import StateMachine.Proofs.Operations
import StateMachine.Proofs.Numbering
import StateMachine.Proofs.Resolving
import StateMachine.Proofs.Renumbering
import StateMachine.Proofs.Ordering
import StateMachine.Proofs.Validity
import StateMachine.Proofs.DeclaredArcs
import StateMachine.Proofs.StateByState
import StateMachine.Proofs.Agreement
import StateMachine.Proofs.Collecting
import StateMachine.Proofs.Touching
import StateMachine.Proofs.Endpoints
import StateMachine.Proofs.Cloning
import StateMachine.Proofs.Selecting
import StateMachine.Proofs.Clashing
import StateMachine.Proofs.Simulation
import StateMachine.Proofs.Firing
import StateMachine.Proofs.Extracted
import StateMachine.Proofs.Holding
import StateMachine.Proofs.SelfContained
import StateMachine.Proofs.Repeating
import StateMachine.Proofs.Placing
import StateMachine.Proofs.Handing
import StateMachine.Proofs.Inheriting
import StateMachine.Proofs.Failing
import StateMachine.Proofs.Closing
import StateMachine.Proofs.Lookups
import StateMachine.Proofs.Deciding
import StateMachine.Proofs.Preserving
import StateMachine.Proofs.Asking
import StateMachine.Proofs.History
import StateMachine.Proofs.Registering
import StateMachine.Proofs.Enumerating
import StateMachine.Proofs.Covering
import StateMachine.Proofs.Searching
import StateMachine.Proofs.Branching
import StateMachine.Proofs.Skipping
import StateMachine.Proofs.Colliding
import StateMachine.Proofs.Finding
import StateMachine.Proofs.Mirroring
import StateMachine.Proofs.Reordering
import StateMachine.Proofs.Specifying
import StateMachine.Proofs.Making
import StateMachine.Proofs.Describing
import StateMachine.Proofs.Typing
import StateMachine.Proofs.Lining
import StateMachine.Proofs.Stripping
import StateMachine.Proofs.Spelling
import StateMachine.Proofs.Batching
import StateMachine.Proofs.Journaling
import StateMachine.Proofs.Accounting
import StateMachine.Proofs.Recounting
import StateMachine.Proofs.Rendering
import StateMachine.Proofs.Regenerating
import StateMachine.Proofs.Labelling
import StateMachine.Proofs.Expanding
import StateMachine.Proofs.Confusing
import StateMachine.Proofs.Sharing
import StateMachine.Proofs.Commenting
import StateMachine.Proofs.Blending
import StateMachine.Proofs.Naming
import StateMachine.Proofs.Accompanying
import StateMachine.Proofs.Escaping
import StateMachine.Proofs.Opening
import StateMachine.Proofs.Enclosing
import StateMachine.Proofs.Wrapping
import StateMachine.Proofs.Accepting
import StateMachine.Proofs.Folding
import StateMachine.Proofs.Joining
import StateMachine.Proofs.Tagging
import StateMachine.Proofs.Uppercasing
import StateMachine.Proofs.Defaulting
import StateMachine.Proofs.Disguising
