import DicePool.Session
import DicePool.Main
import DicePool.Proofs.Reparsing
import DicePool.Proofs.Drawing
import DicePool.Proofs.Script
import DicePool.Proofs.Budget
import DicePool.Proofs.Stateless
import DicePool.Proofs.Refinement
import DicePool.Proofs.Calculation
import DicePool.Proofs.Exact
import DicePool.Proofs.Agreement
import DicePool.Proofs.Fuel
import DicePool.Proofs.WiderBudget
import DicePool.Proofs.Reservation
import DicePool.Proofs.Overflow
import DicePool.Proofs.Vocabulary
import DicePool.Proofs.Stance
import DicePool.Proofs.FirstFault
import DicePool.Proofs.Writing
import DicePool.Proofs.Replay
import DicePool.Proofs.Outcome
import DicePool.Proofs.Memory
import DicePool.Proofs.Keeping
import DicePool.Proofs.Pending
import DicePool.Proofs.Rerolling
import DicePool.Proofs.Exploding
import DicePool.Proofs.Splitting
import DicePool.Proofs.Slotwise
import DicePool.Proofs.Repeating
import DicePool.Proofs.FacePool
import DicePool.Proofs.Conversation
import DicePool.Proofs.Forgetting
import DicePool.Proofs.PoolSize
import DicePool.Proofs.ImplicitCount
import DicePool.Proofs.Faceless
import DicePool.Proofs.ListCalculator
import DicePool.Proofs.Trapping
import DicePool.Proofs.Joining
import DicePool.Proofs.Cursor
