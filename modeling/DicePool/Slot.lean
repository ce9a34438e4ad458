import DicePool.Die

/-!
# Slots

A pool is a row of slots, and a slot is a value not yet drawn. Forcing it draws
what it needs; forcing it again draws afresh. A drawn slot is the exception: it
hands out the value it remembers once, and draws afresh from then on.
-/

namespace DicePool

/-- What a drawn slot remembers. -/
inductive Memo where
  /-- The value to hand out. -/
  | resolved (value : Int64)
  /-- The value has been handed out. -/
  | spent
deriving DecidableEq

/-- A value of a pool that is drawn when it is forced. -/
inductive Slot where
  /-- A value that is known. -/
  | fixed (value : Int64)
  /-- One face of a die. -/
  | face (sides : Int64)
  /-- The negative of a draw. -/
  | negative (slot : Slot)
  /-- The slot joined with a fresh total of `amount`. -/
  | bonus (op : Arithmetic) (slot : Slot) (amount : Die)
  /-- The sum of draws, the last of which is no hit. -/
  | explode (cmp : Comparison) (cutoff : Int64) (slot : Slot)
  /-- One for a hit and zero otherwise. -/
  | threshold (cmp : Comparison) (cutoff : Int64) (slot : Slot)
  /-- A slot drawn once while its pool was built. -/
  | drawn (memo : Memo) (slot : Slot)
deriving DecidableEq

/-- The slots of one roll, in order. -/
abbrev Pool := List Slot

/-- The number of constructors of a die. -/
def Die.size : Die → Nat
  | constant _ => 1
  | dice count sides => count.size + sides.size + 1
  | add left right | subtract left right | multiply left right | divide left right =>
    left.size + right.size + 1
  | negative body => body.size + 1
  | bonus _ body amount => body.size + amount.size + 1
  | explode _ cutoff body | again _ cutoff body | threshold _ cutoff body =>
    cutoff.size + body.size + 1
  | keep _ count body => count.size + body.size + 1
  | repetition body count => body.size + count.size + 1

/-- The number of constructors of a slot, with the dice in it. -/
def Slot.size : Slot → Nat
  | fixed _ | face _ => 1
  | negative slot | explode _ _ slot | threshold _ _ slot | drawn _ slot => slot.size + 1
  | bonus _ slot amount => slot.size + amount.size + 1

end DicePool
