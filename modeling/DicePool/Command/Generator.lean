import DicePool.Roller

/-!
# Pseudo-random faces

Where no faces are given, the program rolls with faces that it computes from a seed.
-/

namespace DicePool

/-- A pseudo-random source: a word that advances by a fixed odd step, read through a mixing
function. -/
structure Generator where
  /-- The word that advances. -/
  state : UInt64

namespace Generator

/-- Spreads every bit of a word over all of them. -/
def mix (word : UInt64) : UInt64 :=
  let word := (word ^^^ (word >>> 30)) * 0xbf58476d1ce4e5b9
  let word := (word ^^^ (word >>> 27)) * 0x94d049bb133111eb
  word ^^^ (word >>> 31)

/-- The word scaled down to a face: the upper half of its upper half times the sides. -/
def scale (word : UInt64) (sides : Sides) : UInt32 :=
  (((word >>> 32) * sides.word.toUInt64) >>> 32).toUInt32 + 1

/-- The word advances for every face, and the face is scaled from what it is mixed to. -/
instance : Roller Generator where
  roll generator sides :=
    let state := generator.state + 0x9e3779b97f4a7c15
    (scale (mix state) sides, ⟨state⟩)

end Generator

end DicePool
