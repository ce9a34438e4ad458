import DicePool.RollError

/-!
# Rollers

A roller is a source of faces that remembers where it stands, such as a fixed list of
faces that is replayed.
-/

namespace DicePool

/-- The number of sides of a die, at least one. -/
structure Sides where
  /-- The number of sides. -/
  word : UInt32
  /-- There is at least one. -/
  positive : 0 < word.toNat

/-- The sides that a value stands for, refused when no die has that many. -/
def Sides.ofInt64 (value : Int64) : Except RollError Sides :=
  if h : 0 < value.toInt ∧ value.toInt < UInt32.size then
    .ok ⟨UInt32.ofNat value.toInt.toNat, by
      rw [UInt32.toNat_ofNat_of_lt' (by omega)]
      omega⟩
  else .error (.invalidSides value)

/-- A source of faces: the next face for a die, and the source after it. -/
class Roller (ρ : Type) where
  roll : ρ → Sides → UInt32 × ρ

/-- The face of a die that a number names: numbers above the sides start over at one, and
zero is read as one. -/
def Sides.wrap (sides : Sides) (face : UInt32) : UInt32 :=
  UInt32.ofNat ((face.toNat - 1) % sides.word.toNat + 1)

/-- A list of faces replayed in order, from its front again when it runs out. -/
structure FaceCycle where
  /-- The faces that are replayed. -/
  faces : List UInt32
  /-- There is at least one. -/
  nonempty : 0 < faces.length
  /-- How many faces have been taken. -/
  taken : Nat

namespace FaceCycle

/-- The number at which the cycle stands. -/
def current (cycle : FaceCycle) : UInt32 :=
  have : cycle.taken % cycle.faces.length < cycle.faces.length := Nat.mod_lt _ cycle.nonempty
  cycle.faces[cycle.taken % cycle.faces.length]

/-- The faces of a cycle are dealt in turn, wrapped to the sides that are asked for. -/
instance : Roller FaceCycle where
  roll cycle sides := (sides.wrap cycle.current, { cycle with taken := cycle.taken + 1 })

end FaceCycle

end DicePool
