/-!
Random numbers.  The draws that they are made of come from outside: a run is given all that it can
use, so runs with the same draws are the same.

Main statement: a number lies below its upper bound, whatever is drawn (`Chance.between_lt`).
-/

namespace LineScript

/-- Draws from zero up to, but not including, one, in the order in which they come.  Those behind the
first one are made when they are asked for. -/
inductive Chance
  | ended
  | draw (t : Float) (rest : Unit → Chance)

namespace Chance

/-- The number that lies between the bounds in proportion to the draw, but not below the lower
one. -/
def interpolate (low high t : Float) : Float :=
  let x := low * (1.0 - t) + high * t
  if low < x then x else low

/-- A number from `low` up to, but not including, `high`, for finite `low < high`.  Where rounding
reaches the upper bound, the next draw is taken.  Without a draw the number is `low`, as it is with a
draw of zero. -/
def between (low high : Float) : Chance → Float × Chance
  | ended => (low, ended)
  | draw t rest =>
    let x := interpolate low high t
    if x < high then (x, rest ()) else between low high (rest ())

theorem between_lt {low high : Float} (h : low < high) (chance : Chance) :
    (chance.between low high).1 < high := by
  induction chance with
  | ended => exact h
  | draw t rest ih =>
    unfold between
    dsimp only
    split
    · next hbelow => exact hbelow
    · exact ih ()

/-! ## Draws from a seed -/

/-- Spreads each bit of a counter over the whole word. -/
def scramble (n : UInt64) : UInt64 :=
  let a := (n ^^^ (n >>> 30)) * 0xBF58476D1CE4E5B9
  let b := (a ^^^ (a >>> 27)) * 0x94D049BB133111EB
  b ^^^ (b >>> 31)

/-- So many draws, each from the next value of a counter: 53 random binary digits. -/
def ofSeed (counter : UInt64) : Nat → Chance
  | 0 => ended
  | count + 1 =>
    let next := counter + 0x9E3779B97F4A7C15
    draw ((scramble next >>> 11).toFloat / 9007199254740992.0) fun _ => ofSeed next count

end Chance

end LineScript
