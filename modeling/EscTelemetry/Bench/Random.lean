/-!
# Reproducible randomness for simulated faults

The bench draws its faults from a 32-bit xorshift generator (shifts 13, 17, 5), so that a
seed fixes a whole run. The state is never zero: a zero seed starts from 1.

`chance p` is true with probability `p`: always when `p ≥ 1`, never (and without drawing)
when `p` is not above zero, and otherwise when a fresh draw, as a single-precision fraction
of the largest word, falls below `p`.
-/

namespace EscTelemetry

/-- A xorshift generator over 32-bit words. -/
structure XorShift where
  state : UInt32
deriving Repr, DecidableEq

namespace XorShift

/-- A generator from a seed; zero becomes one. -/
def new (seed : UInt32) : XorShift := ⟨max seed 1⟩

/-- A generator never starts from zero. -/
theorem state_new_ne_zero (seed : UInt32) : (XorShift.new seed).state ≠ 0 := by
  show (if seed ≤ 1 then 1 else seed) ≠ 0
  split
  · decide
  · rename_i h
    intro h0
    exact h (h0 ▸ by decide)

/-- One xorshift step on a word. -/
def mix (x : UInt32) : UInt32 :=
  let x := x ^^^ (x <<< 13)
  let x := x ^^^ (x >>> 17)
  x ^^^ (x <<< 5)

/-- The next word, and the generator after it. -/
def next (g : XorShift) : UInt32 × XorShift :=
  let x := mix g.state
  (x, ⟨x⟩)

/-- `n` words in order, and the generator after them. -/
def take (g : XorShift) : Nat → List UInt32 × XorShift
  | 0 => ([], g)
  | n + 1 =>
    let (x, g) := g.next
    let (xs, g) := g.take n
    (x :: xs, g)

/-- True with probability `p`. -/
def chance (g : XorShift) (p : Float32) : Bool × XorShift :=
  if p ≥ 1.0 then (true, g)
  else if p > 0.0 then
    let (x, g) := g.next
    (x.toFloat32 / (4294967295 : UInt32).toFloat32 < p, g)
  else (false, g)

/-- Run `chance` for each probability in turn. -/
def chances (g : XorShift) : List Float32 → List Bool × XorShift
  | [] => ([], g)
  | p :: ps =>
    let (b, g) := g.chance p
    let (bs, g) := g.chances ps
    (b :: bs, g)

end XorShift

/-- How often a simulated link misbehaves. -/
structure FaultProfile where
  /-- The fraction of requests that are never answered. -/
  dropRate : Float32 := 0.0
  /-- The fraction of replies or packets delivered with a damaged byte. -/
  corruptRate : Float32 := 0.0

end EscTelemetry
