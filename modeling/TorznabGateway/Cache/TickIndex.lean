/-!
# Indexes by tick

Keys in the order of the ticks they were filed under: an ascending list of ticks with their keys.
-/
namespace TorznabGateway

/-- Keys under ticks, in ascending order of the ticks. -/
abbrev TickIndex (κ : Type) := List (Nat × κ)

namespace TickIndex

variable {κ : Type}

/-- File a key under a tick, in place of the key that is filed there. -/
def insert (tick : Nat) (key : κ) : TickIndex κ → TickIndex κ
  | [] => [(tick, key)]
  | (t, k) :: rest =>
    if tick < t then (tick, key) :: (t, k) :: rest
    else if tick = t then (tick, key) :: rest
    else (t, k) :: insert tick key rest

/-- Take out the key that is filed under a tick. -/
def erase (tick : Nat) (index : TickIndex κ) : TickIndex κ :=
  index.filter (·.1 != tick)

/-- The key with the lowest tick. -/
def first? : TickIndex κ → Option κ
  | [] => none
  | (_, k) :: _ => some k

end TickIndex

end TorznabGateway
