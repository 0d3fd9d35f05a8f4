import EvmFlow.Position
import EvmFlow.Value.AbstractValue

/-!
# Operations on a stack

A stack is a list with its top in front.  Below its bottom lie elements that nobody has seen: where an
operation reaches for one, it takes a fresh element in its place.  The operations are stated for any
kind of element, so that they hold for the values of an analysis and for shared cells alike.
-/

namespace EvmFlow

/-- What is known of each element of a stack, the top in front. -/
abbrev AbstractStack := List AbstractValue

namespace Stack

variable {α : Type}

/-- The stack, with a fresh element if it has none. -/
def ensured (fresh : α) : List α → List α
  | [] => [fresh]
  | s => s

/-- Copies the `n`-th element from the top, counted from one, onto the top. -/
def dup (fresh : α) (n : Nat) (s : List α) : List α :=
  s.getD (n - 1) fresh :: s

/-- Exchanges the top with the element `n` places below it. -/
def exchange (n : Nat) (s : List α) : List α :=
  match s.head?, s[n]? with
  | some a, some b => (s.set 0 b).set n a
  | _, _ => s

/-- Reaches `n` places below the top of a stack that is not that high: fresh elements fill the gap,
the top is put below them, and stays on top as well. -/
def sink (fresh : Nat → α) (n : Nat) (s : List α) : List α :=
  let high := ensured (fresh 0) s
  high ++ (List.range (n - high.length)).map (fun i => fresh (i + 1)) ++
    (if high.length ≤ n then high.head?.toList else [])

/-- Exchanges the top with the element `n` places below it, or sinks it below the bottom. -/
def swap (fresh : Nat → α) (n : Nat) (s : List α) : List α :=
  if n < s.length then exchange n s else sink fresh n s

/-- The place, counted from the top, of a position that counts from the bottom. -/
def place (depth : Nat) (position : Int) : Except Failure Nat :=
  (Position.place depth position).map (depth - 1 - ·)

end Stack
end EvmFlow
