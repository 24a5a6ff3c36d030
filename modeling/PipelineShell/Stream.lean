import PipelineShell.Text.Bytes

/-!
# What flows through a pipe

A program may write for ever, as long as somebody reads.  A stream is a text
that comes first, and a text that is repeated after it without end; a stream
that ends repeats nothing.
-/

namespace PipelineShell

structure Stream where
  first : Bytes
  cycle : Bytes := []
  deriving DecidableEq, Repr

namespace Stream

def empty : Stream := ⟨[], []⟩

def ofBytes (b : Bytes) : Stream := ⟨b, []⟩

def isEndless (s : Stream) : Bool := !s.cycle.isEmpty

/-- The stream with at least so many bytes in its first text, if it has them. -/
def unroll (s : Stream) (n : Nat) : Stream :=
  if s.cycle.isEmpty || n ≤ s.first.length then s
  else
    let copies := (n - s.first.length) / s.cycle.length + 1
    ⟨s.first ++ (List.replicate copies s.cycle).flatten, s.cycle⟩

/-- The first bytes of a stream and what is left of it. -/
def take (s : Stream) (n : Nat) : Bytes × Stream :=
  let s := s.unroll n
  (s.first.take n, ⟨s.first.drop n, s.cycle⟩)

end Stream

end PipelineShell
