namespace ModalEditor.Unicode

structure RangeSet where
  ranges : Array (Nat × Nat)

namespace RangeSet

def search (s : RangeSet) (n lo hi : Nat) : Bool :=
  if lo < hi then
    match s.ranges[(lo + hi) / 2]? with
    | none => false
    | some (first, last) =>
      if n < first then s.search n lo ((lo + hi) / 2)
      else if last < n then s.search n ((lo + hi) / 2 + 1) hi
      else true
  else false
termination_by hi - lo

def contains (s : RangeSet) (c : Char) : Bool :=
  s.search c.toNat 0 s.ranges.size

end RangeSet

end ModalEditor.Unicode
