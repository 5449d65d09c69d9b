/-
This file defines walks from period to period: a resolver is bound anew to a moment
just outside the period that a text asks for, over one of its edges, again and again.
-/

import Almanac.Resolver

namespace Almanac

/-- One of the two bounds of a period. -/
inductive Edge where
  | start | finish
deriving DecidableEq, Repr

namespace Edge

def of (period : Period) : Edge → Moment
  | start => period.start
  | finish => period.finish

/-- The microseconds from an edge of a period to the nearest moment outside the period. -/
def outward : Edge → Int
  | start => -1
  | finish => 1

end Edge

namespace Resolver

/-- The resolver that is moved over an edge of the period that a text asks for. -/
def cross (text : Option String) (resolver : Resolver) (edge : Edge) :
    Except ResolveError Resolver := do
  let resolution ← resolver.resolve text
  let now ← ((edge.of resolution.period).shift edge.outward).mapError .calendar
  pure { resolver with now := now }

/-- The resolver after a walk: a number of moves, each of them over an edge of the period that the
text asks for by then. -/
def walk (text : Option String) (resolver : Resolver) (edges : List Edge) :
    Except ResolveError Resolver :=
  edges.foldlM (cross text) resolver

end Resolver

end Almanac
