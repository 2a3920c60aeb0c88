import ControlPlane.Check.Checker
import ControlPlane.Report.Answer

/-!
# Queries

A query names one of the ten checks together with its question; its answer has the form that
check gives. Running a query is running its check, so a caller that chooses the check at run
time (from a command line, or from a request) needs no table of its own.
-/

namespace ControlPlane

/-- A check with its question. -/
inductive Query where
  | forwarding (q : HeaderQuestion)
  | blackHole (q : HeaderQuestion)
  | routingLoop (q : HeaderQuestion)
  | determinism (q : HeaderQuestion)
  | reachability (q : LocationQuestion)
  | boundedLength (q : LocationQuestion)
  | equalLength (q : LocationQuestion)
  | loadBalancing (q : LocationQuestion)
  | multipath (q : LocationQuestion)
  | localEquivalence (q : ConsistencyQuestion)
  deriving Repr, Inhabited

/-- The answer of a check, in the form of that check. -/
inductive QueryAnswer where
  | one (a : OneAnswer)
  | many (a : ManyAnswer)
  | reachability (a : ReachabilityAnswer)
  | determinism (a : DeterminismAnswer)
  deriving Inhabited

namespace Query

def orDefault {α : Type} (d : Decoder α) (dflt : α) : Decoder α
  | .null => .ok dflt
  | j => d j

/-- The query of the check with the given name (`black_hole`, `load_balancing`, ...), made from
its question written as JSON: a header question for the checks of the whole network, a
location question for those between sources and destinations, a consistency question for
`local_equivalence`. -/
def named (name : String) : Option (Decoder Query) :=
  let header (f : HeaderQuestion → Query) : Decoder Query := fun j => f <$> orDefault Schema.headerQuestion {} j
  let location (f : LocationQuestion → Query) : Decoder Query := fun j => f <$> orDefault Schema.locationQuestion {} j
  match name with
  | "forwarding" => some (header .forwarding)
  | "black_hole" => some (header .blackHole)
  | "routing_loop" => some (header .routingLoop)
  | "determinism" => some (header .determinism)
  | "reachability" => some (location .reachability)
  | "bounded_length" => some (location .boundedLength)
  | "equal_length" => some (location .equalLength)
  | "multipath" => some (location .multipath)
  | "load_balancing" => some (location .loadBalancing)
  | "local_equivalence" => some fun j => .localEquivalence <$> orDefault Schema.consistencyQuestion {} j
  | _ => none

end Query

namespace Checker

variable {σ : Type}

def answer (c : Checker σ) : Query → Check σ QueryAnswer
  | .forwarding q => .one <$> c.forwarding q
  | .blackHole q => .one <$> c.blackHole q
  | .routingLoop q => .one <$> c.routingLoop q
  | .determinism q => .determinism <$> c.determinism q
  | .reachability q => .reachability <$> c.reachability q
  | .boundedLength q => .one <$> c.boundedLength q
  | .equalLength q => .one <$> c.equalLength q
  | .loadBalancing q => .many <$> c.loadBalancing q
  | .multipath q => .one <$> c.multipath q
  | .localEquivalence q => .many <$> c.localEquivalence q

end Checker

namespace QueryAnswer

def json : QueryAnswer → Json
  | .one a => Report.oneAnswerJson a
  | .many a => Report.manyAnswerJson a
  | .reachability a => Report.reachabilityAnswerJson a
  | .determinism a => Report.determinismAnswerJson a

end QueryAnswer
end ControlPlane
