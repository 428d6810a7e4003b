import Connectivity.Specifier
import Connectivity.Supplier
/-! The choice among available suppliers: the strongest signal, then the one that became available
last, then the smallest id. -/
namespace Connectivity

structure Candidate where
  supplier : SupplierId
  netType : NetType
  capabilities : Capabilities
  signalStrength : UInt8
  availableSeq : UInt64
  deriving DecidableEq, Repr

namespace Candidate

def satisfies (c : Candidate) (s : Specifier) : Bool := s.isSatisfiedBy c.netType c.capabilities

/-- `c` comes strictly before `d`. -/
def precedes (c d : Candidate) : Bool :=
  d.signalStrength < c.signalStrength
    || c.signalStrength == d.signalStrength
      && (d.availableSeq < c.availableSeq
        || c.availableSeq == d.availableSeq && c.supplier < d.supplier)

def better : Option Candidate → Candidate → Option Candidate
  | none, d => some d
  | some c, d => if d.precedes c then some d else some c

end Candidate

def selectBest (candidates : List Candidate) (s : Specifier) : Option SupplierId :=
  ((candidates.filter (·.satisfies s)).foldl Candidate.better none).map (·.supplier)

end Connectivity
