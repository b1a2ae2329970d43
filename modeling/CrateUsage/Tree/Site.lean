import CrateUsage.Attribute

namespace CrateUsage

/-- A node where it stands in a tree: its siblings before it, nearest first, those after it, and
the kinds of the nodes above it, nearest first. -/
structure Site where
  node : Node
  before : List Node := []
  after : List Node := []
  above : List Kind := []
  deriving Repr

namespace Site

mutual
def under (before after : List Node) (above : List Kind) : Node → List Site
  | .mk l cs => ⟨.mk l cs, before, after, above⟩ :: among [] (l.kind :: above) cs

def among (before : List Node) (above : List Kind) : List Node → List Site
  | [] => []
  | n :: after => under before after above n ++ among (n :: before) above after
end

def outerAttributes (s : Site) : List Node := Node.outerAttributes s.before

def decorated? (s : Site) : Option Node := Node.decorated? s.after

def isFree (s : Site) : Bool := Node.isFree s.above

def ownsAttributes (s : Site) : Bool := s.node.ownsAttributes s.above

end Site

def Node.sites (root : Node) : List Site := Site.under [] [] [] root

end CrateUsage
