import Backoffice.Http.Router
import Backoffice.Proofs.Ensures

namespace Backoffice

namespace Text

end Text

namespace Http

open Call (Leaves ensures_pure ensures_state)

variable {α : Type}

def Candidate.below (mount : List String) (c : Candidate α) : Candidate α :=
  { c with parts := mount.map .literal ++ c.parts }

end Http

end Backoffice
