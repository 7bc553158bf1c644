import Backoffice.Proofs.Http.Effects
import Backoffice.Proofs.Panel.Mirror

namespace Backoffice.Http

open Assignment (Operation)

end Backoffice.Http
