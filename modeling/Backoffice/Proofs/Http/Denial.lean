import Backoffice.Proofs.Http.Effects
import Backoffice.Proofs.Panel.Mirror
import Backoffice.Proofs.Panel.Permissions

namespace Backoffice.Http

variable {o : Office} {r : Request}

def notes : Panel.Builder := { Panel.Builder.new "notes" with source := some (.table "notes") }

end Backoffice.Http
