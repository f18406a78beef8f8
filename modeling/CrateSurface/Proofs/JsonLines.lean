import CrateSurface.Proofs.DocumentText

namespace CrateSurface.Json

end CrateSurface.Json

namespace CrateSurface.Document

end CrateSurface.Document
