import ImageryJobs.Proofs.Text.Percent

/-!
Texts are in the order of their octets: characters come in the order of their code points, and UTF-8
keeps that order.
-/

namespace ImageryJobs.Text

end ImageryJobs.Text
