import UsingAdvisor.Order
import UsingAdvisor.Text

/-!
# The order of names

Names are ordered as in a dictionary, character by character, by code point. This is also the order
of their UTF-8 bytes.
-/

namespace UsingAdvisor.Text

/-- Whether one text comes before another. -/
def precedes : Text → Text → Bool :=
  dictionary fun a b => decide (a.toNat < b.toNat)

/-- The order of texts is strict and total. -/
theorem precedes_strictOrder : StrictOrder precedes :=
  (StrictOrder.ofKey Char.toNat fun _ _ => Char.toNat_inj.1).dictionary

end UsingAdvisor.Text
