import UsingAdvisor.Text.Composition
import UsingAdvisor.Url.Domain.DisallowedTable
import UsingAdvisor.Url.Domain.MappingTable

/-!
# Mapping domain names

Two spellings of a domain name that differ in case, width or composition are one name. A name is looked
up in its mapped form, in which each character has become what the mapping makes of it and the whole is
composed; a character that no name may hold has no mapped form.
-/

namespace UsingAdvisor.Url.Domain

/-- What the mapping makes of a character that it changes. -/
def changed? (n : Nat) : Option Text :=
  if n < 0x3000 then imageIn? basicStretches n
  else if n < 0x10000 then imageIn? wideStretches n
  else imageIn? supplementaryStretches n

/-- Whether no name may hold a character, unless the mapping changes it or leaves it out. -/
def isDisallowed (n : Nat) : Bool :=
  if n < 0x3000 then Text.inRanges basicDisallowed n
  else if n < 0x10000 then Text.inRanges wideDisallowed n
  else Text.inRanges supplementaryDisallowed n

/-- What the mapping makes of a character. -/
def image? (c : Char) : Option Text :=
  match changed? c.toNat with
  | some image => some image
  | none =>
    if Text.inRanges ignoredRanges c.toNat then some []
    else if isDisallowed c.toNat then none
    else some [c]

/-- The mapped form of a name. -/
def map? (name : Text) : Option Text :=
  (name.mapM image?).map fun images => Text.composedForm images.flatten

end UsingAdvisor.Url.Domain
