import UsingAdvisor.Url.Domain.Direction
import UsingAdvisor.Url.Domain.Joining
import UsingAdvisor.Url.Domain.Mapping
import UsingAdvisor.Url.Punycode

/-!
# Domain names

A domain name is labels with dots between them. In its ASCII form, the one that is looked up, a label
beyond ASCII is written in Punycode after `xn--`. A name may be given in either form, or in a mixture;
it is mapped, its labels are decoded and checked, and it is written in ASCII.
-/

namespace UsingAdvisor.Url.Domain

/-- Whether a text is ASCII. -/
def isAscii (text : Text) : Bool :=
  text.all fun c => c.toNat < 0x80

/-- What stands in front of a label in Punycode. -/
def codeMark : Text :=
  ['x', 'n', '-', '-']

/-- The most characters of Punycode that are decoded. -/
def longestCode : Nat := 2000

/-- The most characters of a label that is written in Punycode. -/
def longestLabel : Nat := 1000

/-- What a label of a mapped name stands for. A label in Punycode must stand for one beyond ASCII, in
its mapped form and not marked as Punycode again. -/
def decodeLabel? (label : Text) : Option Text :=
  match Text.dropFront? codeMark label with
  | none => some label
  | some code => do
    if longestCode < code.length then none
    let plain ← Punycode.decode? code
    if isAscii plain ∨ Text.startsWith codeMark plain ∨ map? plain ≠ some plain then none
    return plain

/-- Whether a label can be part of a name: no mark comes first, and every joiner does something. -/
def labelFits (label : Text) : Bool :=
  !(label.head?.any Text.isMark) && joinersFit [] label &&
    (isAscii label || label.length ≤ longestLabel)

/-- The ASCII form of a label. -/
def encodeLabel (label : Text) : Text :=
  if isAscii label then label else codeMark ++ Punycode.encode label

/-- The ASCII form of a name. -/
def toAscii? (name : Text) : Option Text := do
  let labels ← (Text.splitAt '.' (← map? name)).mapM decodeLabel?
  if labels.all labelFits ∧ directionsFit labels then
    return Text.join ['.'] (labels.map encodeLabel)
  else none

end UsingAdvisor.Url.Domain
