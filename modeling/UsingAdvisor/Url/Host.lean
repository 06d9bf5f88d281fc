import UsingAdvisor.Url.Domain
import UsingAdvisor.Url.Percent

/-!
# URL hosts

The host of a URL. A special scheme has a domain name in its ASCII form, or an address; a name whose
last part is a number must be an address of version 4. Any other scheme has a host that is kept as
written, or an address of version 6 in brackets.
-/

namespace UsingAdvisor.Url

/-- Why a text is not a URL. -/
inductive Fault where
  | emptyHost
  | badDomain
  | badPort
  | badAddress4
  | badAddress6
  | badHostCharacter
  /-- No scheme is given, and there is nothing that the text could be relative to. -/
  | relative
  deriving DecidableEq, Repr

/-- What is reported about a text that is not a URL. -/
def Fault.message : Fault → Text
  | emptyHost => "empty host".toList
  | badDomain => "invalid international domain name".toList
  | badPort => "invalid port number".toList
  | badAddress4 => "invalid IPv4 address".toList
  | badAddress6 => "invalid IPv6 address".toList
  | badHostCharacter => "invalid domain character".toList
  | relative => "relative URL without a base".toList

/-- The host of a URL. -/
inductive Host where
  /-- A name. The name is empty where a URL has an authority and no host in it. -/
  | name (text : Text)
  /-- An address of 32 bits. -/
  | address4 (bits : Nat)
  /-- An address of eight pieces of 16 bits. -/
  | address6 (pieces : List Nat)
  deriving DecidableEq, Repr

/-- The value of digits in a base, if all of them are digits of it. -/
def digitsValue? (base : Nat) (digits : Text) : Option Nat :=
  digits.foldlM (fun n c =>
    match hexValue? c with
    | some value => if value < base then some (n * base + value) else none
    | none => none) 0

/-! ### Addresses of version 4 -/

/-- The number that a part of an address writes: hexadecimal after `0x`, octal after another zero,
and decimal otherwise. -/
def partValue? : Text → Option Nat
  | [] => none
  | '0' :: 'x' :: digits => digitsValue? 16 digits
  | '0' :: 'X' :: digits => digitsValue? 16 digits
  | '0' :: c :: digits => digitsValue? 8 (c :: digits)
  | digits => digitsValue? 10 digits

/-- The parts of a name between its dots. A dot at the end starts no part. -/
def nameParts (name : Text) : List Text :=
  let parts := Text.splitAt '.' name
  if 1 < parts.length ∧ parts.getLast? = some [] then parts.dropLast else parts

/-- Whether a name ends in a number, so that it has to be an address. -/
def endsInNumber (name : Text) : Bool :=
  match (nameParts name).getLast? with
  | none => false
  | some [] => false
  | some part => part.all Char.isDigit || (partValue? part).isSome

/-- The address that dotted numbers write. The last number fills all the bytes that are left. -/
def address4? (name : Text) : Option Nat := do
  let parts := nameParts name
  if 4 < parts.length then none
  let values ← parts.mapM partValue?
  let leading := values.dropLast
  let last ← values.getLast?
  if leading.any (255 < ·) then none
  if Nat.pow 256 (4 - leading.length) ≤ last then none
  let high := leading.foldl (fun n value => n * 256 + value) 0
  return high * Nat.pow 256 (4 - leading.length) + last

/-- The dotted form of an address. -/
def address4Text (bits : Nat) : Text :=
  Text.join ['.'] ([24, 16, 8, 0].map fun shift => Text.ofNat ((bits >>> shift) % 256))

/-! ### Addresses of version 6 -/

/-- The pieces that a stretch of an address writes, colons between them. The last piece of the whole
address may be two pieces in dotted form. -/
def pieces? (text : Text) : Option (List Nat) :=
  if text = [] then some []
  else
    let parts := Text.splitAt ':' text
    let piece? (part : Text) : Option (List Nat) :=
      if part = [] ∨ 4 < part.length then none else (digitsValue? 16 part).map ([·])
    let dotted? (part : Text) : Option (List Nat) := do
      let octets ← (Text.splitAt '.' part).mapM fun octet =>
        if octet = [] ∨ (1 < octet.length ∧ octet.head? = some '0') then none
        else do
          let value ← digitsValue? 10 octet
          if 255 < value then none else some value
      match octets with
      | [a, b, c, d] => some [a * 256 + b, c * 256 + d]
      | _ => none
    let last := parts.getLast?.getD []
    do
      let front ← parts.dropLast.mapM piece?
      let back ← if last.contains '.' then dotted? last else piece? last
      return front.flatten ++ back

/-- The address that a text in brackets writes. Two colons in a row stand for the zero pieces that
are missing. -/
def address6? (text : Text) : Option (List Nat) :=
  match Text.breakAt [':', ':'] text with
  | (_, []) => do
    let pieces ← pieces? text
    if pieces.length = 8 then some pieces else none
  | (front, back) => do
    if front.contains '.' then none
    let front ← pieces? front
    let back ← pieces? (back.drop 2)
    if front.length + back.length < 8 then
      some (front ++ List.replicate (8 - front.length - back.length) 0 ++ back)
    else none

/-- The first of the longest runs of two or more zero pieces: where it starts, and its length. -/
def longestZeros (pieces : List Nat) : Option (Nat × Nat) :=
  let runs := (List.range pieces.length).map fun start =>
    (start, ((pieces.drop start).takeWhile (· == 0)).length)
  (runs.filter fun run => 2 ≤ run.2).foldl (fun best run =>
    match best with
    | none => some run
    | some found => if found.2 < run.2 then some run else some found) none

/-- The written form of an address, the longest run of zero pieces left out. -/
def address6Text (pieces : List Nat) : Text :=
  let write (pieces : List Nat) : Text := Text.join [':'] (pieces.map (Nat.toDigits 16))
  match longestZeros pieces with
  | none => write pieces
  | some (start, length) =>
    write (pieces.take start) ++ [':', ':'] ++ write (pieces.drop (start + length))

/-! ### Names -/

/-- The characters that no domain name may hold. -/
def forbiddenInDomain (c : Char) : Bool :=
  isControl c || c ∈ [' ', '%', '#', '/', ':', '<', '>', '?', '@', '[', '\\', ']', '^', '|']

/-- The characters that the host of an ordinary scheme may not hold. -/
def forbiddenInHost (c : Char) : Bool :=
  c ∈ ['\x00', '\t', '\n', '\r', ' ', '#', '/', ':', '<', '>', '?', '@', '[', '\\', ']', '^', '|']

namespace Host

/-- The address in brackets that a host is, if it opens a bracket. -/
def readBracketed? (text : Text) : Option (Except Fault Host) :=
  match text with
  | '[' :: inside =>
    if inside.getLast? = some ']' then
      match address6? inside.dropLast with
      | some pieces => some (.ok (.address6 pieces))
      | none => some (.error .badAddress6)
    else some (.error .badAddress6)
  | _ => none

/-- The host of a special scheme. -/
def readSpecial (text : Text) : Except Fault Host :=
  match readBracketed? text with
  | some result => result
  | none =>
    match (Bytes.toText? (decode text)).bind Domain.toAscii? with
    | none => .error .badDomain
    | some domain =>
      if domain.any forbiddenInDomain then .error .badDomain
      else if domain = [] then .error .emptyHost
      else if endsInNumber domain then
        match address4? domain with
        | some bits => .ok (.address4 bits)
        | none => .error .badAddress4
      else .ok (.name domain)

/-- The host of an ordinary scheme. -/
def readOrdinary (text : Text) : Except Fault Host :=
  match readBracketed? text with
  | some result => result
  | none =>
    if text.any forbiddenInHost then .error .badHostCharacter
    else .ok (.name (encode isControl text))

/-- The written form of a host. -/
def text : Host → Text
  | name text => text
  | address4 bits => address4Text bits
  | address6 pieces => '[' :: (address6Text pieces ++ [']'])

end Host

end UsingAdvisor.Url
