import UsingAdvisor.Text

/-!
# Punycode

A label of a domain name that is not plain ASCII is written in ASCII after `xn--`: its ASCII
characters, and then the others in ascending order, each by its distance from the place before as a
number of variable length in base 36. The threshold of each digit follows a bias that adapts to the
distances written so far. Main statement: `digitValue?_digit` (a digit is read as the number that it
was written for).
-/

namespace UsingAdvisor.Url.Punycode

/-- The character of a digit below 36. -/
def digit (n : Nat) : Char :=
  if n < 26 then Char.ofNat ('a'.toNat + n) else Char.ofNat ('0'.toNat + (n - 26))

/-- The number that a character is the digit of. -/
def digitValue? (c : Char) : Option Nat :=
  if 'a' ≤ c ∧ c ≤ 'z' then some (c.toNat - 'a'.toNat)
  else if '0' ≤ c ∧ c ≤ '9' then some (c.toNat - '0'.toNat + 26)
  else none

/-- A digit is read as the number that it was written for. -/
theorem digitValue?_digit {n : Nat} (h : n < 36) : digitValue? (digit n) = some n := by
  have all : ∀ k : Fin 36, digitValue? (digit k) = some k.val := by decide
  exact all ⟨n, h⟩

/-- The threshold of the digit at `place`, which counts in steps of 36 from 36. -/
def threshold (place bias : Nat) : Nat :=
  if place ≤ bias then 1 else if bias + 26 ≤ place then 26 else place - bias

/-- The digits of a distance, lowest first. There are at most `limit` of them. -/
def digits : (limit : Nat) → (place bias distance : Nat) → Text
  | 0, _, _, _ => []
  | limit + 1, place, bias, distance =>
    let least := threshold place bias
    if distance < least then [digit distance]
    else digit (least + (distance - least) % (36 - least)) ::
      digits limit (place + 36) bias ((distance - least) / (36 - least))

/-- The bias that belongs to a scaled-down distance. -/
def settle : (limit : Nat) → (distance shift : Nat) → Nat
  | 0, _, shift => shift
  | limit + 1, distance, shift =>
    if 455 < distance then settle limit (distance / 35) (shift + 36)
    else shift + 36 * distance / (distance + 38)

/-- The bias after a distance was written as the `count`-th one. -/
def adapt (distance count : Nat) (first : Bool) : Nat :=
  let scaled := if first then distance / 700 else distance / 2
  settle (scaled + 1) (scaled + scaled / count) 0

/-! ### Writing -/

/-- What the encoder keeps between characters. -/
structure State where
  /-- The code point reached. -/
  code : Nat
  /-- The distance gathered since the last written digit. -/
  distance : Nat
  bias : Nat
  /-- How many characters are written. -/
  written : Nat
  output : Text

/-- Write the occurrences of the code point reached, passing over the whole label once. -/
def writeCode (basic : Nat) (label : Text) (state : State) : State :=
  label.foldl (fun state c =>
    if c.toNat < state.code then { state with distance := state.distance + 1 }
    else if c.toNat = state.code then
      { state with
        distance := 0
        bias := adapt state.distance (state.written + 1) (state.written == basic)
        written := state.written + 1
        output := state.output ++ digits (state.distance + 2) 36 state.bias state.distance }
    else state) state

/-- Move on to the next code point of the label and write it. -/
def writeNext (basic : Nat) (label : Text) (state : State) (code : Nat) : State :=
  let state := { state with
    distance := state.distance + (code - state.code) * (state.written + 1)
    code := code }
  let state := writeCode basic label state
  { state with distance := state.distance + 1, code := code + 1 }

/-- The ASCII form of a label, without the `xn--` in front. -/
def encode (label : Text) : Text :=
  let basic := label.filter fun c => c.toNat < 0x80
  let others := ((label.map Char.toNat).filter (0x80 ≤ ·)).eraseDups.mergeSort
  let start : State := ⟨0x80, 0, 72, basic.length, if basic = [] then [] else basic ++ ['-']⟩
  (others.foldl (writeNext basic.length label) start).output

/-! ### Reading -/

/-- What the decoder keeps between digits. -/
structure Decoder where
  output : Text
  /-- The code point of the last character put into the output. -/
  code : Nat
  /-- How far the output has been passed over for this code point, counting on from one pass to the
  next. -/
  index : Nat
  bias : Nat
  /-- The index before the number that is being read. -/
  start : Nat
  /-- What the next digit of the number counts. -/
  weight : Nat
  /-- The place of the next digit. -/
  place : Nat

namespace Decoder

/-- The decoder before the first number. -/
def initial (basic : Text) : Decoder :=
  ⟨basic, 0x80, 0, 72, 0, 1, 36⟩

/-- The decoder after a number, which leads to the index and puts a character in there. -/
def insert? (decoder : Decoder) (index : Nat) : Option Decoder :=
  let count := decoder.output.length + 1
  let code := decoder.code + index / count
  let next := index % count + 1
  if code.isValidChar then
    some {
      output := decoder.output.insertIdx (index % count) (Char.ofNat code)
      code
      index := next
      bias := adapt (index - decoder.start) count (decoder.start == 0)
      start := next
      weight := 1
      place := 36 }
  else none

/-- The decoder after a digit. A digit below its threshold is the last one of a number. The weight has
to fit into 32 bits. -/
def take? (decoder : Decoder) (digit : Nat) : Option Decoder :=
  let index := decoder.index + digit * decoder.weight
  let least := threshold decoder.place decoder.bias
  if digit < least then decoder.insert? index
  else
    let weight := decoder.weight * (36 - least)
    if 0xFFFFFFFF < weight then none
    else some { decoder with index, weight, place := decoder.place + 36 }

end Decoder

/-- The ASCII characters of a label in front of the last hyphen, and the digits after it. A hyphen that
nothing stands in front of is no separator. -/
def cutBasic (code : Text) : Text × Text :=
  match code.reverse.dropWhile (· != '-') with
  | [] => ([], code)
  | [_] => ([], code)
  | _ :: basic => (basic.reverse, (code.reverse.takeWhile (· != '-')).reverse)

/-- The label that an ASCII form stands for, small letters given and the `xn--` in front left out. -/
def decode? (code : Text) : Option Text := do
  let (basic, digits) := cutBasic code
  if basic.any fun c => 0x80 ≤ c.toNat then none
  let values ← digits.mapM digitValue?
  let decoder ← values.foldlM Decoder.take? (Decoder.initial basic)
  if decoder.place = 36 then return decoder.output else none

end UsingAdvisor.Url.Punycode
