import UsingAdvisor.Json

/-!
# Reading JSON

A value is read by recursive descent. Each step into an item uses up at least one character, so the
length of the text bounds the steps, and `parse?` starts with that many. An escaped surrogate must
be one of a pair, and a control character must be escaped. A number that is too great for a double is
refused.
-/

namespace UsingAdvisor.Json

/-- The text without the spaces, tabs and line breaks in front of it. -/
def skipSpace (text : Text) : Text :=
  text.dropWhile fun c => c == ' ' || c == '\n' || c == '\r' || c == '\t'

/-- The value of a hexadecimal digit, in either case. -/
def hexValue? (c : Char) : Option Nat :=
  if '0' ≤ c ∧ c ≤ '9' then some (c.toNat - '0'.toNat)
  else if 'a' ≤ c ∧ c ≤ 'f' then some (c.toNat - 'a'.toNat + 10)
  else if 'A' ≤ c ∧ c ≤ 'F' then some (c.toNat - 'A'.toNat + 10)
  else none

/-- The number that four hexadecimal digits write. -/
def hexNumber? (a b c d : Char) : Option Nat := do
  return (((← hexValue? a) * 16 + (← hexValue? b)) * 16 + (← hexValue? c)) * 16 + (← hexValue? d)

/-- The code points of a string after its opening mark, surrogates still apart, and what follows
the closing mark. -/
def readCodes? : Text → Option (List Nat × Text)
  | [] => none
  | '"' :: rest => some ([], rest)
  | '\\' :: 'u' :: a :: b :: c :: d :: rest => do
    let code ← hexNumber? a b c d
    let (codes, rest) ← readCodes? rest
    return (code :: codes, rest)
  | '\\' :: c :: rest => do
    let code ← match c with
      | '"' => some 0x22
      | '\\' => some 0x5C
      | '/' => some 0x2F
      | 'b' => some 0x08
      | 'f' => some 0x0C
      | 'n' => some 0x0A
      | 'r' => some 0x0D
      | 't' => some 0x09
      | _ => none
    let (codes, rest) ← readCodes? rest
    return (code :: codes, rest)
  | c :: rest =>
    if c.toNat < 0x20 then none
    else (readCodes? rest).map fun (codes, rest) => (c.toNat :: codes, rest)

/-- The characters of a list of code points, a high and a low surrogate in a row making one. -/
def joinSurrogates? : List Nat → Option Text
  | [] => some []
  | [code] => if code.isValidChar then some [Char.ofNat code] else none
  | code :: next :: codes =>
    if code.isValidChar then (joinSurrogates? (next :: codes)).map (Char.ofNat code :: ·)
    else if code < 0xDC00 ∧ 0xDC00 ≤ next ∧ next < 0xE000 then
      (joinSurrogates? codes).map
        (Char.ofNat (0x10000 + (code - 0xD800) * 0x400 + (next - 0xDC00)) :: ·)
    else none

/-- A string after its opening mark, and what follows the closing mark. -/
def readString? (text : Text) : Option (Text × Text) := do
  let (codes, rest) ← readCodes? text
  return (← joinSurrogates? codes, rest)

/-- The values of the decimal digits in front of a text, and what follows them. -/
def readDigits (text : Text) : List Nat × Text :=
  ((text.takeWhile Char.isDigit).map fun c => c.toNat - '0'.toNat, text.dropWhile Char.isDigit)

/-- A number with digits added at its end while it stays below two to the power 64, and how many digits
are left. -/
def absorb (n : Nat) : List Nat → Nat × Nat
  | [] => (n, 0)
  | digit :: digits =>
    if 10 * n + digit < 0x10000000000000000 then absorb (10 * n + digit) digits
    else (n, digits.length + 1)

/-- The digits of the fraction of a number, if one is written, and what follows. -/
def readFraction? : Text → Option (Option (List Nat) × Text)
  | '.' :: text =>
    match readDigits text with
    | ([], _) => none
    | (digits, rest) => some (some digits, rest)
  | text => some (none, text)

/-- The exponent of a number, if one is written, and what follows. -/
def readExponent? (text : Text) : Option (Option Int × Text) :=
  let signed (sign : Int) (text : Text) : Option (Option Int × Text) :=
    match readDigits text with
    | ([], _) => none
    | (digits, rest) => some (some (sign * (digits.foldl (10 * · + ·) 0 : Nat)), rest)
  match text with
  | e :: rest =>
    if e = 'e' ∨ e = 'E' then
      match rest with
      | '+' :: rest => signed 1 rest
      | '-' :: rest => signed (-1) rest
      | rest => signed 1 rest
    else some (none, text)
  | [] => some (none, [])

/-- The integer of 64 bits that digits write, if they do. A zero with a sign is none. -/
def integer? (negative : Bool) (digits : List Nat) : Option Int :=
  match absorb 0 digits with
  | (n, 0) =>
    if !negative then some n
    else if n = 0 ∨ 0x8000000000000000 < n then none
    else some (-n)
  | _ => none

/-- The double that digits before and after a point and an exponent write. Digits beyond 64 bits do not
count. -/
def double? (negative : Bool) (digits fraction : List Nat) (exponent : Int) : Option Double :=
  let (whole, dropped) := absorb 0 digits
  let (n, cut) := absorb whole fraction
  Double.ofDecimal? negative n (dropped + cut - fraction.length + exponent)

/-- A number, whose sign has been read, and what follows it. A zero in front stands alone. -/
def readNumber? (negative : Bool) (text : Text) : Option (Json × Text) := do
  let (digits, rest) := readDigits text
  if digits = [] ∨ (1 < digits.length ∧ digits.head? = some 0) then none
  let (fraction, rest) ← readFraction? rest
  let (exponent, rest) ← readExponent? rest
  match fraction, exponent, integer? negative digits with
  | none, none, some n => return (.integer n, rest)
  | _, _, _ =>
    return (.double (← double? negative digits (fraction.getD []) (exponent.getD 0)), rest)

mutual

/-- The value in front of the text, and what follows it, in at most `steps` steps. -/
def readValue? : (steps : Nat) → Text → Option (Json × Text)
  | 0, _ => none
  | steps + 1, text =>
    match skipSpace text with
    | '"' :: rest => (readString? rest).map fun (value, rest) => (.string value, rest)
    | '[' :: rest =>
      match skipSpace rest with
      | ']' :: rest => some (.array [], rest)
      | rest => (readItems? steps rest).map fun (items, rest) => (.array items, rest)
    | '{' :: rest =>
      match skipSpace rest with
      | '}' :: rest => some (.object [], rest)
      | rest => (readFields? steps rest).map fun (fields, rest) => (.object (ofFields fields), rest)
    | '-' :: rest => readNumber? true rest
    | rest =>
      match Text.dropFront? ['n', 'u', 'l', 'l'] rest with
      | some rest => some (.null, rest)
      | none =>
        match Text.dropFront? ['t', 'r', 'u', 'e'] rest with
        | some rest => some (.bool true, rest)
        | none =>
          match Text.dropFront? ['f', 'a', 'l', 's', 'e'] rest with
          | some rest => some (.bool false, rest)
          | none => readNumber? false rest

/-- The items of an array through its closing bracket, and what follows it. -/
def readItems? : (steps : Nat) → Text → Option (List Json × Text)
  | 0, _ => none
  | steps + 1, text => do
    let (item, rest) ← readValue? steps text
    match skipSpace rest with
    | ',' :: rest => (readItems? steps rest).map fun (items, rest) => (item :: items, rest)
    | ']' :: rest => some ([item], rest)
    | _ => none

/-- The fields of an object through its closing brace, and what follows it. -/
def readFields? : (steps : Nat) → Text → Option (List (Text × Json) × Text)
  | 0, _ => none
  | steps + 1, text =>
    match skipSpace text with
    | '"' :: rest => do
      let (name, rest) ← readString? rest
      match skipSpace rest with
      | ':' :: rest =>
        let (value, rest) ← readValue? steps rest
        match skipSpace rest with
        | ',' :: rest =>
          (readFields? steps rest).map fun (fields, rest) => ((name, value) :: fields, rest)
        | '}' :: rest => some ([(name, value)], rest)
        | _ => none
      | _ => none
    | _ => none

end

/-- The value that a text writes, with nothing but white space around it. -/
def parse? (text : Text) : Option Json := do
  let (value, rest) ← readValue? (text.length + 1) text
  if skipSpace rest = [] then some value else none

end UsingAdvisor.Json
