import UsingAdvisor.Json

/-!
# Writing JSON

Two forms of one grammar: the compact form on a single line, and the indented form with one item a
line, two spaces a level and nothing inside an empty array or object. A string is written as it is
but for the quotation mark, the backslash and the control characters below U+0020, which are escaped,
five of them by a letter and the others by four lowercase hexadecimal digits.
-/

namespace UsingAdvisor.Json

/-- The lowercase hexadecimal digit of a number below sixteen. -/
def hexDigit (n : Nat) : Char :=
  Nat.digitChar n

/-- A character as it stands inside a string. -/
def escape (c : Char) : Text :=
  if c = '"' then ['\\', '"']
  else if c = '\\' then ['\\', '\\']
  else if c.toNat < 0x20 then
    match c.toNat with
    | 0x08 => ['\\', 'b']
    | 0x09 => ['\\', 't']
    | 0x0A => ['\\', 'n']
    | 0x0C => ['\\', 'f']
    | 0x0D => ['\\', 'r']
    | n => ['\\', 'u', '0', '0', hexDigit (n / 16), hexDigit (n % 16)]
  else [c]

/-- A string in quotation marks. -/
def quote (value : Text) : Text :=
  '"' :: (value.flatMap escape ++ ['"'])

/-- The decimal digits of an integer. -/
def integerText : Int → Text
  | .ofNat n => Text.ofNat n
  | .negSucc n => '-' :: Text.ofNat (n + 1)

/-- A double with the fewest digits that stand for it. It has a point, with a digit on each side, where
its first digit is among the sixteen places before the point or the five after it, and an exponent
otherwise. -/
def doubleText (value : Double) : Text :=
  let shortest := Double.shortest value.units
  let digits := Text.ofNat shortest.digits
  let before : Int := digits.length + shortest.scale
  let zeros (count : Int) : Text := List.replicate count.toNat '0'
  let size : Text :=
    if before ≤ -5 ∨ 16 < before then
      digits.take 1 ++ (if digits.length = 1 then [] else '.' :: digits.drop 1) ++
        'e' :: integerText (before - 1)
    else if before ≤ 0 then '0' :: '.' :: (zeros (-before) ++ digits)
    else
      let fraction := digits.drop before.toNat
      digits.take before.toNat ++ zeros shortest.scale ++
        '.' :: (if fraction = [] then ['0'] else fraction)
  if value.negative then '-' :: size else size

/-- Where items stand: on one line, or one a line at a depth. -/
inductive Layout where
  | compact
  | indented (depth : Nat)

namespace Layout

/-- The layout of the items inside. -/
def inside : Layout → Layout
  | compact => compact
  | indented depth => indented (depth + 1)

/-- What stands in front of an item, or of the closing bracket. -/
def lead : Layout → Text
  | compact => []
  | indented depth => '\n' :: List.replicate (2 * depth) ' '

/-- What stands between a field's name and its value. -/
def colon : Layout → Text
  | compact => [':']
  | indented _ => [':', ' ']

end Layout

mutual

/-- A value in a layout. -/
def render (layout : Layout) : Json → Text
  | .null => ['n', 'u', 'l', 'l']
  | .bool true => ['t', 'r', 'u', 'e']
  | .bool false => ['f', 'a', 'l', 's', 'e']
  | .integer value => integerText value
  | .double value => doubleText value
  | .string value => quote value
  | .array [] => ['[', ']']
  | .array (item :: items) =>
    '[' :: (layout.inside.lead ++ (render layout.inside item ++
      (renderItems layout.inside items ++ (layout.lead ++ [']']))))
  | .object [] => ['{', '}']
  | .object ((name, value) :: fields) =>
    '{' :: (layout.inside.lead ++ (quote name ++ (layout.colon ++ (render layout.inside value ++
      (renderFields layout.inside fields ++ (layout.lead ++ ['}']))))))

/-- The items of an array after the first. -/
def renderItems (layout : Layout) : List Json → Text
  | [] => []
  | item :: items =>
    ',' :: (layout.lead ++ (render layout item ++ renderItems layout items))

/-- The fields of an object after the first. -/
def renderFields (layout : Layout) : List (Text × Json) → Text
  | [] => []
  | (name, value) :: fields =>
    ',' :: (layout.lead ++ (quote name ++ (layout.colon ++ (render layout value ++
      renderFields layout fields))))

end

/-- A value on one line, without spaces. -/
def compact (value : Json) : Text :=
  render .compact value

/-- A value with one item a line. -/
def pretty (value : Json) : Text :=
  render (.indented 0) value

end UsingAdvisor.Json
