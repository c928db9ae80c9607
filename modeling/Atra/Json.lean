import Mathlib.Data.List.Basic
/-!
# Json — JavaScript texts as UTF-16 code units, and the text JSON.stringify gives of a value

A text is the list of its code units, so that lengths, slices and lone surrogates are JavaScript's.  A number is an integer
where JavaScript prints plain digits, and otherwise the text it prints.
-/
namespace Js

/-- A JavaScript string: its UTF-16 code units. -/
abbrev Text := List Nat

/-- The code units of a character. -/
def unitsOf (c : Char) : Text :=
  if c.toNat < 0x10000 then [c.toNat] else [0xD800 + (c.toNat - 0x10000) / 0x400, 0xDC00 + (c.toNat - 0x10000) % 0x400]

def text (s : String) : Text := s.toList.flatMap unitsOf

/-- White space and line terminators, as `trim` takes them. -/
def isSpace (u : Nat) : Bool :=
  (9 ≤ u && u ≤ 13) || (0x2000 ≤ u && u ≤ 0x200A) ||
    [32, 0xA0, 0x1680, 0x2028, 0x2029, 0x202F, 0x205F, 0x3000, 0xFEFF].contains u

def trim (s : Text) : Text := ((s.dropWhile isSpace).reverse.dropWhile isSpace).reverse

inductive Json where
  | null
  | bool (b : Bool)
  | int (n : Int)
  | real (printed : Text)
  | str (s : Text)
  | arr (items : List Json)
  /-- An object's own members, in their order. -/
  | obj (members : List (Text × Json))

/-! ## Strings -/

def isHigh (u : Nat) : Bool := 0xD800 ≤ u && u < 0xDC00

def isLow (u : Nat) : Bool := 0xDC00 ≤ u && u < 0xE000

/-- A hexadecimal digit, in lower case. -/
def hexDigit (d : Nat) : Nat := if d < 10 then 48 + d else 87 + d

/-- `\uXXXX`. -/
def unicodeEscape (u : Nat) : Text :=
  [92, 117, hexDigit (u / 0x1000 % 16), hexDigit (u / 0x100 % 16), hexDigit (u / 0x10 % 16), hexDigit (u % 16)]

/-- A code unit that is not part of a surrogate pair, as JSON writes it: the quotation mark and the backslash behind a
backslash, five control characters by their letters, other control characters and lone surrogates by their numbers. -/
def escape (u : Nat) : Text :=
  if u = 34 then [92, 34]
  else if u = 92 then [92, 92]
  else if u = 8 then [92, 98]
  else if u = 12 then [92, 102]
  else if u = 10 then [92, 110]
  else if u = 13 then [92, 114]
  else if u = 9 then [92, 116]
  else if u < 32 || isHigh u || isLow u then unicodeEscape u
  else [u]

/-- The content of a JSON string; surrogate pairs stand as they are. -/
def escapeAll : Text → Text
  | [] => []
  | [u] => escape u
  | u :: v :: rest =>
    if isHigh u && isLow v then u :: v :: escapeAll rest else escape u ++ escapeAll (v :: rest)

def quote (s : Text) : Text := 34 :: (escapeAll s ++ [34])

/-! ## Values -/

mutual

/-- `JSON.stringify(value)`. -/
def stringify : Json → Text
  | .null => text "null"
  | .bool true => text "true"
  | .bool false => text "false"
  | .int n => text (toString n)
  | .real printed => printed
  | .str s => quote s
  | .arr items => text "[" ++ stringifyItems items ++ text "]"
  | .obj members => text "\x7b" ++ stringifyMembers members ++ text "\x7d"

def stringifyItems : List Json → Text
  | [] => []
  | [item] => stringify item
  | item :: items => stringify item ++ 44 :: stringifyItems items

def stringifyMembers : List (Text × Json) → Text
  | [] => []
  | [(name, value)] => quote name ++ 58 :: stringify value
  | (name, value) :: members => quote name ++ 58 :: (stringify value ++ 44 :: stringifyMembers members)

end

/-- A member of an object. -/
def Json.get (j : Json) (name : Text) : Option Json :=
  match j with
  | .obj members => members.lookup name
  | _ => none

end Js
