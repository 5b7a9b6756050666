/-
# VectorClient.Text.Quoted — quoted text and quoted bytes

A quoted text stands between single quotes, or between double quotes if it
holds a single quote and no double one.  The quote in use and the backslash are
escaped by a backslash, tabs and line ends by their letters, hidden characters
by number; everything else stands for itself.  Quoted bytes follow the same
rule with a leading `b`, every byte outside visible ASCII by number.  What holds
several values is put together from their texts.
-/
import VectorClient.Text.Hidden

namespace VectorClient.Text

set_option autoImplicit false

/-- The low `width` hexadecimal digits of a number. -/
def hexDigits (width n : Nat) : List Char :=
  (List.range width).reverse.map fun i => Nat.digitChar (n / Nat.pow 16 i % 16)

/-- Two hexadecimal digits a byte. -/
def hex (bytes : List UInt8) : String :=
  String.ofList (bytes.flatMap fun b => hexDigits 2 b.toNat)

/-- An escape by number, in the shortest of its three widths. -/
def escapeByNumber (n : Nat) : List Char :=
  if n ≤ 0xff then '\\' :: 'x' :: hexDigits 2 n
  else if n ≤ 0xffff then '\\' :: 'u' :: hexDigits 4 n
  else '\\' :: 'U' :: hexDigits 8 n

def escapeChar (quote c : Char) : List Char :=
  if c = quote ∨ c = '\\' then ['\\', c]
  else if c = '\t' then ['\\', 't']
  else if c = '\n' then ['\\', 'n']
  else if c = '\r' then ['\\', 'r']
  else if isHidden c then escapeByNumber c.toNat
  else [c]

def chooseQuote (cs : List Char) : Char :=
  if cs.contains '\'' && !cs.contains '"' then '"' else '\''

/-- The text between its quotes. -/
def quoted (s : String) : String :=
  let cs := s.toList
  let quote := chooseQuote cs
  String.ofList (quote :: cs.flatMap (escapeChar quote) ++ [quote])

/-- A name between single quotes, as it is. -/
def between (name : String) : String := "'" ++ name ++ "'"

/-- A byte as the character of its number; the bytes past ASCII are hidden. -/
def escapeByte (quote : Char) (b : UInt8) : List Char :=
  if b.toNat < 0x7f then escapeChar quote (Char.ofNat b.toNat) else escapeByNumber b.toNat

/-- The bytes between quotes, with the leading mark, each escaped as `escape` says. -/
def quotedBytesWith (escape : (quote : Char) → UInt8 → List Char) (bytes : List UInt8) : String :=
  let quote := chooseQuote (bytes.map fun b => Char.ofNat b.toNat)
  String.ofList ('b' :: quote :: bytes.flatMap (escape quote) ++ [quote])

def quotedBytes (bytes : List UInt8) : String := quotedBytesWith escapeByte bytes

/-- The bytes of an array, a single quote escaped between double quotes as well. -/
def quotedByteArray (bytes : List UInt8) : String :=
  quotedBytesWith (fun quote b =>
    if b.toNat = 0x27 then ['\\', '\''] else escapeByte quote b) bytes

/-- A list in brackets, its members separated by a comma and a space. -/
def bracketed (opening : String) (items : List String) (closing : String) : String :=
  opening ++ String.intercalate ", " items ++ closing

/-- A tuple; one of a single element keeps a comma behind it. -/
def tupleText (items : List String) : String :=
  match items with
  | [item] => "(" ++ item ++ ",)"
  | items => bracketed "(" items ")"

def dictText (entries : List String) : String := bracketed "\x7b" entries "\x7d"

/-- One entry of a dictionary. -/
def pairText (key value : String) : String := key ++ ": " ++ value

/-- An object of a class, with its fields. -/
def objectText (title : String) (fields : List String) : String :=
  bracketed (title ++ "(") fields ")"

/-- One field of an object. -/
def fieldText (name value : String) : String := name ++ "=" ++ value

def truthText (b : Bool) : String := if b then "True" else "False"

/-- What stands for no value. -/
def noneText : String := "None"

/-- A list of names, each quoted. -/
def quotedNames (names : List String) : String := bracketed "[" (names.map quoted) "]"

end VectorClient.Text
