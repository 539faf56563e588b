import FieldRules.Format.Address
import FieldRules.Format.Url.DomainName
import FieldRules.Text.Numeral

namespace FieldRules.Url

/-- Bytes of a text in which a percent sign and two hexadecimal digits stand for a byte. -/
def percentDecode : List Char → List UInt8
  | '%' :: a :: b :: cs =>
    match Text.hexValue? a, Text.hexValue? b with
    | some x, some y => (16 * x + y).toUInt8 :: percentDecode cs
    | _, _ => String.utf8EncodeChar '%' ++ percentDecode (a :: b :: cs)
  | c :: cs => String.utf8EncodeChar c ++ percentDecode cs
  | [] => []

def utf8? (bytes : List UInt8) : Option (List Char) :=
  (String.fromUTF8? ⟨bytes.toArray⟩).map String.toList

/-- A number of an address: decimal, octal behind `0` or hexadecimal behind `0x`. -/
def addressNumber? (cs : List Char) : Option Nat :=
  match cs with
  | [] => none
  | '0' :: 'x' :: ds => inBase 16 ds
  | '0' :: d :: ds => inBase 8 (d :: ds)
  | ds => inBase 10 ds
where
  inBase (base : Nat) (ds : List Char) : Option Nat := do
    let values ← ds.mapM Text.hexValue?
    if values.all (· < base) then some (values.foldl (fun n d => base * n + d) 0) else none

/-- Labels without an empty one at the end. -/
def withoutRoot (labels : List (List Char)) : List (List Char) :=
  if labels.getLast? = some [] then labels.dropLast else labels

/-- A name whose last label is a number is an address. -/
def endsInNumber (labels : List (List Char)) : Bool :=
  match (withoutRoot labels).getLast? with
  | none => false
  | some last => (last != [] && last.all Char.isDigit) || (addressNumber? last).isSome

/-- An address of at most four numbers: all but the last are bytes, and that fills what they
leave. -/
def isAddress (labels : List (List Char)) : Bool :=
  match (withoutRoot labels).mapM addressNumber? with
  | none => false
  | some numbers =>
    numbers.length ≤ 4 && numbers.dropLast.all (· < 256) &&
      numbers.getLast?.any (· < Nat.pow 256 (5 - numbers.length))

/-- What a group of an address of eight groups ends with. -/
def splitGroup (cs : List Char) : List Char × List Char :=
  let n := min 4 (cs.takeWhile fun c => (Text.hexValue? c).isSome).length
  (cs.take n, cs.drop n)

/-- Groups of an address, of which `count` have been read; two colons stand for one or more groups,
once. The last two groups may be four bytes. -/
def areGroups : (fuel count : Nat) → (compressed : Bool) → List Char → Bool
  | 0, _, _, _ => false
  | _ + 1, count, compressed, [] => compressed || count == 8
  | fuel + 1, count, compressed, c :: cs =>
    if count = 8 then false
    else if c = ':' then !compressed && areGroups fuel (count + 1) true cs
    else match splitGroup (c :: cs) with
      | (_, []) => compressed || count + 1 == 8
      | (group, d :: rest) =>
        if d = '.' then
          group != [] && count ≤ 6 && (compressed || count + 2 == 8) && Address.isV4 (c :: cs)
        else d == ':' && rest != [] && areGroups fuel (count + 1) compressed rest

/-- An address in brackets, behind the opening one. -/
def isBracketed (cs : List Char) : Bool :=
  cs.getLast? == some ']' &&
    match cs.dropLast with
    | ':' :: ':' :: rest => areGroups cs.length 1 true rest
    | ':' :: _ => false
    | [_] => false
    | inner => areGroups cs.length 0 false inner

/-- A host where the scheme fixes what hosts are: an address or a domain name. -/
def isHost (cs : List Char) : Bool :=
  match cs with
  | '[' :: inner => isBracketed inner
  | cs => match (utf8? (percentDecode cs)).bind labels? with
    | none => false
    | some labels => labels != [[]] && (!endsInNumber labels || isAddress labels)

/-- Characters that no host holds where the scheme leaves hosts open. -/
def isForbiddenInOpen (c : Char) : Bool := c == '\x00' || " #/:<>?@[\\]^|".toList.contains c

def isOpenHost (cs : List Char) : Bool :=
  match cs with
  | '[' :: inner => isBracketed inner
  | cs => !cs.any isForbiddenInOpen

end FieldRules.Url
