import FieldRules.Verb.Basic
import FieldRules.Format.NationalCode
import FieldRules.Json.Reader
import FieldRules.Format.Address
import FieldRules.Format.Url
import FieldRules.Format.Uuid
import FieldRules.Format.Contact
import FieldRules.Pattern.Match
import FieldRules.Pattern.Reader

namespace FieldRules

inductive TextVerb where
  | national | filled | json | url | uuid | ip | ipv4 | ipv6 | email | mobile | phone
  | oneOf | noneOf | inArray | size | min | max | between | username | alphaNum | alpha
  | regex | notRegex | contains | startsWith | endsWith | same | different
  deriving DecidableEq

namespace TextVerb

def all : List TextVerb :=
  [national, filled, json, url, uuid, ip, ipv4, ipv6, email, mobile, phone, oneOf, noneOf, inArray,
    size, min, max, between, username, alphaNum, alpha, regex, notRegex, contains, startsWith,
    endsWith, same, different]

def name : TextVerb → String
  | national => "national"
  | filled => "filled"
  | json => "json"
  | url => "url"
  | uuid => "uuid"
  | ip => "ip"
  | ipv4 => "ipv4"
  | ipv6 => "ipv6"
  | email => "email"
  | mobile => "mobile"
  | phone => "phone"
  | oneOf => "in"
  | noneOf => "notIn"
  | inArray => "inArray"
  | size => "size"
  | min => "min"
  | max => "max"
  | between => "between"
  | username => "username"
  | alphaNum => "alphaNum"
  | alpha => "alpha"
  | regex => "regex"
  | notRegex => "notRegex"
  | contains => "contains"
  | startsWith => "startsWith"
  | endsWith => "endsWith"
  | same => "same"
  | different => "different"

/-- These compare raw values of the document, and so also run when the field has none. -/
def readsDocument : TextVerb → Bool
  | same => true
  | different => true
  | _ => false

/-- Fails with `kind` unless `p` accepts the text. -/
def check (kind : String) (p : List Char → Bool) (f : Field) : Except Failure Field := do
  f.verify (p (← f.text).toList) (f.fail kind)

def isJsonObject (cs : List Char) : Bool :=
  match Json.readChars cs with
  | .ok (.object _) => true
  | _ => false

def alphaKind (args : List String) : String :=
  if args.contains "fa" && !args.contains "en" then "string.persian" else "string.alpha"

/-- Letters of the languages that are asked for: `fa`, `en`, both, or `en` when neither is. -/
def isAlphaChar (args : List String) (c : Char) : Bool :=
  (args.contains "fa" && Contact.isArabicBlock c) ||
    ((args.contains "en" || !args.contains "fa") && c.isAlphanum)

def pattern (f : Field) : Except Failure Pattern := do
  f.require (Pattern.ofText? (← f.arg 0).toList)

/-- Passes if the text goes with one of the arguments. -/
def affix (kind : String) (goes : (part text : List Char) → Bool) (f : Field) :
    Except Failure Field :=
  if f.args = [] then .error f.invalid
  else do
    let text := (← f.text).toList
    f.verify (f.args.any fun part => goes part.toList text)
      ((f.fail kind).withText (",".intercalate f.args))

/-- The raw values of the field and of the one that the first argument names. -/
def pair (d : Document) (f : Field) : Except Failure (String × Value × Value) := do
  let other ← f.arg 0
  match d.get? f.name, d.get? other with
  | some v, some w => .ok (other, v, w)
  | _, _ => .error f.invalid

def length (f : Field) : Except Failure Nat := do return (← f.text).length

/-- Holds the length of the text against a count. -/
def bound (kind : String) (holds : (length n : Nat) → Bool) (f : Field) : Except Failure Field := do
  let n ← f.argCount 0
  f.verify (holds (← length f) n) ((f.fail kind).withText (toString n))

def run : TextVerb → Handler
  | national, _, _, f =>
    check "string.national" (fun cs => NationalCode.isValid (String.ofList cs)) f
  | filled, _, _, f => check "string.filled" (· != []) f
  | json, _, _, f => check "string.json" isJsonObject f
  | url, _, _, f => check "string.url" Url.isValid f
  | uuid, _, _, f => check "string.uuid" Uuid.isValid f
  | ip, _, _, f => check "string.ip" Address.isValid f
  | ipv4, _, _, f => check "string.ipv4" Address.isV4 f
  | ipv6, _, _, f => check "string.ipv6" Address.isV6 f
  | email, _, _, f => check "string.email" Contact.isEmail f
  | mobile, _, _, f => check "string.mobile" Contact.isMobile f
  | phone, _, _, f => check "string.phone" Contact.isPhone f
  | oneOf, _, _, f => do
    f.verify (f.args.contains (← f.text)) (f.fail "string.in")
  | noneOf, _, _, f => do
    f.verify (!f.args.contains (← f.text)) (f.fail "string.notIn")
  | inArray, _, d, f => do
    let other ← f.arg 0
    let text ← f.text
    let items := ((d.get? other).bind Value.sequence?).getD []
    f.verify (items.any fun item => item.text? == some text)
      ((f.fail "string.inArray").withField other)
  | size, _, _, f => bound "string.size" (fun length n => length == n) f
  | min, _, _, f => bound "string.min" (fun length n => n ≤ length) f
  | max, _, _, f => bound "string.max" (fun length n => length ≤ n) f
  | between, _, _, f => do
    let low ← f.argCount 0
    let high ← f.argCount 1
    let n ← length f
    f.verify (low ≤ n && n ≤ high)
      ((f.fail "string.between").withText (toString low) |>.withText (toString high))
  | username, _, _, f => check "string.username" Contact.isUsername f
  | alphaNum, _, _, f =>
    check "string.alphaNum" (Contact.isWords fun c => c.isAlphanum || c == '.' || c == '-') f
  | alpha, _, _, f => check (alphaKind f.args) (Contact.isWords (isAlphaChar f.args)) f
  | regex, _, _, f => do
    let p ← pattern f
    check "string.regex" p.isMatch f
  | notRegex, _, _, f => do
    let p ← pattern f
    check "string.regex" (fun cs => !p.isMatch cs) f
  | contains, _, _, f => affix "string.contains" Text.contains f
  | startsWith, _, _, f => affix "string.startsWith" Text.startsWith f
  | endsWith, _, _, f => affix "string.endsWith" Text.endsWith f
  | same, _, d, f => do
    let (other, v, w) ← pair d f
    f.verify (v == w) ((f.fail "same").withField other)
  | different, _, d, f => do
    let (other, v, w) ← pair d f
    f.verify (!(v == w)) ((f.fail "different").withField other)

end TextVerb
end FieldRules
