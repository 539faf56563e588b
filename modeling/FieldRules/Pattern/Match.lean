import FieldRules.Pattern.Basic

namespace FieldRules

/-- A place in a text. -/
structure Place where
  index : Nat
  before : Option Char
  after : List Char

namespace Place

/-- The places of a text, from one on. -/
def placesFrom (index : Nat) (before : Option Char) : List Char → List Place
  | [] => [⟨index, before, []⟩]
  | c :: cs => ⟨index, before, c :: cs⟩ :: placesFrom (index + 1) (some c) cs

def ofText (cs : List Char) : List Place := placesFrom 0 none cs

/-- The next place, over a character of the set. -/
def over? (s : Unicode.CodeSet) (p : Place) : Option Place :=
  match p.after with
  | [] => none
  | c :: cs => if s.contains c then some ⟨p.index + 1, some c, cs⟩ else none

def merge : List Place → List Place → List Place
  | [], qs => qs
  | ps, [] => ps
  | p :: ps, q :: qs =>
    if p.index < q.index then p :: merge ps (q :: qs)
    else if q.index < p.index then q :: merge (p :: ps) qs
    else p :: merge ps qs
termination_by ps qs => ps.length + qs.length

/-- Places of the first list that are not in the second. -/
def minus (ps qs : List Place) : List Place :=
  ps.filter fun p => !qs.any fun q => q.index == p.index

/-- Places that `step` reaches in at most `rounds` rounds, those in `found` included, of which
`fresh` are yet to be gone on from. -/
def reach (step : List Place → List Place) :
    (rounds : Nat) → (found fresh : List Place) → List Place
  | 0, found, _ => found
  | _ + 1, found, [] => found
  | rounds + 1, found, p :: fresh =>
    let next := minus (step (p :: fresh)) found
    reach step rounds (merge found next) next

end Place

/-- Whether the word before or after a place makes an edge there. -/
def WordEdge.holds (edge : WordEdge) (before after : Bool) : Bool :=
  match edge with
  | any => before != after
  | none => before == after
  | start => !before && after
  | stop => before && !after
  | startHalf => !before
  | stopHalf => !after

/-- With `crlf`, a carriage return and a line feed end a line each, and both together one. -/
def Look.holds (l : Look) (p : Place) : Bool :=
  match l with
  | textStart => p.before.isNone
  | textEnd => p.after.isEmpty
  | lineStart crlf => match p.before with
    | none => true
    | some c => c == '\n' || (crlf && c == '\r' && p.after.head? != some '\n')
  | lineEnd crlf => match p.after with
    | [] => true
    | c :: _ =>
      if crlf then c == '\r' || (c == '\n' && p.before != some '\r') else c == '\n'
  | word edge letters =>
    edge.holds (p.before.any letters.contains) (p.after.head?.any letters.contains)

namespace Pattern

mutual
/-- Places where matches end that begin at one of the given places; `size` bounds their number. -/
def ends (size : Nat) : Pattern → List Place → List Place
  | flags, ps => ps
  | set s _, ps => ps.filterMap (Place.over? s)
  | look l, ps => ps.filter l.holds
  | group _ r, ps => r.ends size ps
  | times min max r, ps =>
    let least := Nat.repeat (r.ends size) min ps
    Place.reach (r.ends size) ((max.map (· - min)).getD size) least least
  | concat rs, ps => endsOfAll size rs ps
  | either rs, ps => endsOfAny size rs ps

def endsOfAll (size : Nat) : List Pattern → List Place → List Place
  | [], ps => ps
  | r :: rs, ps => endsOfAll size rs (r.ends size ps)

def endsOfAny (size : Nat) : List Pattern → List Place → List Place
  | [], _ => []
  | r :: rs, ps => Place.merge (r.ends size ps) (endsOfAny size rs ps)
end

/-- Whether some part of the text matches. -/
def isMatch (r : Pattern) (cs : List Char) : Bool :=
  !(r.ends (cs.length + 2) (Place.ofText cs)).isEmpty

end Pattern
end FieldRules
