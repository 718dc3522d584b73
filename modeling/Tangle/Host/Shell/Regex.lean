import Tangle.Host.Shell.Pattern

/-! # Regular expressions

What an expression is, and how it is matched. All the places that a part of an expression can lead to are
kept at once, in the order in which the expression prefers them. Without references back to groups, the first
way to a place stands for all later ones, so that there are never more of them than places in the text. -/
namespace Tangle.Shell

/-- How often a repeated part is tried: as often as it can, or as seldom. -/
inductive Greed where
  | greedy
  | modest
deriving DecidableEq, Repr

inductive Regex where
  | exact (s : Symbol)
  | any
  | set (isNegated : Bool) (items : List SetItem)
  /-- The start of the text, or of a line of it. -/
  | start
  | finish
  | textStart
  | textFinish
  | wordStart
  | wordEnd
  | wordBound (isNegated : Bool)
  | back (n : Nat)
  /-- Alternatives. The place where a numbered group matches is kept. -/
  | group (n : Option Nat) (alternatives : List (List Regex))
  | repeated (r : Regex) (least : Nat) (most : Option Nat) (greed : Greed)
  /-- What has to stand, or not to stand, ahead of a place or behind it. -/
  | look (isAhead isNegated : Bool) (alternatives : List (List Regex))
  /-- The preferred one of the ways through, and no other. -/
  | once (alternatives : List (List Regex))
  /-- The match is shown from here on only. -/
  | keep
deriving Repr

namespace Regex

/-- How expressions are matched. -/
structure Rules where
  ignoresCase : Bool := false
  /-- Whether anchors hold at every line of the text. -/
  isMultiline : Bool := false
  /-- Whether the preferred match counts rather than the longest one. -/
  isPreferred : Bool := false

/-- A place in the text, with the symbol before it, what is left, and where groups matched. -/
structure Spot where
  before : Option Symbol
  rest : Text
  offset : Nat
  groups : List (Nat × Nat × Nat) := []
  /-- Where the match is shown from. -/
  kept : Option Nat := none

/-- What is matched, and how. -/
structure Subject where
  rules : Rules
  whole : Text
  /-- Whether ways to one place differ by their groups. -/
  tellsApart : Bool

/-! References back -/

mutual

def refersBack : Regex → Bool
  | .back _ => true
  | .group _ as => anyRefersBack as
  | .repeated r _ _ _ => refersBack r
  | .look _ _ as => anyRefersBack as
  | .once as => anyRefersBack as
  | _ => false

def allRefersBack : List Regex → Bool
  | [] => false
  | r :: rs => refersBack r || allRefersBack rs

def anyRefersBack : List (List Regex) → Bool
  | [] => false
  | rs :: as => allRefersBack rs || anyRefersBack as

end

/-! The number of groups -/

mutual

/-- The greatest number of a group in an expression. -/
def countGroups : Regex → Nat
  | .group n as => max (n.getD 0) (countGroupsAny as)
  | .repeated r _ _ _ => countGroups r
  | .look _ _ as => countGroupsAny as
  | .once as => countGroupsAny as
  | _ => 0

def countGroupsAll : List Regex → Nat
  | [] => 0
  | r :: rs => max (countGroups r) (countGroupsAll rs)

def countGroupsAny : List (List Regex) → Nat
  | [] => 0
  | rs :: as => max (countGroupsAll rs) (countGroupsAny as)

end

/-! Places -/

/-- The first of the spots at each place. -/
def firstWays (ss : List Spot) : List Spot :=
  (ss.foldl (fun (acc : Nat × List Spot) s =>
    if acc.1.testBit s.offset then acc else (acc.1 ||| (1 <<< s.offset), s :: acc.2)) (0, [])).2.reverse

def Subject.distinct (m : Subject) : List Spot → List Spot
  | [] => []
  | [s] => [s]
  | ss => if m.tellsApart then ss else firstWays ss

def isWordSymbol (s : Option Symbol) : Bool := s.any fun s => s.holds (SetItem.classOf "word")

def stepBy (p : Symbol → Bool) (s : Spot) : List Spot :=
  match s.rest with
  | c :: r => if p c then [{ s with before := some c, rest := r, offset := s.offset + 1 }] else []
  | [] => []

def keepIf (b : Bool) (s : Spot) : List Spot := if b then [s] else []

/-- Passes over a text that matched before. -/
def passOver (ignoresCase : Bool) : Text → Spot → List Spot
  | [], s => [s]
  | t :: ts, s =>
    match s.rest with
    | c :: r =>
      if Pattern.fold ignoresCase c == Pattern.fold ignoresCase t then
        passOver ignoresCase ts { s with before := some c, rest := r, offset := s.offset + 1 }
      else []
    | [] => []

def Subject.groupText (m : Subject) (s : Spot) (n : Nat) : Option Text :=
  (s.groups.lookup n).map fun (a, b) => (m.whole.drop a).take (b - a)

def setGroup (n : Nat) (from_ : Nat) (s : Spot) : Spot :=
  { s with groups := (n, from_, s.offset) :: s.groups.filter (·.1 ≠ n) }

/-- The symbols that an expression of one symbol matches. -/
def Subject.single? (m : Subject) : Regex → Option (Symbol → Bool)
  | .exact c =>
    if m.rules.ignoresCase then
      let folded := c.toLower
      some fun x => x.toLower == folded
    else some (· == c)
  | .any => some fun x => x.holds (· ≠ '\x00')
  | .set isNegated items => some fun x => x.holds (fun _ => true) && Pattern.setHolds m.rules.ignoresCase items x != isNegated
  | _ => none

/-- The spots that repeated steps over single symbols lead to, the nearest last. -/
def run (p : Symbol → Bool) (before : Option Symbol) : Text → (offset : Nat) → (most : Option Nat) → Spot →
    List Spot → List Spot
  | rest, offset, most, s, found =>
    let found := { s with before, rest, offset } :: found
    match rest, most with
    | _, some 0 => found
    | [], _ => found
    | c :: r, _ => if p c then run p (some c) r (offset + 1) (most.map (· - 1)) s found else found

/-- Where repetition has been, and what it has found, newest first. -/
structure Walk where
  visited : Nat := 0
  found : List Spot := []

/-- Repeats a step as long as it leads on. A place that has been visited with as many steps left leads nowhere
new. -/
def walk (f : Spot → List Spot) (greed : Greed) (tellsApart : Bool) (stride : Nat) :
    Nat → (most : Option Nat) → Spot → Walk → Walk
  | 0, _, s, w => { w with found := s :: w.found }
  | n + 1, most, s, w =>
    let key := s.offset * stride + most.getD 0
    if w.visited.testBit key && !tellsApart then w
    else
      let w := if tellsApart then w else { w with visited := w.visited ||| (1 <<< key) }
      if most = some 0 then { w with found := s :: w.found }
      else
        let next := (f s).filter (·.offset ≠ s.offset)
        let onward (w : Walk) : Walk :=
          next.foldl (fun w t => walk f greed tellsApart stride n (most.map (· - 1)) t w) w
        match greed with
        | .greedy =>
          let w := onward w
          { w with found := s :: w.found }
        | .modest => onward { w with found := s :: w.found }

def times (m : Subject) (f : Spot → List Spot) : Nat → List Spot → List Spot
  | 0, ss => ss
  | n + 1, ss => if ss.isEmpty then [] else times m f n (m.distinct (ss.flatMap f))

/-- The spots that a number of repetitions leads to. -/
def Subject.repeated (m : Subject) (f : Spot → List Spot) (least : Nat) (most : Option Nat) (greed : Greed)
    (s : Spot) : List Spot :=
  let most := most.map (· - least)
  let stride := most.getD 0 + 1
  m.distinct ((times m f least [s]).flatMap fun s =>
    (walk f greed m.tellsApart stride (s.rest.length + 1) most s {}).found.reverse)

/-- The spot at an offset of the text. -/
def Subject.spotAt (m : Subject) (offset : Nat) : Spot :=
  { before := if offset = 0 then none else m.whole[offset - 1]?, rest := m.whole.drop offset, offset }

/-! Matching -/

mutual

/-- The places that an expression can lead to, in the order of preference. -/
def leads (m : Subject) : Regex → Spot → List Spot
  | .exact c, s => stepBy ((m.single? (.exact c)).getD fun _ => false) s
  | .any, s => stepBy ((m.single? .any).getD fun _ => false) s
  | .set isNegated items, s => stepBy ((m.single? (.set isNegated items)).getD fun _ => false) s
  | .start, s => keepIf (s.offset = 0 || (m.rules.isMultiline && s.before == some Symbol.newline)) s
  | .finish, s => keepIf (s.rest.isEmpty || (m.rules.isMultiline && s.rest.head? == some Symbol.newline)) s
  | .textStart, s => keepIf (s.offset = 0) s
  | .textFinish, s => keepIf s.rest.isEmpty s
  | .wordStart, s => keepIf (!isWordSymbol s.before && isWordSymbol s.rest.head?) s
  | .wordEnd, s => keepIf (isWordSymbol s.before && !isWordSymbol s.rest.head?) s
  | .wordBound isNegated, s => keepIf ((isWordSymbol s.before != isWordSymbol s.rest.head?) != isNegated) s
  | .back k, s =>
    match m.groupText s k with
    | some t => passOver m.rules.ignoresCase t s
    | none => []
  | .group n as, s =>
    let ends := m.distinct (leadsAny m as s)
    match n with
    | some k => ends.map (setGroup k s.offset)
    | none => ends
  | .repeated r least most greed, s =>
    match m.single? r with
    | some p =>
      let spots := run p s.before s.rest s.offset most s []
      let spots := spots.take (spots.length - least)
      match greed with
      | .greedy => spots
      | .modest => spots.reverse
    | none => m.repeated (leads m r) least most greed s
  | .look isAhead isNegated as, s =>
    let found : Option Spot :=
      if isAhead then (leadsAny m as s).head?
      else ((List.range (s.offset + 1)).map fun k => m.spotAt (s.offset - k)).findSome? fun t =>
        (leadsAny m as { t with groups := s.groups }).find? (·.offset = s.offset)
    match found, isNegated with
    | some t, false => [{ s with groups := t.groups }]
    | none, true => [s]
    | _, _ => []
  | .once as, s => (leadsAny m as s).take 1
  | .keep, s => [{ s with kept := some s.offset }]

def leadsThrough (m : Subject) : List Regex → List Spot → List Spot
  | [], ss => ss
  | r :: rs, ss => if ss.isEmpty then [] else leadsThrough m rs (m.distinct (ss.flatMap (leads m r)))

def leadsAny (m : Subject) : List (List Regex) → Spot → List Spot
  | [], _ => []
  | rs :: as, s => leadsThrough m rs [s] ++ leadsAny m as s

end

/-- A match: where it begins and ends, and where its groups do. -/
structure Match where
  first : Nat
  last : Nat
  groups : List (Nat × Nat × Nat)
deriving Repr

/-- The spot that counts: the first that is as far away as any, or the preferred one. -/
def Rules.choice (rules : Rules) : List Spot → Option Spot
  | [] => none
  | s :: ss => some (if rules.isPreferred then s else ss.foldl (fun a b => if a.offset < b.offset then b else a) s)

/-- The match at the first place from an offset on. -/
def find (r : Regex) (rules : Rules) (whole : Text) (from_ : Nat) : Option Match :=
  go ⟨rules, whole, refersBack r⟩ (if from_ = 0 then none else whole[from_ - 1]?) (whole.drop from_) from_
where
  go (m : Subject) (before : Option Symbol) : Text → Nat → Option Match
    | rest, offset =>
      match m.rules.choice (leads m r { before, rest, offset }) with
      | some s => some ⟨s.kept.getD offset, s.offset, s.groups⟩
      | none =>
        match rest with
        | c :: t => go m (some c) t (offset + 1)
        | [] => none

def isFound (r : Regex) (rules : Rules) (t : Text) : Bool := (find r rules t 0).isSome

/-- The match at the start of a text. -/
def atStart (r : Regex) (rules : Rules) (t : Text) : Option Match :=
  (rules.choice (leads ⟨rules, t, refersBack r⟩ r { before := none, rest := t, offset := 0 })).map fun s =>
    ⟨0, s.offset, s.groups⟩

def Match.text (m : Match) (whole : Text) : Text := (whole.drop m.first).take (m.last - m.first)

def Match.group? (m : Match) (whole : Text) (n : Nat) : Option Text :=
  if n = 0 then some (m.text whole)
  else (m.groups.lookup n).map fun (a, b) => (whole.drop a).take (b - a)

end Regex
end Tangle.Shell
