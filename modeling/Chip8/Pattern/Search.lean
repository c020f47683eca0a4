import Chip8.Pattern

/-!
Searching for a pattern.

In a given text a pattern leads from a place to other places: to each where the text in between
fits. This is kept as a list with a number for every place, from the start of the text to its end;
bit `k` of the number says whether the pattern leads `k` characters further.
-/
namespace Chip8.Pattern

/-- Where a pattern leads from one place: bit `k` says whether it leads `k` characters further. -/
abbrev Jumps := Nat

/-- Where a pattern leads from a place and from those after it. -/
abbrev Paths := List Jumps

def stay : Jumps := 1

def ahead (count : Nat) : Jumps := 1 <<< count

/-- Where some jumps lead, if `paths` are followed from each place that they reach. -/
def follow (jumps : Jumps) : Paths → Jumps
  | [] => 0
  | here :: later =>
    if jumps = 0 then 0
    else (if jumps % 2 = 1 then here else 0) ||| 2 * follow (jumps / 2) later

def andThen : Paths → Paths → Paths
  | [], _ => []
  | jumps :: rest, paths => follow jumps paths :: andThen rest paths.tail

def orElse : Paths → Paths → Paths := List.zipWith (· ||| ·)

/-- Any number of passes. A pass that does not move on changes nothing, so the paths from a place
follow from those of later places. -/
def manyTimes : Paths → Paths
  | [] => []
  | jumps :: rest =>
    let later := manyTimes rest
    (stay ||| 2 * follow (jumps / 2) later) :: later

/-- A number of passes: half of them and the other half, and one more if the number is odd. -/
def exactly (count : Nat) (paths : Paths) : Paths :=
  if count = 0 then paths.map fun _ => stay
  else if count = 1 then paths
  else
    let half := exactly (count / 2) paths
    let even := andThen half half
    if count % 2 = 1 then andThen even paths else even
termination_by count

/-- At least `low` passes, and at most `high` if there is such a bound. No more passes than there
are places can move on, so further ones lead nowhere else. -/
def passes (low : Nat) (high : Option Nat) (paths : Paths) : Paths :=
  let required := exactly (min low paths.length) paths
  match high with
  | none => andThen required (manyTimes paths)
  | some high =>
    let optional := paths.map (stay ||| ·)
    andThen required (exactly (min (high - low) paths.length) optional)

/-- Reads off the paths from the character before a place and the text after it. -/
def pathsBy (jumps : Option Char → List Char → Jumps) (before : Option Char) : List Char → Paths
  | [] => [jumps before []]
  | c :: rest => jumps before (c :: rest) :: pathsBy jumps (some c) rest

mutual

/-- Where a pattern leads in a text. -/
def paths (text : List Char) : Pattern → Paths
  | empty => pathsBy (fun _ _ => stay) none text
  | literal characters =>
    pathsBy (fun _ rest => if characters.isPrefixOf rest then ahead characters.length else 0)
      none text
  | one set _ =>
    pathsBy (fun _ rest => if rest.head?.any set.contains then ahead 1 else 0) none text
  | anchor condition _ =>
    pathsBy (fun before rest => if condition.holds before rest.head? then stay else 0) none text
  | repeated low high _ body => passes low high (body.paths text)
  | group _ body => body.paths text
  | row items => pathsOfRow text items
  | choice branches => pathsOfChoice text branches

def pathsOfRow (text : List Char) : List Pattern → Paths
  | [] => pathsBy (fun _ _ => stay) none text
  | [item] => item.paths text
  | item :: rest => andThen (item.paths text) (pathsOfRow text rest)

def pathsOfChoice (text : List Char) : List Pattern → Paths
  | [] => pathsBy (fun _ _ => 0) none text
  | [branch] => branch.paths text
  | branch :: rest => orElse (branch.paths text) (pathsOfChoice text rest)

end

/-- Whether some stretch of a text fits a pattern. -/
def occursIn (pattern : Pattern) (text : List Char) : Bool :=
  (pattern.paths text).any (· != 0)

end Chip8.Pattern
