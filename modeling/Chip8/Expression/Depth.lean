import Chip8.Expression

namespace Chip8.Expression

mutual

/-- The first part of a class that lies deeper than `limit` levels, if it starts at a level. -/
def ClassSet.beyond? (limit level : Nat) : ClassSet → Option Span
  | .bracketed span _ set => if limit ≤ level then some span else set.beyond? limit (level + 1)
  | .union span items =>
    if limit ≤ level then some span else ClassSet.firstBeyond? limit (level + 1) items
  | .operation span _ left right =>
    if limit ≤ level then some span
    else (left.beyond? limit (level + 1)).or (right.beyond? limit (level + 1))
  | _ => none

/-- The first part of some classes that lies deeper than `limit` levels. -/
def ClassSet.firstBeyond? (limit level : Nat) : List ClassSet → Option Span
  | [] => none
  | item :: rest => (item.beyond? limit level).or (ClassSet.firstBeyond? limit level rest)

end

mutual

/-- The first part of an expression that lies deeper than `limit` levels, if it starts at a
level. -/
def beyond? (limit level : Nat) : Expression → Option Span
  | .bracketed span _ set => if limit ≤ level then some span else set.beyond? limit (level + 1)
  | .repetition span _ _ _ body | .group span _ _ body =>
    if limit ≤ level then some span else body.beyond? limit (level + 1)
  | .concat span items | .alternation span items =>
    if limit ≤ level then some span else firstBeyond? limit (level + 1) items
  | _ => none

/-- The first part of some expressions that lies deeper than `limit` levels. -/
def firstBeyond? (limit level : Nat) : List Expression → Option Span
  | [] => none
  | item :: rest => (item.beyond? limit level).or (firstBeyond? limit level rest)

end

end Chip8.Expression
