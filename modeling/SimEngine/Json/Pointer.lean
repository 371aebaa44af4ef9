import SimEngine.Json.Basic
/-!
# Paths into a data tree

A path is empty, for the whole tree, or a row of steps that each begin with a
slash. In a step `~1` stands for a slash and, after that, `~0` for a tilde. A
step into an object is a key, a step into an array a place: digits without a
sign and without a leading zero.
-/

namespace SimEngine
namespace Json

/-- Replaces every `~c` by the given character. -/
def unescape (c replacement : Char) : List Char → List Char
  | [] => []
  | '~' :: rest =>
    match rest with
    | [] => ['~']
    | d :: rest =>
      if d = c then replacement :: unescape c replacement rest
      else '~' :: unescape c replacement (d :: rest)
  | d :: rest => d :: unescape c replacement rest
termination_by chars => chars.length

/-- The key or place that a step of a path names. -/
def unescapeStep (step : String) : String :=
  String.ofList (unescape '0' '~' (unescape '1' '/' step.toList))

/-- The place that a step names in an array, if it names one. -/
def placeOf? (step : String) : Option Nat :=
  let chars := step.toList
  if chars.isEmpty || chars.any (fun c => !c.isDigit) then none
  else if chars.head? = some '0' ∧ chars.length ≠ 1 then none
  else
    let place := chars.foldl (fun n c => 10 * n + (c.toNat - '0'.toNat)) 0
    if place < Nat.pow 2 64 then some place else none

/-- The part of a tree that one step leads to. -/
def follow (tree : Json) (step : String) : Option Json :=
  match tree with
  | .obj _ => tree.member? step
  | .arr _ => (placeOf? step).bind tree.item?
  | _ => none

/-- The part of a tree that a path leads to. -/
def pointer? (tree : Json) (path : String) : Option Json :=
  if path.isEmpty then some tree
  else
    match path.splitOn "/" with
    | "" :: steps => (steps.map unescapeStep).foldlM follow tree
    | _ => none

end Json
end SimEngine
