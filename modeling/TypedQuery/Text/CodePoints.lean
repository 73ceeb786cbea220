/-!
# Sets and maps of code points

A character property is kept as an ascending list of closed ranges of code points, and a case
mapping as a list of runs, each of which moves its members by one fixed distance. Both are small
next to the characters they describe, and both are searched by looking at their entries in order.
-/

namespace TypedQuery.Text

/-- Whether a character's code point lies in one of the closed ranges. -/
def inRanges (ranges : List (Nat × Nat)) (c : Char) : Bool :=
  ranges.any fun range => range.1 ≤ c.toNat && c.toNat ≤ range.2

/-- The code points `first`, `first + step`, … up to `last`, each sent to the one that lies `shift`
further on. -/
structure Run where
  first : Nat
  last : Nat
  step : Nat
  shift : Int

/-- Whether a run moves a code point. -/
def Run.moves (run : Run) (n : Nat) : Bool :=
  run.first ≤ n && n ≤ run.last && (n - run.first) % run.step == 0

/-- A case mapping of single characters: the few that become several characters, and the runs of
those that become one. -/
structure CaseMap where
  expansions : List (Nat × List Nat)
  runs : List Run

/-- The characters that a character becomes under a case mapping; a character that the mapping
does not know stays as it is. -/
def CaseMap.apply (map : CaseMap) (c : Char) : List Char :=
  match map.expansions.lookup c.toNat with
  | some image => image.map Char.ofNat
  | none =>
    match map.runs.find? (·.moves c.toNat) with
    | some run => [Char.ofNat (c.toNat + run.shift).toNat]
    | none => [c]

end TypedQuery.Text
