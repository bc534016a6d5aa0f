import VariantIter.Yaml.Build

/-!
From the cells of a document to its value.

A value that stands in several places gets the number of its cell as a label. Inside of itself, or of a
part of itself, a collection is only named by its label.
-/

namespace VariantIter.Yaml

/-- The numbers that a cell names. -/
def Cell.parts : Cell → List Nat
  | .atom _ => []
  | .list items => items
  | .pairs items => items.flatMap fun (key, value) => [key, value]
  | .set items => items
  | .mapping entries => entries.flatMap fun (key, value) => [key, value]

abbrev Cells := Array (Option Cell)

/-- How often each cell is named by others. -/
def countUses (cells : Cells) : Array Nat :=
  cells.foldl (fun counts cell? => match cell? with
    | none => counts
    | some cell => cell.parts.foldl (fun counts part => counts.modify part (· + 1)) counts)
    (Array.replicate cells.size 0)

/-- A value, and the labels that it takes from the collections around it. -/
structure Unfolded where
  value : Value
  outer : List Nat := []

/-- The values that are complete without the collections around them. -/
abbrev Unfold := StateM (Array (Option Value))

/-- Labels without repetition. -/
def unionLabels (parts : List Unfolded) : List Nat :=
  (parts.flatMap Unfolded.outer).eraseDups

/-- Items two by two. -/
def pairUp : List Value → List (Value × Value)
  | key :: value :: rest => (key, value) :: pairUp rest
  | _ => []

/-- The value of a cell with the given values of its parts. -/
def Cell.assemble (cell : Cell) (values : List Value) : Value :=
  match cell with
  | .atom value => value
  | .list _ => .list values
  | .pairs _ => .list ((pairUp values).map fun (key, value) => .tuple [key, value])
  | .set _ => .set values
  | .mapping _ => .map (pairUp values)

/-- A value that keeps its label where it stands in several places. -/
def Cell.isLabelled (cell : Cell) : Bool :=
  match cell with
  | .atom (.date _) => true
  | .atom (.moment _) => true
  | .atom _ => false
  | _ => true

/-- The value of a cell inside of the collections of `around`. A path without repetition is no longer
than the number of cells, so fuel above it never runs out. -/
def unfold (cells : Cells) (uses : Array Nat) : (fuel : Nat) → (around : List Nat) → (number : Nat) →
    Unfold Unfolded
  | 0, _, number => return ⟨.again number, [number]⟩
  | fuel + 1, around, number => do
      if around.contains number then return ⟨.again number, [number]⟩
      match ((← get)[number]?).join with
      | some value => return ⟨value, []⟩
      | none => match (cells[number]?).join with
        | none => return ⟨.null, []⟩
        | some cell => do
            let parts ← cell.parts.mapM (unfold cells uses fuel (number :: around))
            let value := cell.assemble (parts.map Unfolded.value)
            let labels := unionLabels parts
            if labels.isEmpty then do
              let value :=
                if cell.isLabelled && decide (2 ≤ uses.getD number 0) then .shared number value
                else value
              modify fun known => known.modify number fun _ => some value
              return ⟨value, []⟩
            else return ⟨.knot number value, labels.filter (· != number)⟩

/-- The value of the document with the given number. -/
def valueOf (cells : Cells) (document : Nat) : Value :=
  let known : Array (Option Value) := Array.replicate cells.size none
  ((unfold cells (countUses cells) (cells.size + 1) [] document).run known).1.value

end VariantIter.Yaml
