import LayeredTree.Settings.Reading
import LayeredTree.Showcase

/-!
# The command

Prints the showcase, under the default settings of an empty environment.
-/

open LayeredTree

/-- Print the showcase, or the failure that stopped it. -/
def main : IO UInt32 := do
  let _ := Settings.reading
  match Showcase.everything {} with
  | .ok printed _ =>
    for text in printed do
      IO.println text
    return 0
  | .error cause _ =>
    IO.eprintln cause.message
    return 1
