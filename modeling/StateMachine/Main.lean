import StateMachine.SwitchTable.Player

/-!
# Command line

Prints the switch tables of the player for the targets that the arguments name.
-/

open StateMachine

def main (args : List String) : IO UInt32 := do
  match SwitchTable.playerTables args with
  | .ok text =>
    IO.print text
    return 0
  | .error fault =>
    IO.eprintln fault.message
    return 1
