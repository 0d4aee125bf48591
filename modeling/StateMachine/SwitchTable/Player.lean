import StateMachine.Description
import StateMachine.Extraction
import StateMachine.SwitchTable

/-!
# The switch tables of a media player

A description of the front panel of a media player, and the program that prints the switch tables of the part of it
that some targets select.
-/

namespace StateMachine.SwitchTable

/-- The lines of the description. -/
def playerLines : List String :=
  ["machine:",
   "  id: player",
   "  description: Media player front panel.",
   "  autogenerated_message: \"AUTOGENERATED by switch_table/gen.py, do not edit\"",
   "preamble: |",
   "  #include \"player.h\"",
   "classes:",
   "  - id: logged",
   "    trace: true",
   "actions:",
   "  - id: start_audio",
   "    code: \"audio_start();\"",
   "  - id: stop_audio",
   "    code: \"audio_stop();\"",
   "states:",
   "  - id: idle",
   "    classes: [logged]",
   "  - id: playing",
   "    entry: [start_audio]",
   "    exit: [stop_audio]",
   "  - id: paused",
   "  - id: error",
   "events:",
   "  - id: play",
   "    type: ui",
   "  - id: pause",
   "    type: ui",
   "  - id: fail",
   "    type: io",
   "  - id: reset",
   "    type: \"#ANY\"",
   "arcs:",
   "  - \x7bfrom: idle, to: playing, event: play\x7d",
   "  - \x7bfrom: paused, to: playing, event: play\x7d",
   "  - \x7bfrom: playing, to: paused, event: pause\x7d",
   "  - \x7bfrom: \"#ALL\", to: error, event: fail\x7d",
   "  - \x7bfrom: error, to: idle, event: reset\x7d"]

/-- The description of the player. -/
def playerDescription : String := String.join (playerLines.map (· ++ "\n"))

/-- The switch tables of the player for some targets. -/
def playerTables (specifiers : List String) : Except Fault String :=
  match Description.load {} "player.yaml" playerDescription true with
  | (_, .error fault) => .error fault
  | (ws, .ok player) =>
    match ws.extract player specifiers with
    | (_, .error fault) => .error fault
    | (ws, .ok machine) => (render ws machine).2

end StateMachine.SwitchTable
