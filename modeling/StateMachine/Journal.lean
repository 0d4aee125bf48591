/-!
# The journal

Machines write what they do to one journal. Each entry is stamped with the id of the machine in whose scope it was
made. Entries below the threshold of the journal are dropped.
-/

namespace StateMachine

/-- How much an entry matters. -/
inductive Level where
  | debug
  | info
  | warning
  deriving DecidableEq, Repr

/-- The rank of a level among thresholds. -/
def Level.rank : Level → Int
  | debug => 10
  | info => 20
  | warning => 30

def Level.name : Level → String
  | debug => "DEBUG"
  | info => "INFO"
  | warning => "WARNING"

/-- One entry of a journal. -/
structure JournalEntry where
  level : Level
  stamp : String
  message : String
  deriving DecidableEq, Repr

/-- The stamp of entries made outside of any scope. -/
def noStamp : String := "-"

/-- The stamp of a machine: its id, or a dash where it has none. -/
def stampOf : Option String → String
  | some id => if id.isEmpty then noStamp else id
  | none => noStamp

/-- The entries kept so far, oldest first, with the stamp in force. -/
structure Journal where
  threshold : Int := Level.info.rank
  stamp : String := noStamp
  entries : List JournalEntry := []

namespace Journal

/-- A journal of a given level. Level 0 leaves the choice to the surroundings, which keep information. -/
def ofLevel (level : Int) : Journal :=
  { threshold := if level = 0 then Level.info.rank else level }

/-- Adds an entry, if it matters enough. -/
def write (j : Journal) (level : Level) (message : String) : Journal :=
  if j.threshold ≤ level.rank then
    { j with entries := j.entries ++ [⟨level, j.stamp, message⟩] }
  else j

/-- Puts the stamp of a machine in force. -/
def enter (j : Journal) (machineId : Option String) : Journal :=
  { j with stamp := stampOf machineId }

/-- Writes under the stamp of a machine; the stamp in force before is in force again afterwards. -/
def within (j : Journal) (machineId : Option String) (body : Journal → Journal) : Journal :=
  { body (j.enter machineId) with stamp := j.stamp }

/-- Hands out all entries. -/
def drain (j : Journal) : List JournalEntry × Journal := (j.entries, { j with entries := [] })

end Journal

/-- A named logger. It has one handler, which stamps its entries, however often it is asked for. -/
structure Logger where
  name : String
  level : Int
  /-- The number of filters of each handler. -/
  handlers : List Nat

/-- The name of the logger above all others, which answers to the empty name too. -/
def rootName : String := "root"

/-- Asks for a logger: the first time it gets its handler, and each time its level is set. -/
def Logger.configure (name : String) (level : Option Int) (known : Option Logger) : Logger :=
  let handlers := match known with
    | some logger => if logger.handlers.isEmpty then [1] else logger.handlers
    | none => [1]
  ⟨if name.isEmpty then rootName else name, level.getD Level.info.rank, handlers⟩

end StateMachine
