import StateMachine.Text.Name.Alias
import StateMachine.Text.Name.Ancient
import StateMachine.Text.Name.Eastern
import StateMachine.Text.Name.Notation
import StateMachine.Text.Name.Picture
import StateMachine.Text.Name.Southern
import StateMachine.Text.Name.Symbol
import StateMachine.Text.Name.Western

/-!
# Names of characters

The characters that the names of Unicode 14 stand for. Most names are listed, and are found in either letter case; those
of ideographs and of Hangul syllables follow from rules, in upper case only.
-/

namespace StateMachine.Text

/-! ## Ideographs -/

/-- The unified ideographs, in ascending order. -/
def ideographRanges : Ranges :=
  [(0x3400, 0x4dbf), (0x4e00, 0x9fff), (0x20000, 0x2a6df),
   (0x2a700, 0x2b738), (0x2b740, 0x2b81d), (0x2b820, 0x2cea1), (0x2ceb0, 0x2ebe0), (0x30000, 0x3134a)]

/-- The value of an upper-case hexadecimal digit. -/
def upperHex? (c : Char) : Option Nat :=
  if c.isDigit then some (c.toNat - 48) else if 'A' ≤ c && c ≤ 'F' then some (c.toNat - 55) else none

/-- The ideograph with a number of four or five hexadecimal digits. -/
def ideograph? (digits : List Char) : Option Nat := do
  let values ← digits.mapM upperHex?
  let code := values.foldl (fun n d => n * 16 + d) 0
  if (digits.length = 4 || digits.length = 5) && inRanges ideographRanges code then some code else none

/-! ## Hangul -/

/-- The consonants that a syllable can begin with, in order. -/
def initialSounds : List String :=
  ["G", "GG", "N", "D", "DD", "R", "M", "B", "BB", "S", "SS", "", "J", "JJ", "C", "K", "T", "P", "H"]

/-- The vowels of syllables, in order. -/
def vowelSounds : List String :=
  ["A", "AE", "YA", "YAE", "EO", "E", "YEO", "YE", "O", "WA", "WAE", "OE", "YO", "U", "WEO", "WE", "WI", "YU", "EU",
   "YI", "I"]

/-- The consonants that a syllable can end with, in order. -/
def finalSounds : List String :=
  ["", "G", "GG", "GS", "N", "NJ", "NH", "D", "L", "LG", "LM", "LB", "LS", "LT", "LP", "LH", "M", "B", "BS", "S", "SS",
   "NG", "J", "C", "K", "T", "P", "H"]

/-- The number of the longest sound that a text begins with, and what follows it. -/
def takeSound? (sounds : List String) (cs : List Char) : Option (Nat × List Char) :=
  let fitting := sounds.zipIdx.filter fun (sound, _) => sound.toList.isPrefixOf cs
  let longest := fitting.foldl (fun best (sound, n) =>
    match best with
    | some (length, _) => if length < sound.length then some (sound.length, n) else best
    | none => some (sound.length, n)) (none : Option (Nat × Nat))
  longest.map fun (length, n) => (n, cs.drop length)

/-- The syllable with the given sounds. -/
def syllable? (sounds : List Char) : Option Nat := do
  let (first, rest) ← takeSound? initialSounds sounds
  let (vowel, rest) ← takeSound? vowelSounds rest
  let (final, rest) ← takeSound? finalSounds rest
  if rest.isEmpty then
    some (0xac00 + (first * vowelSounds.length + vowel) * finalSounds.length + final)
  else none

/-! ## All names -/

/-- The tables of names. -/
def nameTables : List NameTable :=
  [westernNames, southernNames, symbolNames, easternNames, ancientNames, notationNames, pictureNames]

/-- The code point of a name or an alias that is listed. -/
def listedName? (name : List Char) : Option Nat :=
  aliases.lookup (String.ofList name) <|> variationSelector? name <|> nameTables.findSome? (·.find? name)

/-- What follows a beginning, if a text has it. -/
def after? (beginning : String) (cs : List Char) : Option (List Char) :=
  if beginning.toList.isPrefixOf cs then some (cs.drop beginning.length) else none

/-- The code point of the character with a name. -/
def named? (name : List Char) : Option Nat :=
  match after? "HANGUL SYLLABLE " name, after? "CJK UNIFIED IDEOGRAPH-" name with
  | some sounds, _ => syllable? sounds
  | none, some digits => ideograph? digits
  | none, none => listedName? (name.map Char.toUpper)

end StateMachine.Text
