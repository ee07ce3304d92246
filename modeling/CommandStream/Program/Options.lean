import CommandStream.Keyed
import CommandStream.Program.Numeral
import CommandStream.Text.Edit

/-!
# Command line options

Options have long names, which may be cut as long as they stay unique, and take their value behind
an equals sign or from the next word. All words are told apart before any option is taken, so an
ambiguous name fails even behind a request for help. Words that belong to no option are not wanted,
which shows at the end.
-/

namespace CommandStream

/-- What an option takes. -/
inductive OptionKind where
  | text
  | integer
  /-- Nothing; the option is set or not. -/
  | flag
  /-- Nothing; the run ends with an explanation. -/
  | help
  deriving DecidableEq

/-- An option. -/
structure OptionSpec where
  /-- The long name, with its hyphens. -/
  name : String
  kind : OptionKind
  required : Bool
  deriving DecidableEq

/-- The value that an option has been given. -/
inductive OptionValue where
  | text (s : String)
  | integer (n : Int)
  | flag
  /-- None, though one was due. -/
  | withheld
  deriving DecidableEq

/-- How a reading of options ends early. -/
inductive Usage where
  /-- An explanation was asked for. -/
  | help
  | misuse
  deriving DecidableEq

/-- The exit status of an early end. -/
def Usage.status : Usage → Nat
  | help => 0
  | misuse => 2

namespace Options

/-- The option that asks for an explanation. -/
def help : OptionSpec := ⟨"--help", .help, false⟩

/-- A word of a command line. -/
inductive Word where
  /-- A word that can be the value of an option. -/
  | plain (s : String)
  /-- An option, with what stands behind its equals sign. -/
  | option (spec : OptionSpec) (attached : Option String)
  /-- The short form of the request for help, with what is attached to it. -/
  | shortHelp (tail : List Char)
  /-- An option that there is not. -/
  | unknown
  /-- The mark behind which all words are plain. -/
  | mark

/-- A word cut at its first equals sign. -/
def cut (word : String) : String × Option String :=
  match word.toList.dropWhile (· != '=') with
  | [] => (word, none)
  | _ :: rest => (String.ofList (word.toList.takeWhile (· != '=')), some (String.ofList rest))

/-- The option of a name in full. -/
def inFull? (specs : List OptionSpec) (name : String) : Option OptionSpec :=
  specs.find? fun spec => spec.name == name

/-- A word that starts like an option and is none: a plain word if it is a negative number or holds
a space. -/
def other (word : String) : Word :=
  if Numeral.looksNegative word || word.toList.contains ' ' then .plain word else .unknown

/-- What a word of a long name is, which may be cut. -/
def long (specs : List OptionSpec) (word : String) : Except Usage Word :=
  let (name, attached) := cut word
  match inFull? specs name with
  | some spec => .ok (.option spec attached)
  | none =>
    match specs.filter fun spec => beginsWith spec.name name with
    | [] => .ok (other word)
    | [spec] => .ok (.option spec attached)
    | _ => .error .misuse

/-- What a word is. -/
def classify (specs : List OptionSpec) (word : String) : Except Usage Word :=
  match word.toList with
  | '-' :: 'h' :: tail => .ok (.shortHelp tail)
  | '-' :: '-' :: _ => long specs word
  | '-' :: _ :: _ => .ok (other word)
  | _ => .ok (.plain word)

/-- What the words of a command line are. -/
def classifyAll (specs : List OptionSpec) : List String → Except Usage (List Word)
  | [] => .ok []
  | word :: rest =>
    if word = "--" then .ok (.mark :: rest.map Word.plain)
    else do
      let first ← classify specs word
      .ok (first :: (← classifyAll specs rest))

/-- What stands behind an equals sign and gives no value, whatever the option takes. -/
def withholding : String := "--"

/-- The value that an option takes from a text. -/
def valueOf (spec : OptionSpec) (text : String) : Except Usage OptionValue :=
  if spec.kind = .integer then
    match Numeral.parse? text with
    | some n => .ok (.integer n)
    | none => .error .misuse
  else .ok (.text text)

/-- How the short request for help ends a run. Only more of its letters may be attached, which an
equals sign may introduce. -/
def shortHelp (tail : List Char) : Usage :=
  match tail with
  | '=' :: [] => .misuse
  | '=' :: letters => if letters.all (· == 'h') then .help else .misuse
  | letters => if letters.all (· == 'h') then .help else .misuse

/-- What is known behind some words: the options given, whether a word is left over, and the option
that waits for its value. -/
structure Reading where
  given : Keyed OptionValue
  leftOver : Bool
  waiting : Option OptionSpec

namespace Reading

variable (r : Reading)

/-- The reading with an option given. -/
def give (spec : OptionSpec) (value : OptionValue) : Reading :=
  { r with given := Keyed.put r.given spec.name value, waiting := none }

/-- The reading with an option given by a text. -/
def giveText (spec : OptionSpec) (text : String) : Except Usage Reading := do
  .ok (r.give spec (← valueOf spec text))

/-- The reading with an option. -/
def option (spec : OptionSpec) (attached : Option String) : Except Usage Reading :=
  match spec.kind, attached with
  | .help, none => .error .help
  | .flag, none => .ok (r.give spec .flag)
  | .help, some _ => .error .misuse
  | .flag, some _ => .error .misuse
  | _, some text =>
    if text = withholding then .ok (r.give spec .withheld) else r.giveText spec text
  | _, none => .ok { r with waiting := some spec }

/-- The reading with a word. -/
def word (w : Word) : Except Usage Reading :=
  match r.waiting, w with
  | some spec, .plain text => r.giveText spec text
  | some _, _ => .error .misuse
  | none, .option spec attached => r.option spec attached
  | none, .shortHelp tail => .error (shortHelp tail)
  | none, _ => .ok { r with leftOver := true }

/-- Whether the reading has all that is required and nothing else. -/
def complete (specs : List OptionSpec) : Bool :=
  !r.leftOver && r.waiting.isNone &&
    specs.all fun spec => !spec.required || Keyed.hasKey r.given spec.name

end Reading

/-- What a command line says about a text. -/
inductive Supply where
  /-- Nothing. -/
  | missing
  /-- That there is none, though its option is given. -/
  | withheld
  | text (s : String)
  deriving DecidableEq

/-- What the options given say about the text of one. -/
def supply (given : Keyed OptionValue) (name : String) : Supply :=
  match Keyed.find? given name with
  | some (.text s) => .text s
  | some .withheld => .withheld
  | _ => .missing

/-- The text supplied; the empty list of values if it is withheld. -/
def Supply.textOr (default : String) : Supply → String
  | missing => default
  | withheld => "[]"
  | text s => s

/-- The options that a command line gives, the last of each name. -/
def read (specs : List OptionSpec) (words : List String) : Except Usage (Keyed OptionValue) := do
  let reading ← (← classifyAll specs words).foldlM Reading.word ⟨[], false, none⟩
  if reading.complete specs then .ok reading.given else .error .misuse

end Options

end CommandStream
