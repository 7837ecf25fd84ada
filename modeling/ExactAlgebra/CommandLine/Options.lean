import ExactAlgebra.Session.Basic
import ExactAlgebra.Text.DecimalDigit
import ExactAlgebra.Text.Quoted

/-!
# Command-line options

Options have a short spelling with one dash, a long one with two, or both. Long
spellings may be abbreviated as long as only one option fits. A value follows its
option as the next word, after an equals sign, or directly after a short
spelling; options without values can share one dash.

Every word is classified before any option takes effect. Then the words are taken
from left to right, and the first problem decides. Two dashes that stand directly
after an option are no value: they leave its setting vacant.
-/

namespace ExactAlgebra
namespace CommandLine

/-- The options. -/
inductive Flag
  | help
  | expr
  | format
  | output
  | transform
  | trace
  | verbose
  | quiet
  | version
  deriving DecidableEq

namespace Flag

/-- The spellings of an option, the short one first. -/
def spellings : Flag → List String
  | help => ["-h", "--help"]
  | expr => ["-e", "--expr"]
  | format => ["-f", "--format"]
  | output => ["-o", "--output"]
  | transform => ["-t", "--transform"]
  | trace => ["--trace"]
  | verbose => ["-v", "--verbose"]
  | quiet => ["-q", "--quiet"]
  | version => ["--version"]

/-- The option takes a value. -/
def takesValue : Flag → Bool
  | expr => true
  | format => true
  | output => true
  | transform => true
  | _ => false

/-- How messages call an option. -/
def title (flag : Flag) : String :=
  "/".intercalate flag.spellings

/-- All options, in the order in which they are listed. -/
def all : List Flag :=
  [help, expr, format, output, transform, trace, verbose, quiet, version]

/-- All spellings with their options. -/
def spelled : List (String × Flag) :=
  all.flatMap fun flag => flag.spellings.map fun spelling => (spelling, flag)

/-- The option with the given spelling. -/
def ofSpelling? (spelling : String) : Option Flag :=
  (spelled.find? (·.1 = spelling)).map Prod.snd

end Flag

/-- Why a command line cannot be followed. -/
inductive UsageError
  | ambiguous (word : String) (spellings : List String)
  | missingValue (flag : Flag)
  | unwantedValue (flag : Flag) (value : String)
  | invalidChoice (flag : Flag) (value : String) (choices : List String)
  | unrecognized (words : List String)
  deriving DecidableEq

namespace UsageError

/-- The wording of a usage error. -/
def message : UsageError → String
  | ambiguous word spellings =>
      "ambiguous option: " ++ word ++ " could match " ++ ", ".intercalate spellings
  | missingValue flag => "argument " ++ flag.title ++ ": expected one argument"
  | unwantedValue flag value =>
      "argument " ++ flag.title ++ ": ignored explicit argument " ++ Text.quoted value
  | invalidChoice flag value choices =>
      "argument " ++ flag.title ++ ": invalid choice: " ++ Text.quoted value ++
        " (choose from " ++ ", ".intercalate (choices.map Text.quoted) ++ ")"
  | unrecognized words => "unrecognized arguments: " ++ " ".intercalate words

end UsageError

/-- An option found in a word, with the rest of the word. -/
structure Match where
  spelling : String
  flag : Flag
  attached : Option String

/-- What a word of the command line is. -/
inductive Role
  /-- A value, or the name of the script. -/
  | plain
  /-- Two dashes, after which all words are plain. -/
  | separator
  | option (found : Match)
  /-- It looks like an option, but there is no such option. -/
  | unknown

/-- A word with its role. -/
structure Word where
  text : String
  role : Role

namespace Word

/-- The word stands where an option would. -/
def isOption (word : Word) : Bool :=
  match word.role with
  | .option _ => true
  | .unknown => true
  | _ => false

end Word

/-- All characters are digits. -/
def allDigits (characters : List Char) : Bool :=
  characters.all fun character => (Text.digitValue? character).isSome

/-- The word is a dash and a decimal number, with nothing but a line feed after
it. -/
def looksNegative (word : String) : Bool :=
  match word.toList with
  | '-' :: rest =>
      let rest := if rest.getLast? = some '\n' then rest.dropLast else rest
      match rest.dropWhile (· ≠ '.') with
      | [] => !rest.isEmpty && allDigits rest
      | _ :: decimals =>
          allDigits (rest.takeWhile (· ≠ '.')) && !decimals.isEmpty && allDigits decimals
  | _ => false

/-- The options that an abbreviated long spelling fits. -/
def longMatches (word : String) : List Match :=
  let (start, value?) := Text.cut '=' word
  (Flag.spelled.filter fun (spelling, _) => Text.startsWith start spelling).map
    fun (spelling, flag) => { spelling := spelling, flag := flag, attached := value? }

/-- The options whose short spelling starts a word. -/
def shortMatches (word : String) : List Match :=
  let start := String.ofList (word.toList.take 2)
  let attached := String.ofList (word.toList.drop 2)
  (Flag.spelled.filter fun (spelling, _) => spelling = start).map
    fun (spelling, flag) => { spelling := spelling, flag := flag, attached := some attached }

/-- The option that a word spells exactly, alone or before an equals sign. -/
def exactMatch? (word : String) : Option Match :=
  match Flag.ofSpelling? word with
  | some flag => some { spelling := word, flag := flag, attached := none }
  | none =>
      match Text.cut '=' word with
      | (_, none) => none
      | (start, some value) =>
          (Flag.ofSpelling? start).map fun flag =>
            { spelling := start, flag := flag, attached := some value }

/-- The role of a word other than two dashes. -/
def role (word : String) : Except UsageError Role :=
  match word.toList with
  | '-' :: second :: _ =>
      match exactMatch? word with
      | some found => .ok (.option found)
      | none =>
          match if second = '-' then longMatches word else shortMatches word with
          | [found] => .ok (.option found)
          | [] =>
              if looksNegative word || word.toList.contains ' ' then .ok .plain
              else .ok .unknown
          | found => .error (.ambiguous word (found.map Match.spelling))
  | _ => .ok .plain

/-- Classify the words of a command line. -/
def classify : List String → Except UsageError (List Word)
  | [] => .ok []
  | "--" :: rest =>
      .ok ({ text := "--", role := .separator } ::
        rest.map fun word => { text := word, role := .plain })
  | word :: rest => do
      let first ← role word
      let others ← classify rest
      return { text := word, role := first } :: others

/-- What an option sets. -/
inductive Setting (α : Type)
  | chosen (value : α)
  /-- The option was given, but nothing was chosen. -/
  | vacant
  deriving DecidableEq

namespace Setting

/-- The setting that the text of a value makes. -/
def ofText (text : String) : Setting String :=
  if text = "--" then vacant else chosen text

/-- The chosen value, or another one. -/
def getD (setting : Setting α) (default : α) : α :=
  match setting with
  | chosen value => value
  | vacant => default

end Setting

/-- What the command line asks for. -/
structure Settings where
  script : Option String
  expr : Option (Setting String)
  format : Setting Format
  renderer : Setting Renderer
  transforms : List (Setting String)
  trace : Bool
  verbose : Bool
  quiet : Bool

namespace Settings

/-- The settings of an empty command line. -/
def initial : Settings where
  script := none
  expr := none
  format := .chosen .polish
  renderer := .chosen .linear
  transforms := []
  trace := false
  verbose := false
  quiet := false

end Settings

/-- Why the words of a command line are not followed to their end. -/
inductive Stop
  | help
  | version
  | usage (cause : UsageError)
  deriving DecidableEq

/-- The value of an option that takes one of the given choices. -/
def choose (flag : Flag) (choices : List String) (ofName? : String → Option α) :
    Setting String → Except Stop (Setting α)
  | .vacant => .ok .vacant
  | .chosen text =>
      match ofName? text with
      | some value => .ok (.chosen value)
      | none => .error (.usage (.invalidChoice flag text choices))

/-- Give an option its effect. -/
def takeOption (settings : Settings) (flag : Flag) (value : Setting String) :
    Except Stop Settings :=
  match flag with
  | .help => .error .help
  | .version => .error .version
  | .expr => .ok { settings with expr := some value }
  | .format => do
      let format ← choose flag (Format.all.map Format.name) Format.ofName? value
      return { settings with format := format }
  | .output => do
      let renderer ← choose flag (Renderer.all.map Renderer.name) Renderer.ofName? value
      return { settings with renderer := renderer }
  | .transform => .ok { settings with transforms := settings.transforms ++ [value] }
  | .trace => .ok { settings with trace := true }
  | .verbose => .ok { settings with verbose := true }
  | .quiet => .ok { settings with quiet := true }

/-- The options that share a word. -/
structure Cluster where
  /-- Options that are complete, with their values. -/
  complete : List (Flag × Setting String)
  /-- A last option without an attached value. -/
  pending : Option Flag

namespace Cluster

/-- A single option with its value. -/
def single (flag : Flag) (value : Setting String) : Cluster :=
  { complete := [(flag, value)], pending := none }

/-- The cluster with one more option, which takes no value, in front. -/
def push (flag : Flag) (cluster : Cluster) : Cluster :=
  { cluster with complete := (flag, .vacant) :: cluster.complete }

end Cluster

/-- Read the text attached to an option: its value, or further short options when
it takes none. -/
def readCluster (flag : Flag) : List Char → Except UsageError Cluster
  | [] =>
      if flag.takesValue then .ok (.single flag (.chosen ""))
      else .error (.unwantedValue flag "")
  | character :: rest =>
      let text := String.ofList (character :: rest)
      if flag.takesValue then .ok (.single flag (.ofText text))
      else
        match Flag.ofSpelling? (String.ofList ['-', character]) with
        | none => .error (.unwantedValue flag text)
        | some next =>
            match rest with
            | [] => .ok { complete := [(flag, .vacant)], pending := some next }
            | rest => (readCluster next rest).map (·.push flag)

/-- The options in a word. -/
def cluster (found : Match) : Except UsageError Cluster :=
  match found.attached with
  | none => .ok { complete := [], pending := some found.flag }
  | some text =>
      if Text.startsWith "--" found.spelling && !found.flag.takesValue then
        .error (.unwantedValue found.flag text)
      else readCluster found.flag text.toList

/-- What has been read from the words so far. -/
structure Progress where
  settings : Settings
  /-- The place of the script has been filled. -/
  scriptTaken : Bool
  /-- Words that nothing takes. -/
  extras : List String

namespace Progress

/-- Nothing has been read. -/
def initial : Progress :=
  { settings := .initial, scriptTaken := false, extras := [] }

/-- Leave words over. -/
def leave (progress : Progress) (words : List String) : Progress :=
  { progress with extras := progress.extras ++ words }

/-- Take a plain word as the script, or leave it over. -/
def takePlain (progress : Progress) (word : String) : Progress :=
  if progress.scriptTaken then progress.leave [word]
  else
    { progress with
      settings := { progress.settings with script := some word }, scriptTaken := true }

/-- Give options their effects. -/
def takeAll (progress : Progress) (options : List (Flag × Setting String)) :
    Except Stop Progress := do
  let settings ← options.foldlM (fun settings (flag, value) => takeOption settings flag value)
    progress.settings
  return { progress with settings := settings }

/-- Take the words after the last option. The separator belongs to the script
next to it. -/
def takeRest (progress : Progress) (words : List Word) : Progress :=
  let texts := words.map Word.text
  if progress.scriptTaken then progress.leave texts
  else
    match words with
    | [] => progress
    | { role := .separator, .. } :: [] => progress
    | { role := .separator, .. } :: word :: rest =>
        (progress.takePlain word.text).leave (rest.map Word.text)
    | word :: { role := .separator, .. } :: rest =>
        (progress.takePlain word.text).leave (rest.map Word.text)
    | word :: rest => (progress.takePlain word.text).leave (rest.map Word.text)

end Progress

/-- Follow the words of a command line. -/
def follow (progress : Progress) : List Word → Except Stop Progress
  | [] => .ok progress
  | word :: rest =>
      match word.role with
      | .unknown => follow (progress.leave [word.text]) rest
      | .option found =>
          match cluster found with
          | .error cause => .error (.usage cause)
          | .ok cluster =>
              match cluster.pending with
              | none => do follow (← progress.takeAll cluster.complete) rest
              | some flag =>
                  if flag.takesValue then
                    match rest with
                    | { text := value, role := .plain } :: others => do
                        let options := cluster.complete ++ [(flag, .chosen value)]
                        follow (← progress.takeAll options) others
                    | _ => .error (.usage (.missingValue flag))
                  else do
                    follow (← progress.takeAll (cluster.complete ++ [(flag, .vacant)])) rest
      | _ =>
          if rest.any Word.isOption then follow (progress.takePlain word.text) rest
          else .ok (progress.takeRest (word :: rest))

/-- Read a command line. -/
def readArguments (arguments : List String) : Except Stop Settings := do
  let words ← (classify arguments).mapError .usage
  let progress ← follow .initial words
  if progress.extras.isEmpty then return progress.settings
  else throw (.usage (.unrecognized progress.extras))

end CommandLine
end ExactAlgebra
