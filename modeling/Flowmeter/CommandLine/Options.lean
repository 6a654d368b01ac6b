import Flowmeter.CommandLine.Word

/-!
# Options

The words of a command line are taken from left to right. A flag takes its value from what is
attached to it or from the plain word behind it; single letters may stand together behind one
dash as long as they take no value. What is left over is an error, but only if nothing before
it was one or ended the program.
-/

set_option autoImplicit false

namespace Flowmeter.CommandLine

open Flowmeter.Config Flowmeter.Text

/-- Why a command line is refused. -/
inductive Fault where
  | ambiguous (a : Ambiguity)
  | noValue (flag : Flag)
  | unwantedValue (flag : Flag) (value : String)
  | badValue (flag : Flag) (fault : ReaderFault)
  | unrecognized (words : List String)
deriving DecidableEq, Repr

/-- A message about a flag. -/
def aboutFlag (flag : Flag) (message : String) : String :=
  "argument " ++ flag.name ++ ": " ++ message

def Fault.message : Fault → String
  | .ambiguous a =>
      "ambiguous option: " ++ a.word ++ " could match " ++ commaSeparated a.spellings
  | .noValue flag => aboutFlag flag "expected one argument"
  | .unwantedValue flag value => aboutFlag flag ("ignored explicit argument " ++ quoted value)
  | .badValue flag fault => aboutFlag flag fault.message
  | .unrecognized words => "unrecognized arguments: " ++ " ".intercalate words

/-- What a command line gives: values of settings, null for those it does not mention. -/
structure Options where
  values : List (String × Value)

/-- What a command line asks for. -/
inductive Request where
  | run (options : Options)
  | help
  | version

namespace Options

/-- The options of a command line without words. -/
def unsaid : Options :=
  ⟨(flags.filterMap Flag.setting?).map fun setting => (setting, .null)⟩

/-- The value of a setting. -/
def value (options : Options) (setting : String) : Value :=
  (options.values.lookup setting).getD .null

/-- The options with a value for a setting. -/
def put (options : Options) (setting : String) (v : Value) : Options :=
  ⟨Association.put setting v options.values⟩

/-- The options with a value added to those of a setting. -/
def add (options : Options) (setting : String) (v : Value) : Options :=
  match options.value setting with
  | .list items => options.put setting (.list (items ++ [v]))
  | _ => options.put setting (.list [v])

/-- The path of the configuration file. -/
def configFile (options : Options) : Value :=
  options.value configSetting

/-- The settings that are given, apart from the path of the configuration file. -/
def given (options : Options) : List (String × Value) :=
  options.values.filter (fun e => e.1 != configSetting)

end Options

/-! ## Taking flags -/

/-- A flag that has been taken, with its text if it takes a value. -/
structure Taken where
  flag : Flag
  text : Option String
deriving DecidableEq, Repr

/-- The flags of a word from a letter on, where `attached` is what stands behind it in the
    same word. Only the last of them can take a value; it is left open if the word ends. -/
def takeLetters (flag : Flag) : List Char → Except Fault (List Taken × Option Flag)
  | [] => .ok (if flag.takesValue then ([], some flag) else ([⟨flag, none⟩], none))
  | c :: rest =>
      if flag.takesValue then .ok ([⟨flag, some (String.ofList (c :: rest))⟩], none)
      else match spellings.lookup (String.ofList ['-', c]) with
        | none => .error (.unwantedValue flag (String.ofList (c :: rest)))
        | some next => do
            let (taken, last) ← takeLetters next rest
            return (⟨flag, none⟩ :: taken, last)

/-- Whether a spelling is a single letter behind a dash. -/
def isLetter (spelling : String) : Bool :=
  match spelling.toList with
  | '-' :: c :: _ => c ≠ '-'
  | _ => false

/-- The flags that a word mentions, and the one among them that is left without its value. -/
def Mention.take (m : Mention) : Except Fault (List Taken × Option Flag) :=
  match m.attached with
  | none => takeLetters m.flag []
  | some value =>
      if m.flag.takesValue then .ok ([⟨m.flag, some value⟩], none)
      else if isLetter m.spelling && !value.isEmpty then takeLetters m.flag value.toList
      else .error (.unwantedValue m.flag value)

/-- The value of a flag. A text of two dashes is taken as the absence of a text. -/
def valueOf (flag : Flag) (reader : Reader) (text : Option String) : Except Fault Value :=
  match text with
  | none => .ok (.list [])
  | some text =>
      if text = "--" then .ok (.list [])
      else (reader.read text).mapError (.badValue flag)

/-- What is known of a request while flags are taken: the options so far, or that the request
    has been answered. -/
abbrev Progress := Except Request Options

/-- Does what a flag says. -/
def Taken.apply (t : Taken) (options : Options) : Except Fault Progress :=
  match t.flag.purpose with
  | .showHelp => .ok (.error .help)
  | .showVersion => .ok (.error .version)
  | .turnOn setting => .ok (.ok (options.put setting (.bool true)))
  | .set setting reader => do
      return .ok (options.put setting (← valueOf t.flag reader t.text))
  | .add setting reader => do
      return .ok (options.add setting (← valueOf t.flag reader t.text))

/-- Does what flags say, until one of them answers the request. -/
def applyAll : List Taken → Options → Except Fault Progress
  | [], options => .ok (.ok options)
  | t :: rest, options => do
      match ← t.apply options with
      | .error request => return .error request
      | .ok options => applyAll rest options

/-- The request of words, those left over so far being `extras`. -/
def requestOf : List Word → List String → Options → Except Fault Request
  | [], [], options => .ok (.run options)
  | [], extras, _ => .error (.unrecognized extras)
  | .plain text :: rest, extras, options => requestOf rest (extras ++ [text]) options
  | .unknown text :: rest, extras, options => requestOf rest (extras ++ [text]) options
  | .mention m :: rest, extras, options => do
      match ← m.take with
      | (taken, none) =>
          match ← applyAll taken options with
          | .error request => return request
          | .ok options => requestOf rest extras options
      | (taken, some flag) =>
          match rest with
          | .plain text :: rest =>
              match ← applyAll (taken ++ [⟨flag, some text⟩]) options with
              | .error request => return request
              | .ok options => requestOf rest extras options
          | _ => throw (.noValue flag)

/-- What the words of a command line ask for. -/
def Request.ofArguments (arguments : List String) : Except Fault Request := do
  let words ← (Word.ofTexts arguments).mapError .ambiguous
  requestOf words [] Options.unsaid

end Flowmeter.CommandLine
