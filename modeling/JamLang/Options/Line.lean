import JamLang.Options.Basic
import JamLang.Text.DecimalDigit

/-!
# Command lines

A command line is a list of words.  Letters of options can be written together behind one dash, a
value can be attached to its option, and a long name can be cut short as long as it stays
unambiguous.  The words are first sorted, without regard to their order, into options and plain
words; then they are taken from left to right.  The first plain word that is no value of an option
is the source.
-/

namespace JamLang.Options

/-! ## Sorting words -/

/-- A text attached to an option in one word, and whether an equals sign stands between them. -/
structure Attached where
  isSigned : Bool
  text : List Char
  deriving DecidableEq, Repr

/-- What is attached to a letter, given what follows it in the same word. -/
def Attached.ofRest : List Char → Attached
  | '=' :: text => ⟨true, text⟩
  | text => ⟨false, text⟩

/-- A word of a command line. -/
inductive Word where
  | plain (text : String)
  /-- Two dashes, after which all words are plain. -/
  | dashes
  /-- A word that looks like an option and is none. -/
  | unknown (text : String)
  /-- An option, called by its long name or by its letter, and what is attached to it. -/
  | known (name : OptionName) (isLong : Bool) (attached : Option Attached)
  deriving DecidableEq, Repr

namespace Word

/-- The word is an option, or looks like one. -/
def isDashed : Word → Bool
  | .unknown _ | .known _ _ _ => true
  | .plain _ | .dashes => false

/-- The word as it is named when it is left over. -/
def text : Word → String
  | .plain text | .unknown text => text
  | .dashes => "--"
  | .known name _ _ => name.long

end Word

/-- A decimal digit of any script. -/
def isDecimal (c : Char) : Bool :=
  (Text.digitValue? c).isSome

/-- A number below zero, which is no option.  A line feed may follow it. -/
def isNegativeNumber : List Char → Bool
  | '-' :: body =>
    let number := if body.getLast? = some '\n' then body.dropLast else body
    match number.dropWhile isDecimal with
    | [] => !number.isEmpty
    | '.' :: fraction => !fraction.isEmpty && fraction.all isDecimal
    | _ => false
  | _ => false

/-- The part of a word before its first equals sign. -/
def beforeEquals (text : List Char) : List Char :=
  text.takeWhile (· ≠ '=')

/-- What stands behind the first equals sign of a word, if it has one. -/
def afterEquals? (text : List Char) : Option Attached :=
  match text.dropWhile (· ≠ '=') with
  | _ :: value => some ⟨true, value⟩
  | [] => none

/-- The spellings that start with a text, each with its option. -/
def completions (start : List Char) : List (String × OptionName) :=
  OptionName.all.flatMap fun name =>
    (name.spellings.filter (start.isPrefixOf ·.toList)).map (·, name)

/-- Sorts a word that looks like an option and is none: numbers and words with a space are plain. -/
def sortOther (text : List Char) : Word :=
  if isNegativeNumber text ∨ ' ' ∈ text then .plain (String.ofList text)
  else .unknown (String.ofList text)

/-- Sorts a word that starts with a dash and is no option spelled in full. -/
def sortDashed : List Char → Except UsageFault Word
  | '-' :: '-' :: rest =>
    let text := '-' :: '-' :: rest
    match completions (beforeEquals text) with
    | [] => .ok (sortOther text)
    | [(_, name)] => .ok (.known name true (afterEquals? text))
    | several => .error (.ambiguous (String.ofList text) (several.map (·.1)))
  | '-' :: letter :: rest =>
    match OptionName.ofLetter? letter with
    | some name => .ok (.known name false (some (.ofRest rest)))
    | none => .ok (sortOther ('-' :: letter :: rest))
  | text => .ok (.plain (String.ofList text))

/-- Sorts a word. -/
def sortWord (text : String) : Except UsageFault Word :=
  if text.toList.head? = some '-' then
    match OptionName.ofSpelling? text with
    | some name => .ok (.known name (name.long = text) none)
    | none => sortDashed text.toList
  else .ok (.plain text)

/-- Sorts the words of a line. -/
def sortWords : List String → Except UsageFault (List Word)
  | [] => .ok []
  | text :: rest =>
    if text = "--" then .ok (.dashes :: rest.map .plain)
    else do
      let word ← sortWord text
      let words ← sortWords rest
      pure (word :: words)

/-! ## Options in one word -/

/-- What a word that starts with an option comes to: the options given in it, a setting that waits
for its value in the next word, and what is left over of the word. -/
structure Cluster where
  given : List Given := []
  waiting : Option Setting := none
  extras : List String := []
  deriving DecidableEq, Repr

namespace Cluster

/-- An option to which nothing is attached. -/
def bare : OptionName → Cluster
  | .switch switch => { given := [.switch switch] }
  | .setting setting => { waiting := some setting }

/-- A cluster after a switch. -/
def after (switch : Switch) (cluster : Cluster) : Cluster :=
  { cluster with given := .switch switch :: cluster.given }

/-- An option called by its letter, to which a text is attached.  The text is the value of a
setting; behind a switch it starts with the letter of one more option, whose value it then is or
which has more letters behind it. -/
def ofLetters (release : Release) : OptionName → Bool → List Char → Except UsageFault Cluster
  | .setting setting, _, text => .ok { given := [.setting setting (String.ofList text)] }
  | .switch switch, _, [] => .error (.unwantedValue switch "")
  | .switch switch, isSigned, letter :: rest =>
    let text := String.ofList (letter :: rest)
    if release = .late ∧ (isSigned ∨ letter = '-') then .error (.unwantedValue switch text)
    else
      match OptionName.ofLetter? letter, rest with
      | some name, [] => .ok (after switch (bare name))
      | some name, sign :: value =>
        if release = .late ∧ sign = '=' then
          (ofLetters release name true value).map (after switch)
        else
          (ofLetters release name false (sign :: value)).map (after switch)
      | none, _ =>
        match release with
        | .early => .error (.unwantedValue switch text)
        | .late => .ok { given := [.switch switch], extras := ["-" ++ text] }

/-- An option called by its long name, to which a text is attached. -/
def ofLong : OptionName → List Char → Except UsageFault Cluster
  | .setting setting, text => .ok { given := [.setting setting (String.ofList text)] }
  | .switch switch, text => .error (.unwantedValue switch (String.ofList text))

/-- The options in a word that starts with an option. -/
def ofWord (release : Release) (name : OptionName) (isLong : Bool) :
    Option Attached → Except UsageFault Cluster
  | none => .ok (bare name)
  | some ⟨isSigned, text⟩ =>
    if isLong then ofLong name text else ofLetters release name isSigned text

end Cluster

/-! ## Words from left to right -/

/-- What was taken from a command line: the options, and the texts that are left over. -/
structure Taken where
  options : Options := {}
  hasSource : Bool := false
  extras : List String := []
  deriving DecidableEq, Repr

namespace Taken

/-- One more text left over. -/
def leave (taken : Taken) (texts : List String) : Taken :=
  { taken with extras := taken.extras ++ texts }

/-- A plain word is the source, unless there is one. -/
def takePlain (taken : Taken) (text : String) : Taken :=
  if taken.hasSource then taken.leave [text]
  else { taken with options := { taken.options with source := some text }, hasSource := true }

/-- Takes the words after the last option.  Two dashes beside the source are passed over. -/
def takeRest (taken : Taken) (words : List Word) : Taken :=
  if taken.hasSource then taken.leave (words.map Word.text)
  else
    match words with
    | .plain text :: .dashes :: rest => (taken.takePlain text).leave (rest.map Word.text)
    | .plain text :: rest => (taken.takePlain text).leave (rest.map Word.text)
    | .dashes :: .plain text :: rest => (taken.takePlain text).leave (rest.map Word.text)
    | .dashes :: rest => taken.leave (rest.map Word.text)
    | rest => taken.leave (rest.map Word.text)

/-- Takes given options in their order. -/
def takeGiven (release : Release) (taken : Taken) (given : List Given) : Except Refusal Taken := do
  let options ← given.foldlM (give release) taken.options
  pure { taken with options }

end Taken

/-- Takes words from left to right. -/
def takeWords (release : Release) (taken : Taken) : List Word → Except Refusal Taken
  | [] => .ok taken
  | .dashes :: rest => .ok (taken.takeRest (.dashes :: rest))
  | .plain text :: rest =>
    if rest.any Word.isDashed then takeWords release (taken.takePlain text) rest
    else .ok (taken.takeRest (.plain text :: rest))
  | .unknown text :: rest => takeWords release (taken.leave [text]) rest
  | .known name isLong attached :: rest =>
    match Cluster.ofWord release name isLong attached with
    | .error fault => .error (.misuse fault)
    | .ok cluster =>
      match cluster.waiting, rest with
      | none, rest => do
        let taken ← (taken.leave cluster.extras).takeGiven release cluster.given
        takeWords release taken rest
      | some setting, .plain value :: rest => do
        let taken ← taken.takeGiven release (cluster.given ++ [.setting setting value])
        takeWords release taken rest
      | some setting, _ => .error (.misuse (.missingValue setting))

/-- What a command line asks for. -/
def ofArguments (release : Release) (arguments : List String) : Except Refusal Options := do
  let words ← (sortWords arguments).mapError .misuse
  let taken ← takeWords release {} words
  if taken.extras.isEmpty then pure taken.options
  else throw (.misuse (.unrecognized taken.extras))

end JamLang.Options
