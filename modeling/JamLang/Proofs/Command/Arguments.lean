import JamLang.Command
import JamLang.Proofs.Results
import Mathlib.Logic.Function.Basic

/-!
# Command lines for requests

Every request in a format that there is has a command line, for both releases of the reader
(`ofArguments_commandLine`): its options are called by their long names, with their values attached,
and its source stands behind two dashes, whatever it looks like.  No such word has an influence on
how the words behind it are sorted or taken, so what a list of them does is put together from what
each of them does (`Sets.append`).
-/

namespace JamLang.Options

variable {release : Release} {texts texts' : List String} {text value : String}
  {change change' : Options → Options} {name : OptionName} {given : Given}

/-! ## Words that set options -/

/-- Words at the front of a command line change the options and nothing else. -/
def Sets (release : Release) (texts : List String) (change : Options → Options) : Prop :=
  ∃ words, (∀ rest, sortWords (texts ++ rest) = (sortWords rest).map (words ++ ·)) ∧
    ∀ taken rest, takeWords release taken (words ++ rest) =
      takeWords release { taken with options := change taken.options } rest

theorem Sets.nil : Sets release [] id := by
  refine ⟨[], fun rest => ?_, fun _ _ => rfl⟩
  rw [List.nil_append]
  cases sortWords rest <;> rfl

theorem Sets.append (sets : Sets release texts change) (sets' : Sets release texts' change') :
    Sets release (texts ++ texts') (change' ∘ change) := by
  obtain ⟨words, sorted, taken⟩ := sets
  obtain ⟨words', sorted', taken'⟩ := sets'
  refine ⟨words ++ words', fun rest => ?_, fun before rest => ?_⟩
  · rw [List.append_assoc, sorted, sorted']
    cases sortWords rest <;> simp [Except.map]
  · rw [List.append_assoc, taken, taken']
    rfl

/-- Words that are only there if they are wanted. -/
theorem Sets.when (sets : Sets release texts change) (isWanted : Bool) :
    Sets release (if isWanted then texts else []) (if isWanted then change else id) := by
  cases isWanted with
  | false => exact .nil
  | true => exact sets

/-- A word that is one option with nothing else in it. -/
theorem Sets.word {attached : Option Attached}
    (sorted : sortWord text = .ok (.known name true attached))
    (isGiven : Cluster.ofWord release name true attached = .ok { given := [given] })
    (gives : ∀ options, give release options given = .ok (change options)) :
    Sets release [text] change := by
  have notDashes : text ≠ "--" := by
    rintro rfl
    cases sorted
  refine ⟨[.known name true attached], fun rest => ?_, fun taken rest => ?_⟩
  · rw [List.singleton_append, sortWords, if_neg notDashes, sorted]
    cases sortWords rest <;> rfl
  · simp [takeWords, isGiven, Taken.takeGiven, Taken.leave, gives, bind, Except.bind, pure,
      Except.pure]

/-! ## Values -/

theorem ofSpelling?_eq_none (isSigned : '=' ∈ text.toList) :
    OptionName.ofSpelling? text = none := by
  -- No option is spelled with an equals sign.
  have noSign : ∀ name ∈ OptionName.all, ∀ spelling ∈ name.spellings, '=' ∉ spelling.toList := by
    decide +kernel
  rw [OptionName.ofSpelling?, List.find?_eq_none]
  intro name isName isSpelling
  exact noSign name isName text (of_decide_eq_true isSpelling) isSigned

/-- A value is attached to the long name of a setting, which is spelled out. -/
theorem sortWord_attached (setting : Setting) (value : String) :
    sortWord ((OptionName.setting setting).long ++ "=" ++ value) =
      .ok (.known (.setting setting) true (some ⟨true, value.toList⟩)) := by
  have spelled : ((OptionName.setting setting).long ++ "=" ++ value).toList =
      (OptionName.setting setting).long.toList ++ '=' :: value.toList := by simp
  have isSigned : '=' ∈ ((OptionName.setting setting).long ++ "=" ++ value).toList := by simp
  rw [sortWord, ofSpelling?_eq_none isSigned, spelled]
  -- Only what stands before the first equals sign is completed, so the value has no part in it.
  cases setting with
  | format => rfl
  | out => rfl

theorem ofWord_attached (setting : Setting) (value : String) :
    Cluster.ofWord release (.setting setting) true (some ⟨true, value.toList⟩) =
      .ok { given := [.setting setting value] } := by
  simp [Cluster.ofWord, Cluster.ofLong]

/-! ## Single options -/

theorem sets_text : Sets release ["--string"] ({ · with isText := true }) :=
  .word rfl rfl fun _ => rfl

theorem sets_pretty : Sets release ["--pretty"] ({ · with pretty := true }) :=
  .word rfl rfl fun _ => rfl

theorem sets_tokens : Sets release ["--tokens"] ({ · with tokens := true }) :=
  .word rfl rfl fun _ => rfl

theorem sets_format (format : Format) :
    Sets release ["--format=" ++ format.name] ({ · with format := format.choice }) := by
  refine .word (sortWord_attached .format format.name) (ofWord_attached .format format.name) ?_
  intro options
  cases release <;> cases format <;> rfl

theorem sets_out (path : String) (isValue : release = .early → path ≠ "--") :
    Sets release ["--out=" ++ path] ({ · with out := some path }) := by
  refine .word (sortWord_attached .out path) (ofWord_attached .out path) ?_
  intro options
  have isPath : value? release path = some path := by
    rw [value?, if_neg (not_and.2 isValue)]
  rw [give, isPath]

/-! ## Whole command lines -/

/-- Behind two dashes, one word is the source. -/
theorem ofArguments_of_sets (sets : Sets release texts change) (source : String) :
    ofArguments release (texts ++ ["--", source]) =
      .ok { change {} with source := some source } := by
  obtain ⟨words, sorted, taken⟩ := sets
  -- Behind two dashes every word is plain, whatever it looks like.
  have isSorted : (sortWords (texts ++ ["--", source])).mapError Refusal.misuse =
      .ok (words ++ [.dashes, .plain source]) := by
    rw [sorted]
    rfl
  simp only [ofArguments, isSorted, bind, Except.bind, taken]
  rfl

end JamLang.Options

namespace JamLang

open Options

/-- The words of a command line that asks for a request in a format. -/
def Request.commandLine (request : Request) (format : Format) : List String :=
  (if request.isText then ["--string"] else []) ++
    (["--format=" ++ format.name] ++
      ((request.out.map ("--out=" ++ ·)).toList ++
        ((if request.pretty then ["--pretty"] else []) ++
          (if request.tokens then ["--tokens"] else []))))

theorem ofArguments_of_ok {release : Release} {arguments : List String} {options : Options}
    (notEmpty : arguments ≠ []) (isRead : Options.ofArguments release arguments = .ok options) :
    Command.Task.ofArguments release arguments = .ofOptions options := by
  cases arguments with
  | nil => exact absurd rfl notEmpty
  | cons => simp only [Command.Task.ofArguments, isRead]

/-- Every request in a format that there is is asked for by a command line, except that the earlier
release knows no file whose path is two dashes. -/
theorem ofArguments_commandLine (release : Release) (request : Request) (format : Format)
    (asked : request.format = format.choice)
    (isValue : release = .early → request.out ≠ some "--") :
    Command.Task.ofArguments release (request.commandLine format ++ ["--", request.source]) =
      .request request := by
  obtain ⟨source, isText, choice, out, pretty, tokens⟩ := request
  obtain rfl : choice = format.choice := asked
  have setsOut : Sets release (out.map ("--out=" ++ ·)).toList
      (fun options => { options with out := out.or options.out }) := by
    cases out with
    | none => exact .nil
    | some path => exact sets_out path fun isEarly same => isValue isEarly (congrArg some same)
  have sets := (sets_text.when isText).append <| (sets_format format).append <|
    setsOut.append <| (sets_pretty.when pretty).append (sets_tokens.when tokens)
  refine (ofArguments_of_ok (by simp) (ofArguments_of_sets sets source)).trans ?_
  -- What is left is that the options put together are those of the request.
  cases isText <;> cases out <;> cases pretty <;> cases tokens <;> rfl

/-- The releases differ in what they take for the value behind a letter, and in the words that they
refuse. -/
example :
    let shown : Request :=
      { source := "x +", isText := true, format := Format.json.choice, pretty := true }
    Command.Task.ofArguments .late ["-psf=json", "x +"] = .request shown ∧
      Command.Task.ofArguments .early ["-psf=json", "x +"] =
        .refuse (.misuse (.invalidFormat "=json")) ∧
      Command.Task.ofArguments .late ["-s=p", "x +"] =
        .refuse (.misuse (.unwantedValue .text "p")) := by
  decide +kernel

end JamLang
