import JamLang.Command
import JamLang.Proofs.FileSystem.Writing
import JamLang.Proofs.Program.Outcome

/-!
# All or nothing

Whatever can be wrong with a source is found before the command prints or writes anything.  What a
request comes to until then is said step by step, with one case for each step that may fail
(`Request.ComesTo`), and neither the output file nor the banners have a part in it.  So a request
that fails leaves all files as they were, whichever file it was to be written to.  Otherwise there
is one text, which is printed, framed or written (`Request.Delivered`).  The file may be anywhere in
the file system.
-/

namespace JamLang

variable {request : Request} {files : FileSystem} {source text : String} {fault : RunFault}
  {result : Except RunFault String}

/-! ## What a request comes to -/

namespace Request

/-- The source text of a request is given, or it is what a program file holds. -/
inductive HasSource (request : Request) (files : FileSystem) : String → Prop where
  | text (isText : request.isText = true) : HasSource request files request.source
  | file {bytes : List UInt8} {source : String} (isPath : request.isText = false)
      (endsProperly : ['.', 'j', 'a', 'm'] <:+ request.source.toList)
      (isReadable : files.IsReadable request.source bytes)
      (decodes : decodeProgram bytes = .ok source) : HasSource request files source

/-- What a request comes to, as far as it does not concern its output. -/
inductive ComesTo (request : Request) (files : FileSystem) : Except RunFault String → Prop where
  | notProgramFile (isPath : request.isText = false)
      (endsOtherwise : ¬ ['.', 'j', 'a', 'm'] <:+ request.source.toList) :
      ComesTo request files (.error .notProgramFile)
  | unread {fault : FileFault} (isPath : request.isText = false)
      (endsProperly : ['.', 'j', 'a', 'm'] <:+ request.source.toList)
      (notReadable : ∀ bytes, ¬ files.IsReadable request.source bytes)
      (fails : files.read request.source = .error fault) :
      ComesTo request files (.error (.file fault))
  | undecoded {bytes : List UInt8} {fault : Text.Utf8.Fault} (isPath : request.isText = false)
      (endsProperly : ['.', 'j', 'a', 'm'] <:+ request.source.toList)
      (isReadable : files.IsReadable request.source bytes)
      (fails : decodeProgram bytes = .error fault) :
      ComesTo request files (.error (.encoding fault))
  | unlexed {source : String} {fault : LexicalFault} (hasSource : request.HasSource files source)
      (asTokens : request.tokens = true) (fails : Lexer.tokenize source = .error fault) :
      ComesTo request files (.error (.parse (.lexical fault)))
  | tokens {source : String} {tokens : List Token} (hasSource : request.HasSource files source)
      (asTokens : request.tokens = true) (lexes : Lexer.tokenize source = .ok tokens) :
      ComesTo request files (.ok (dumpTokens tokens))
  | unparsed {source : String} {fault : Fault} (hasSource : request.HasSource files source)
      (asTree : request.tokens = false) (fails : parse source = .error fault) :
      ComesTo request files (.error (.parse fault))
  | unshown {source : String} {tree : Node} {fault : FormatFault}
      (hasSource : request.HasSource files source) (asTree : request.tokens = false)
      (parses : parse source = .ok tree)
      (fails : formatChosen request.format tree = .error fault) :
      ComesTo request files (.error (.format fault))
  | tree {source text : String} {tree : Node} (hasSource : request.HasSource files source)
      (asTree : request.tokens = false) (parses : parse source = .ok tree)
      (isShown : formatChosen request.format tree = .ok text) : ComesTo request files (.ok text)

theorem HasSource.sourceText (hasSource : request.HasSource files source) :
    request.sourceText files.read = .ok source := by
  cases hasSource with
  | text isText => simp [Request.sourceText, isText]
  | file isPath endsProperly isReadable decodes =>
    have reads := FileSystem.read_eq_ok_iff.2 isReadable
    simp [Request.sourceText, isPath, endsProperly, reads, decodes, Except.mapError]

theorem comesTo_output (hasSource : request.HasSource files source) :
    request.ComesTo files (request.output source) := by
  unfold output
  split
  · next asTokens =>
    split
    · next lexes => exact .tokens hasSource asTokens lexes
    · next fails => exact .unlexed hasSource asTokens fails
  · next asTree =>
    have asTree : request.tokens = false := Bool.eq_false_iff.2 asTree
    split
    · next tree parses =>
      cases isShown : formatChosen request.format tree with
      | ok text => exact .tree hasSource asTree parses isShown
      | error fault => exact .unshown hasSource asTree parses isShown
    · next fails => exact .unparsed hasSource asTree fails

/-- Every request comes to something. -/
theorem comesTo_prepare (request : Request) (files : FileSystem) :
    request.ComesTo files (request.prepare files.read) := by
  -- With a source at hand, all that is left is the output text.
  have ofSource {source : String} (hasSource : request.HasSource files source) :
      request.ComesTo files (request.prepare files.read) := by
    rw [prepare, hasSource.sourceText]
    exact comesTo_output hasSource
  cases isPath : request.isText with
  | true => exact ofSource (.text isPath)
  | false =>
    by_cases endsProperly : ['.', 'j', 'a', 'm'] <:+ request.source.toList
    · cases reads : files.read request.source with
      | error fault =>
        have notReadable (bytes : List UInt8) : ¬ files.IsReadable request.source bytes := by
          intro isReadable
          cases reads.symm.trans (FileSystem.read_eq_ok_iff.2 isReadable)
        simpa [prepare, sourceText, isPath, endsProperly, reads] using
          ComesTo.unread isPath endsProperly notReadable reads
      | ok bytes =>
        have isReadable := FileSystem.read_eq_ok_iff.1 reads
        cases decodes : decodeProgram bytes with
        | error fault =>
          simpa [prepare, sourceText, isPath, endsProperly, reads, decodes, Except.mapError] using
            ComesTo.undecoded isPath endsProperly isReadable decodes
        | ok source => exact ofSource (.file isPath endsProperly isReadable decodes)
    · simpa [prepare, sourceText, isPath, endsProperly] using
        ComesTo.notProgramFile isPath endsProperly

/-- No request comes to anything else. -/
theorem ComesTo.prepare (comesTo : request.ComesTo files result) :
    request.prepare files.read = result := by
  have ofSource {source : String} (hasSource : request.HasSource files source) :
      request.prepare files.read = request.output source := by
    rw [Request.prepare, hasSource.sourceText]
  cases comesTo with
  | notProgramFile isPath endsOtherwise =>
    simp [Request.prepare, sourceText, isPath, endsOtherwise]
  | unread isPath endsProperly _ fails =>
    simp [Request.prepare, sourceText, isPath, endsProperly, fails]
  | undecoded isPath endsProperly isReadable fails =>
    have reads := FileSystem.read_eq_ok_iff.2 isReadable
    simp [Request.prepare, sourceText, isPath, endsProperly, reads, fails, Except.mapError]
  | unlexed hasSource asTokens fails => simp [ofSource hasSource, output, asTokens, fails]
  | tokens hasSource asTokens lexes => simp [ofSource hasSource, output, asTokens, lexes]
  | unparsed hasSource asTree fails => simp [ofSource hasSource, output, asTree, fails]
  | unshown hasSource asTree parses fails =>
    simp [ofSource hasSource, output, asTree, parses, fails, Except.mapError]
  | tree hasSource asTree parses isShown =>
    simp [ofSource hasSource, output, asTree, parses, isShown, Except.mapError]

end Request

/-! ## Faults -/

/-- The faults that are complained about: of paths and files, of the text, of an integer that is too
long, and of a format that is none. -/
inductive RunFault.IsComplaint : RunFault → Prop where
  | notProgramFile : IsComplaint .notProgramFile
  | file (fault : FileFault) : IsComplaint (.file fault)
  | encoding (fault : Text.Utf8.Fault) : IsComplaint (.encoding fault)
  | lexical (fault : LexicalFault) : IsComplaint (.parse (.lexical fault))
  | grammar (fault : SyntaxFault) : IsComplaint (.parse (.grammar fault))
  | overlong (count : Nat) : IsComplaint (.parse (.numeral (.tooManyDigits count)))
  | unknownFormat (choice : FormatChoice) : IsComplaint (.format (.unknownFormat choice))
  | unwritable (fault : Text.NumeralFault) : IsComplaint (.format (.print (.numeral fault)))

theorem Request.ComesTo.isComplaint (comesTo : request.ComesTo files (.error fault)) :
    fault.IsComplaint := by
  cases comesTo with
  | notProgramFile => exact .notProgramFile
  | unread => exact .file _
  | undecoded => exact .encoding _
  | unlexed => exact .lexical _
  | @unparsed source _ _ _ fails =>
    have outcome := outcome_parse source
    rw [fails] at outcome
    cases outcome with
    | lexical => exact .lexical _
    | grammar => exact .grammar _
    | overlong => exact .overlong _
  | unshown _ _ parses fails =>
    rcases exists_of_formatChosen_error parses fails with ⟨-, rfl⟩ | ⟨cause, rfl⟩
    · exact .unknownFormat _
    · exact .unwritable cause

/-! ## Output -/

/-- The output text between banners. -/
def Request.framed (request : Request) (text : String) : String :=
  let banner := "===================="
  let title := if request.tokens then "Tokens" else "Jam AST"
  banner ++ "\n" ++ title ++ "\n" ++ banner ++ "\n" ++ text ++ "\n" ++ banner ++ "\n\n"

/-- The ways in which an output text is delivered: with banners or without, and to a file if one is
named.  If the file cannot be written, the banners were printed before. -/
inductive Request.Delivered (request : Request) (files : FileSystem) (text : String) :
    Command.Outcome → Prop where
  | printed (noFile : ∀ path, request.out = some path → path = "")
      (plain : request.pretty = false) :
      Delivered request files text ⟨text ++ "\n", none, files⟩
  | framed (noFile : ∀ path, request.out = some path → path = "")
      (pretty : request.pretty = true) :
      Delivered request files text ⟨request.framed text, none, files⟩
  | written {path : String} {after : FileSystem} (toFile : request.out = some path)
      (isNamed : path ≠ "") (plain : request.pretty = false)
      (isWritten : files.IsWritten path (Text.Utf8.encode (text ++ "\n")) after) :
      Delivered request files text ⟨"", none, after⟩
  | framedAndWritten {path : String} {after : FileSystem} (toFile : request.out = some path)
      (isNamed : path ≠ "") (pretty : request.pretty = true)
      (isWritten : files.IsWritten path (Text.Utf8.encode (text ++ "\n")) after) :
      Delivered request files text
        ⟨request.framed text ++ "(wrote to " ++ path ++ ")\n", none, after⟩
  | unwritable {path : String} {fault : FileFault} (toFile : request.out = some path)
      (isNamed : path ≠ "") (notWritable : ∀ place, ¬ files.IsWritable path place)
      (fails : files.write path (Text.Utf8.encode (text ++ "\n")) = .error fault) :
      Delivered request files text
        ⟨if request.pretty then request.framed text else "", some (.file fault), files⟩

theorem Request.shown_of_pretty (pretty : request.pretty = true) (text : String) :
    request.shown text = request.framed text := by
  have sameList : List.replicate 20 '=' = "====================".toList := by decide
  unfold shown framed
  rw [if_pos pretty, sameList, String.ofList_toList]

namespace Command

theorem run_of_fault (fails : request.prepare files.read = .error fault) :
    run request files = ⟨"", some fault, files⟩ := by
  simp only [run, fails]

theorem main_of_fault {host : Host} {arguments : List String}
    (isTask : Task.ofArguments host.release arguments = .request request)
    (fails : request.prepare files.read = .error fault) (inputs : List Input) :
    main host arguments files inputs =
      ⟨1, "", "[error] >>> " ++ fault.message ++ "\n", files⟩ := by
  simp only [main, isTask, run_of_fault fails, complaint]

theorem delivered_run (succeeds : request.prepare files.read = .ok text) :
    request.Delivered files text (run request files) := by
  by_cases noFile : ∀ path, request.out = some path → path = ""
  · have noTarget : request.target? = none := by simpa [Request.target?] using noFile
    simp only [run, succeeds, noTarget]
    cases pretty : request.pretty with
    | false =>
      have isPlain : request.shown text = text ++ "\n" := by simp [Request.shown, pretty, noTarget]
      exact isPlain ▸ .printed noFile pretty
    | true => exact Request.shown_of_pretty pretty text ▸ .framed noFile pretty
  · simp only [not_forall] at noFile
    obtain ⟨path, toFile, isNamed⟩ := noFile
    have isTarget : request.target? = some path := by simp [Request.target?, toFile, isNamed]
    have isShown : request.shown text = if request.pretty then request.framed text else "" := by
      cases pretty : request.pretty with
      | false => simp [Request.shown, pretty, isTarget]
      | true => exact Request.shown_of_pretty pretty text
    simp only [run, succeeds, isTarget, isShown]
    cases writes : files.write path (Request.fileBytes text) with
    | error fault =>
      exact .unwritable toFile isNamed (FileSystem.not_isWritable_of_write writes) writes
    | ok after =>
      have isWritten := FileSystem.isWritten_of_write writes
      cases pretty : request.pretty with
      | false =>
        simp only [Request.confirmation, pretty]
        exact .written toFile isNamed pretty isWritten
      | true =>
        simp only [Request.confirmation, pretty]
        have isLast := Request.Delivered.framedAndWritten toFile isNamed pretty isWritten
        simpa [String.append_assoc] using isLast

end Command

/-- A request that fails before its output prints nothing and leaves all files as they were,
whatever it asks to be done with the output; a command line for it, on any host, complains about the
fault, which is one of those that are complained about.  If it does not fail, it has one text, and
this is delivered as it asks for. -/
theorem run_allOrNothing (request : Request) (files : FileSystem) :
    (∀ fault, request.ComesTo files (.error fault) →
      fault.IsComplaint ∧ ∀ out pretty,
        Command.run { request with out, pretty } files = ⟨"", some fault, files⟩ ∧
          ∀ (host : Command.Host) arguments inputs,
            Command.Task.ofArguments host.release arguments =
                .request { request with out, pretty } →
            Command.main host arguments files inputs =
              ⟨1, "", "[error] >>> " ++ fault.message ++ "\n", files⟩) ∧
      ((∀ fault, ¬ request.ComesTo files (.error fault)) →
        ∃ text, request.ComesTo files (.ok text) ∧ ∀ out pretty,
          Request.Delivered { request with out, pretty } files text
            (Command.run { request with out, pretty } files)) := by
  -- The output has no part in the preparation.
  have sameText (out : Option String) (pretty : Bool) :
      Request.prepare { request with out, pretty } files.read = request.prepare files.read := rfl
  constructor
  · intro fault comesTo
    refine ⟨comesTo.isComplaint, fun out pretty => ?_⟩
    have fails := (sameText out pretty).trans comesTo.prepare
    exact ⟨Command.run_of_fault fails,
      fun _ _ inputs isTask => Command.main_of_fault isTask fails inputs⟩
  · intro succeeds
    have comesTo := request.comesTo_prepare files
    cases prepares : request.prepare files.read with
    | error fault => exact absurd (prepares ▸ comesTo) (succeeds fault)
    | ok text =>
      refine ⟨text, prepares ▸ comesTo, fun out pretty => ?_⟩
      exact Command.delivered_run ((sameText out pretty).trans prepares)

/-- A program that breaks off is not written over itself; another one is written to a file outside
of the folder that both are in. -/
theorem run_allOrNothing_overSource :
    let files : FileSystem :=
      { entries := [(["jam", "a.jam"], .file [0x78, 0x20, 0x2B]), (["jam", "b.jam"], .file [0x78]),
          (["tmp"], .folder)]
        here := ["jam"] }
    let host : Command.Host := ⟨.late, fun _ _ => "  ...\n"⟩
    let broken : Request := { source := "a.jam" }
    let sound : Request := { source := "b.jam" }
    let fault : RunFault := .parse (.grammar (.unexpected none .operand))
    broken.ComesTo files (.error fault) ∧
      Command.main host ["-po=a.jam", "a.jam"] files [] =
        ⟨1, "", "[error] >>> " ++ fault.message ++ "\n", files⟩ ∧
      (∀ fault, ¬ sound.ComesTo files (.error fault)) ∧
      Request.Delivered { sound with out := some "/tmp/out.txt", pretty := true } files "x"
        (Command.run { sound with out := some "/tmp/out.txt", pretty := true } files) := by
  intro files host broken sound fault
  have isReadable : files.IsReadable "a.jam" [0x78, 0x20, 0x2B] :=
    FileSystem.read_eq_ok_iff.1 rfl
  have ofBroken : broken.HasSource files "x +" := .file rfl (by decide) isReadable rfl
  have lexed : Lexer.tokens "x +" =
      ([⟨.identifier, "x", ⟨1, 1⟩⟩, ⟨.operator, "+", ⟨1, 3⟩⟩], none) := by decide +kernel
  have fails : broken.ComesTo files (.error fault) :=
    .unparsed ofBroken rfl ((parse_of_tokens lexed).trans rfl)
  have isTask : Command.Task.ofArguments host.release ["-po=a.jam", "a.jam"] =
      .request { broken with out := some "a.jam", pretty := true } := by decide +kernel
  have isReadable' : files.IsReadable "b.jam" [0x78] := FileSystem.read_eq_ok_iff.1 rfl
  have ofSound : sound.HasSource files "x" := .file rfl (by decide) isReadable' rfl
  have lexed' : Lexer.tokens "x" = ([⟨.identifier, "x", ⟨1, 1⟩⟩], none) := by decide +kernel
  have isText : sound.ComesTo files (.ok "x") :=
    .tree ofSound rfl ((parse_of_tokens lexed').trans rfl) rfl
  have succeeds (fault : RunFault) : ¬ sound.ComesTo files (.error fault) := by
    intro fails
    cases isText.prepare.symm.trans fails.prepare
  obtain ⟨text, isText', delivers⟩ := (run_allOrNothing sound files).2 succeeds
  obtain rfl := Except.ok.inj (isText.prepare.symm.trans isText'.prepare)
  have complains := (((run_allOrNothing broken files).1 fault fails).2 (some "a.jam") true).2
  exact ⟨fails, complains host _ [] isTask, succeeds, delivers (some "/tmp/out.txt") true⟩

end JamLang
