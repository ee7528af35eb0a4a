/-
# What a run shows of a file

A run with a path reads the file and splits it like any other reader does, and shows what comes of
it: the tokens on the output, or else the failure on the error sink, with a code that tells whether
the text or the way to it was at fault.  An empty file is set apart before it is split, so nothing
is shown of it although it has a token.  The main statements are

* `FileSystem.source_eq_ok_iff_bytes`: a text is read exactly where its bytes are;
* `outcome_runFile` and `code_runFile_eq_two_iff`: what is shown of a file that is not empty, and
  where a run says that there is no text;
* `run_oneSided`: a run that succeeds writes no complaint, and one that fails writes nothing else;
* `run_agrees`: what is shown of every file, and on which side of every run.
-/
import QueryLexer.Proofs.Rendering

namespace QueryLexer

/-! ## Reading texts -/

lemma fromUTF8?_eq_some_iff {bytes : ByteArray} {text : String} :
    String.fromUTF8? bytes = some text ↔ bytes = text.toUTF8 := by
  unfold String.fromUTF8?
  constructor
  · intro h
    split at h
    · obtain rfl := Option.some.inj h
      rfl
    · cases h
  · rintro rfl
    exact dif_pos text.isValidUTF8

lemma lex_empty (file : String) (o : Options) :
    (Source.mk file "").lex o = .ok [Token.atEnd .origin] := by
  have hend : (Cursor.start "".toList).step o file = .finished (Token.atEnd .origin) := by
    rfl
  rw [Source.lex, Source.pass, Cursor.walk_finished hend]
  rfl

lemma lex_mark (file : String) (o : Options) :
    (Source.mk file "\uFEFF").lex o = .ok [Token.atEnd ⟨1, 1, 3⟩] := by
  have hend : (Cursor.start "\uFEFF".toList).step o file = .finished (Token.atEnd ⟨1, 1, 3⟩) := by
    rfl
  rw [Source.lex, Source.pass, Cursor.walk_finished hend]
  rfl

namespace FileSystem

variable {files : FileSystem} {path text : String}

lemma bytes_of_source {s : Source} (h : files.source path = .ok s) :
    files path = .regular s.text.toUTF8 := by
  obtain ⟨bytes, hbytes, htext, -⟩ := source_eq_ok_iff.1 h
  rw [hbytes, fromUTF8?_eq_some_iff.1 htext]

/-- **A text is read exactly where its bytes are.** -/
theorem source_eq_ok_iff_bytes :
    files.source path = .ok ⟨path, text⟩ ↔ files path = .regular text.toUTF8 := by
  constructor
  · exact bytes_of_source
  · intro h
    exact source_eq_ok_iff.2 ⟨_, h, fromUTF8?_eq_some_iff.2 rfl, rfl⟩

lemma lex_of_bytes (h : files path = .regular text.toUTF8) (o : Options) :
    files.lex path o = ((Source.mk path text).lex o).mapError .inText :=
  lex_of_source (source_eq_ok_iff_bytes.2 h) o

lemma lex_of_empty (h : files path = .regular .empty) (o : Options) :
    files.lex path o = .ok [Token.atEnd .origin] := by
  have hbytes : files path = .regular "".toUTF8 := h
  rw [lex_of_bytes hbytes, lex_empty]
  rfl

lemma lex_of_mark (h : files path = .regular "\uFEFF".toUTF8) (o : Options) :
    files.lex path o = .ok [Token.atEnd ⟨1, 1, 3⟩] := by
  rw [lex_of_bytes h, lex_mark]
  rfl

lemma ne_empty_of_lex {o : Options} {result : Except Failure (List Token)}
    (h : files.lex path o = result) (hne : result ≠ .ok [Token.atEnd .origin]) :
    files path ≠ .regular .empty := by
  intro hempty
  exact hne (h.symm.trans (lex_of_empty hempty o))

end FileSystem

/-! ## Outcomes -/

/-- What a caller sees of a run: its code, and the bytes on the output and on the error sink. -/
@[ext]
structure Outcome where
  code : Nat
  out : ByteArray
  err : ByteArray

/-- What a caller sees of a report. -/
def Report.outcome (r : Report) : Outcome :=
  ⟨r.status.code, r.out.content, r.err.content⟩

namespace Failure

/-- How a run ends that meets a failure. -/
def status : Failure → ExitStatus
  | inText _ => .rejected
  | inCommand _ => .failed

variable {x : Failure}

lemma code_status_eq_one_iff : x.status.code = 1 ↔ ∃ e, x = .inText e := by
  cases x <;> simp [status, ExitStatus.code]

lemma code_status_eq_two_iff : x.status.code = 2 ↔ ∃ e, x = .inCommand e := by
  cases x <;> simp [status, ExitStatus.code]

lemma code_status_ne_zero : x.status.code ≠ 0 := by
  cases x <;> simp [status, ExitStatus.code]

end Failure

/-- What is shown of tokens, or of the failure to get them. -/
def Outcome.ofTokens : Except Failure (List Token) → Outcome
  | .ok ts => ⟨0, (printed ts).toUTF8, .empty⟩
  | .error x => ⟨x.status.code, .empty, (x.render ++ "\n").toUTF8⟩

/-- What comes of a text is never shown like the lack of one. -/
lemma code_ofTokens_ne_two (result : Except SyntaxError (List Token)) :
    (Outcome.ofTokens (result.mapError .inText)).code ≠ 2 := by
  cases result <;> rintro ⟨⟩

namespace Report

@[simp] lemma outcome_logAfter (r : Report) (records : List Record) :
    (r.logAfter records).outcome = r.outcome := rfl

lemma content_write_unlimited (text : String) :
    (Sink.unlimited.write text).content = text.toUTF8 :=
  ByteArray.empty_append

lemma outcome_answer (lines : List String) :
    (answer lines .unlimited .unlimited).outcome = ⟨0, (unlines lines).toUTF8, .empty⟩ := by
  rw [answer_eq, outcome, content_write_unlimited]
  rfl

lemma outcome_complain (status : ExitStatus) (what line : String) :
    (complain status what [line] .unlimited .unlimited).outcome =
      ⟨status.code, .empty, (line ++ "\n").toUTF8⟩ := by
  rw [complain_eq, outcome, content_write_unlimited, unlines, unlines, String.append_empty]
  rfl

lemma outcome_refuse (e : CommandError) :
    (refuse e .unlimited .unlimited).outcome = .ofTokens (.error (.inCommand e)) := by
  rw [refuse, outcome_logAfter, outcome_complain]
  rfl

end Report

/-! ## Runs with a path -/

section Paths

variable {files : FileSystem} {path : String}

lemma outcome_runSource_empty (file : String) :
    (runSource ⟨file, ""⟩ .unlimited .unlimited).outcome = ⟨0, .empty, .empty⟩ :=
  rfl

lemma outcome_runSource {s : Source} (h : s.text ≠ "") :
    (runSource s .unlimited .unlimited).outcome =
      .ofTokens ((s.lex {}).mapError .inText) := by
  rw [runSource, if_neg (by simpa using h), Report.outcome_logAfter, Source.lex]
  cases (s.pass {}).tokens with
  | ok ts => exact Report.outcome_answer (ts.map Token.render)
  | error e => exact Report.outcome_complain .rejected "diagnostic" e.render

lemma outcome_runFile_empty (h : files path = .regular .empty) :
    (runFile files path .unlimited .unlimited).outcome = ⟨0, .empty, .empty⟩ := by
  have hsource : files.source path = .ok ⟨path, ""⟩ := FileSystem.source_eq_ok_iff_bytes.2 h
  rw [runFile_of_ok hsource, outcome_runSource_empty]

/-- **What is shown of a file that is not empty.** -/
theorem outcome_runFile (h : files path ≠ .regular .empty) :
    (runFile files path .unlimited .unlimited).outcome = .ofTokens (files.lex path {}) := by
  cases hsource : files.source path with
  | error e =>
    rw [runFile_of_error hsource, Report.outcome_refuse, FileSystem.lex, hsource]
  | ok s =>
    have hbytes := FileSystem.bytes_of_source hsource
    have hne : s.text ≠ "" := by
      intro hempty
      rw [hempty] at hbytes
      exact h hbytes
    rw [runFile_of_ok hsource, outcome_runSource hne, FileSystem.lex_of_source hsource]

/-- **A run says that there is no text exactly where none can be read.** -/
theorem code_runFile_eq_two_iff :
    (runFile files path .unlimited .unlimited).outcome.code = 2 ↔
      ∀ text : String, files path ≠ .regular text.toUTF8 := by
  constructor
  · intro hcode text h
    by_cases hempty : files path = .regular .empty
    · rw [outcome_runFile_empty hempty] at hcode
      cases hcode
    · rw [outcome_runFile hempty, FileSystem.lex_of_bytes h] at hcode
      exact absurd hcode (code_ofTokens_ne_two _)
  · intro h
    cases hsource : files.source path with
    | error e =>
      rw [runFile_of_error hsource, Report.outcome_refuse]
      rfl
    | ok s => exact absurd (FileSystem.bytes_of_source hsource) (h s.text)

end Paths

/-- An outcome agrees with the tokens of a file, or with the failure to get them. -/
structure Outcome.Agrees (files : FileSystem) (path : String) (outcome : Outcome) : Prop where
  /-- All tokens of a file that is not empty are shown, the one at the end included. -/
  of_tokens : ∀ ts, files.lex path {} = .ok ts → files path ≠ .regular .empty →
    outcome = ⟨0, (printed ts).toUTF8, .empty⟩
  /-- Nothing is shown of an empty file, which has a token all the same. -/
  of_empty : files path = .regular .empty →
    files.lex path {} = .ok [Token.atEnd .origin] ∧ outcome = ⟨0, .empty, .empty⟩
  /-- A file that holds a mark alone is not empty. -/
  of_mark : files path = .regular "\uFEFF".toUTF8 →
    files.lex path {} = .ok [Token.atEnd ⟨1, 1, 3⟩] ∧
      outcome = ⟨0, "1:1 EndOfInput\n".toUTF8, .empty⟩
  /-- A failure is shown, and the code tells its kind. -/
  of_failure : ∀ x, files.lex path {} = .error x →
    outcome.out = .empty ∧ outcome.err = (x.render ++ "\n").toUTF8 ∧
      (outcome.code = 1 ↔ ∃ e, x = .inText e) ∧ (outcome.code = 2 ↔ ∃ e, x = .inCommand e)
  /-- Where no text can be read, and only there, the code says so. -/
  code_eq_two_iff : outcome.code = 2 ↔ ∀ text : String, files path ≠ .regular text.toUTF8

/-- **A run with a path shows what comes of the file.** -/
theorem agrees_runFile (files : FileSystem) (path : String) :
    (runFile files path .unlimited .unlimited).outcome.Agrees files path where
  of_tokens := by
    intro ts hlex hne
    rw [outcome_runFile hne, hlex, Outcome.ofTokens]
  of_empty := by
    intro h
    exact ⟨FileSystem.lex_of_empty h {}, outcome_runFile_empty h⟩
  of_mark := by
    intro h
    have hlex := FileSystem.lex_of_mark h {}
    have hne : files path ≠ .regular .empty := FileSystem.ne_empty_of_lex hlex (by decide)
    have hprinted : printed [Token.atEnd ⟨1, 1, 3⟩] = "1:1 EndOfInput\n" := by
      decide +kernel
    rw [outcome_runFile hne, hlex, Outcome.ofTokens, hprinted]
    exact ⟨rfl, rfl⟩
  of_failure := by
    intro x hlex
    have hne : files path ≠ .regular .empty := FileSystem.ne_empty_of_lex hlex (by simp)
    rw [outcome_runFile hne, hlex]
    exact ⟨rfl, rfl, Failure.code_status_eq_one_iff, Failure.code_status_eq_two_iff⟩
  code_eq_two_iff := code_runFile_eq_two_iff

/-! ## All runs -/

/-- An outcome is on one side: a success leaves the error sink empty, and a failure leaves the
output empty and says something on the error sink. -/
structure Outcome.OneSided (outcome : Outcome) : Prop where
  of_success : outcome.code = 0 → outcome.err = .empty
  of_failure : outcome.code ≠ 0 → outcome.out = .empty ∧ outcome.err ≠ .empty

lemma oneSided_success (bytes : ByteArray) : Outcome.OneSided ⟨0, bytes, .empty⟩ :=
  ⟨fun _ => rfl, fun h => absurd rfl h⟩

lemma oneSided_failure {code : Nat} {text : String} (hcode : code ≠ 0) (htext : text ≠ "") :
    Outcome.OneSided ⟨code, .empty, text.toUTF8⟩ :=
  ⟨fun h => absurd h hcode, fun _ => ⟨rfl, fun h => htext (String.toByteArray_inj.1 h)⟩⟩

lemma oneSided_ofTokens (result : Except Failure (List Token)) :
    (Outcome.ofTokens result).OneSided := by
  cases result with
  | ok ts => exact oneSided_success _
  | error x => exact oneSided_failure Failure.code_status_ne_zero (by simp)

lemma oneSided_runFile (files : FileSystem) (path : String) :
    (runFile files path .unlimited .unlimited).outcome.OneSided := by
  by_cases h : files path = .regular .empty
  · rw [outcome_runFile_empty h]
    exact oneSided_success _
  · rw [outcome_runFile h]
    exact oneSided_ofTokens _

lemma oneSided_runUnknownFlag (program flag : String) :
    (runUnknownFlag program flag .unlimited .unlimited).outcome.OneSided := by
  rw [runUnknownFlag_eq, Report.outcome, Report.content_write_unlimited]
  exact oneSided_failure (Nat.succ_ne_zero 1) (by simp [unlines])

/-- **A run that succeeds writes no complaint, and one that fails writes nothing else.** -/
theorem run_oneSided (files : FileSystem) (arguments : List String) :
    (run files arguments .unlimited .unlimited).outcome.OneSided := by
  unfold run
  cases Request.ofArguments arguments with
  | unknownFlag flag => exact oneSided_runUnknownFlag _ flag
  | lexFile path => exact oneSided_runFile files path
  | banner | help | version =>
    rw [Report.outcome_answer]
    exact oneSided_success _

/-- **The command line agrees with the library.**  Whatever stands around a path, a run shows what
comes of the file; and every run, whatever it is asked for, shows its outcome on one side. -/
theorem run_agrees (files : FileSystem) :
    (∀ program path others, isFlag path = false →
      (run files (program :: path :: others) .unlimited .unlimited).outcome.Agrees files path) ∧
      ∀ arguments, (run files arguments .unlimited .unlimited).outcome.OneSided := by
  constructor
  · intro program path others h
    rw [run_path h]
    exact agrees_runFile files path
  · exact run_oneSided files

/-- What stands around a path may look like a flag.  The report names the line behind the mark. -/
theorem agrees_open_literal :
    isFlag "a b" = false ∧
      FileSystem.lex (fun _ => .regular "\uFEFFx\n\"é".toUTF8) "a b" {} =
        .error (.inText ⟨.unterminatedString, ⟨⟨2, 1, 5⟩, 8⟩, "a b", "\"é"⟩) ∧
      (run (fun _ => .regular "\uFEFFx\n\"é".toUTF8) ["-v", "a b", "-h"] .unlimited
        .unlimited).outcome =
        ⟨1, .empty, ("file 'a b', at line 2:\n\"é\n" ++
          "[ErrSyntax]: unterminated string literal at line 2\n").toUTF8⟩ := by
  have hflag : isFlag "a b" = false := by
    rfl
  have hword : (Cursor.start "\uFEFFx\n\"é".toList).step {} "a b" =
      .read ⟨.identifier, "x", ⟨⟨1, 1, 3⟩, 4⟩⟩ ⟨⟨1, 2, 4⟩, ['\n', '"', 'é']⟩ := by
    rfl
  have hopen : (Cursor.mk ⟨1, 2, 4⟩ ['\n', '"', 'é']).step {} "a b" =
      .failed ⟨.unterminatedString, ⟨⟨2, 1, 5⟩, 8⟩, "a b", "\"é"⟩ := by
    rfl
  have hlex : FileSystem.lex (fun _ => .regular "\uFEFFx\n\"é".toUTF8) "a b" {} =
      .error (.inText ⟨.unterminatedString, ⟨⟨2, 1, 5⟩, 8⟩, "a b", "\"é"⟩) := by
    rw [FileSystem.lex_of_bytes rfl, Source.lex, Source.pass, Cursor.walk_read hword,
      Cursor.walk_failed hopen]
    rfl
  obtain ⟨hout, herr, hcode, -⟩ :=
    ((run_agrees _).1 "-v" "a b" ["-h"] hflag).of_failure _ hlex
  refine ⟨hflag, hlex, Outcome.ext (hcode.2 ⟨_, rfl⟩) hout (herr.trans (congrArg _ ?_))⟩
  decide +kernel

end QueryLexer
