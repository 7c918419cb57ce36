/-
What comes of reading an export.

* `Fault.OfTool`, `Fault.OfDecoding`: the faults that are announced: no
  document could be had, or the document holds no definitions;
* `IsText`, `PrintsText`: bytes that are those of a text, and programs that
  print nothing else;
* `Readable`: a content that is a text, and breaks no limit;
* `Holds`: a content that is a document with some definitions;
* `Classified`: an outcome that is settled by the content, if there is any:
  `classified_readContent` for one that is there;
* `classified_export`: **every other fault comes of bytes that cannot be
  read**, in a document or in what a program prints, or of a name that
  nothing can have, and of nothing else;
* `undecodable_garbledHost`: such a content.
-/
import ApiBook.Export.Run
import ApiBook.Proofs.Json.Limit
import ApiBook.Proofs.Record.Acceptance
import ApiBook.Proofs.Text.Utf8

namespace ApiBook.Export

open Record (Definition DocumentOf)

/-! ### Faults -/

/-- The faults of having no document: no program is started, or it fails, or
its document cannot be read. -/
inductive Fault.OfTool : Fault → Prop
  | notStarted (command : Text) (line : List Text) (fault : Disk.Fault) :
    OfTool (.notStarted command line fault)
  | failed (command : Text) (line : List Text) (status : ℤ)
      (notes : List Char) : OfTool (.failed command line status notes)
  | unreadable (line : List Text) (file : Path) (fault : Disk.Fault) :
    OfTool (.unreadable line file fault)

/-- The faults of a document that holds no definitions: it is no JSON, or not
of the right form. -/
inductive Fault.OfDecoding : Fault → Prop
  | document {e : Record.DecodeError} (h : e.breach? = none) :
    OfDecoding (.document e)

/-- A fault in the document is not the tool's. -/
lemma Fault.not_ofTool_document (e : Record.DecodeError) :
    ¬ OfTool (.document e) := by
  rintro ⟨⟩

/-! ### What is there to read -/

/-- Whether bytes are those of a text. -/
def IsText (bytes : List UInt8) : Prop := ∃ text, bytes = Text.encodeUtf8 text

/-- Whether what a program prints is text. -/
structure PrintsText (p : Program) : Prop where
  output : IsText p.output
  errors : IsText p.errors

/-- Whether a content is the bytes of a text that breaks no limit, where
lists and objects may be nested to a depth. -/
def Readable (depth : ℕ) (content : List UInt8) : Prop :=
  ∃ text, content = Text.encodeUtf8 text ∧
    ¬ Json.BreaksLimit depth (.ofChars (Text.unifyNewlines text))

/-- Whether a content is the bytes of a text that stands for a list of
definitions. -/
def Holds (depth : ℕ) (content : List UInt8) (ds : List Definition) : Prop :=
  ∃ text v, content = Text.encodeUtf8 text ∧
    Json.parse depth (.ofChars (Text.unifyNewlines text)) = .ok v ∧
    DocumentOf v ds

/-- An outcome that is settled by the contents there are to read, if
nothing is in the way: it is definitions if there is one that holds them, a
fault of the tool if there is none, a fault of decoding if there is a
readable one that holds no definitions, and another fault if there is one
that is not readable, or if something is in the way. -/
structure Classified (depth : ℕ) (r : Except Fault (List Definition))
    (clear : Prop) (leaves : List UInt8 → Prop) : Prop where
  returns : ∀ ds, r = .ok ds ↔
    clear ∧ ∃ content, leaves content ∧ Holds depth content ds
  tool : (∃ f, r = .error f ∧ f.OfTool) ↔
    clear ∧ ∀ content, ¬ leaves content
  decoding : (∃ f, r = .error f ∧ f.OfDecoding) ↔
    clear ∧ ∃ content, leaves content ∧ Readable depth content ∧
      ∀ ds, ¬ Holds depth content ds
  escapes : (∃ f, r = .error f ∧ ¬ f.OfTool ∧ ¬ f.OfDecoding) ↔
    ¬ clear ∨ ∃ content, leaves content ∧ ¬ Readable depth content

variable {depth : ℕ} {r : Except Fault (List Definition)} {clear : Prop}
  {leaves : List UInt8 → Prop} {content : List UInt8}

/-! ### Contents -/

/-- The text of a content is that whose bytes it is, with line feeds for its
line ends. -/
lemma textOf?_eq_some_iff {cs : List Char} :
    Host.textOf? content = some cs ↔
      ∃ text, content = Text.encodeUtf8 text ∧
        Text.unifyNewlines text = cs := by
  simp only [Host.textOf?, Option.map_eq_some_iff,
    Text.decodeUtf8?_eq_some_iff]

/-- Bytes are those of a text if they can be read. -/
lemma isText_iff : IsText content ↔ ∃ cs, Host.textOf? content = some cs := by
  simp only [IsText, textOf?_eq_some_iff]
  constructor
  · rintro ⟨text, htext⟩
    exact ⟨_, text, htext, rfl⟩
  · rintro ⟨_, text, htext, rfl⟩
    exact ⟨text, htext⟩

/-- Whether a content is readable is decided by its text. -/
lemma readable_iff :
    Readable depth content ↔ ∃ cs, Host.textOf? content = some cs ∧
      ¬ Json.BreaksLimit depth (.ofChars cs) := by
  simp only [Readable, textOf?_eq_some_iff]
  constructor
  · rintro ⟨text, htext, hlimit⟩
    exact ⟨_, ⟨text, htext, rfl⟩, hlimit⟩
  · rintro ⟨_, ⟨text, htext, rfl⟩, hlimit⟩
    exact ⟨text, htext, hlimit⟩

/-- So is what it holds. -/
lemma holds_iff {ds : List Definition} :
    Holds depth content ds ↔ ∃ cs v, Host.textOf? content = some cs ∧
      Json.parse depth (.ofChars cs) = .ok v ∧ DocumentOf v ds := by
  simp only [Holds, textOf?_eq_some_iff]
  constructor
  · rintro ⟨text, v, htext, hparse, hv⟩
    exact ⟨_, v, ⟨text, htext, rfl⟩, hparse, hv⟩
  · rintro ⟨_, v, ⟨text, htext, rfl⟩, hparse, hv⟩
    exact ⟨text, v, htext, hparse, hv⟩

/-- Definitions come of a content that holds them and no others. -/
lemma classified_ok {ds : List Definition} (hread : Readable depth content)
    (h : ∀ ds', Holds depth content ds' ↔ ds = ds') :
    Classified depth (.ok ds) True (· = content) where
  returns ds' := by simp [h]
  tool := by simp
  decoding := by simp [h]
  escapes := by simp [hread]

/-- A fault that is not the tool's comes of a content that holds nothing; it
is one of decoding if the content is readable. -/
lemma classified_error {f : Fault} (hnone : ∀ ds, ¬ Holds depth content ds)
    (htool : ¬ f.OfTool)
    (hdecoding : f.OfDecoding ↔ Readable depth content) :
    Classified depth (.error f) True (· = content) where
  returns ds := by simp [hnone]
  tool := by simp [htool]
  decoding := by simp [hnone, hdecoding]
  escapes := by simp [htool, hdecoding]

section Text

variable {cs : List Char} (htext : Host.textOf? content = some cs)

include htext

/-- A text that is refused holds nothing, and is readable unless a limit is
the reason. -/
lemma classified_of_refused {f : Json.Fault}
    (hparse : Json.parse depth (.ofChars cs) = .error f) :
    Classified depth (readContent depth content) True (· = content) := by
  have hnone : ∀ ds, ¬ Holds depth content ds := by
    intro ds h
    obtain ⟨cs', v, htext', hparse', -⟩ := holds_iff.mp h
    obtain rfl := Option.some.inj (htext.symm.trans htext')
    cases hparse.symm.trans hparse'
  have hread : readContent depth content =
      .error (.document (.malformed .documentation (.ofChars cs) f)) := by
    rw [readContent, htext]
    dsimp only
    rw [Record.decode, hparse, Record.ofParsed]
  rw [hread]
  refine classified_error hnone (Fault.not_ofTool_document _) ?_
  rw [readable_iff]
  constructor
  · rintro ⟨hf⟩
    refine ⟨cs, htext, ?_⟩
    rintro ⟨f', b, hparse', hb⟩
    obtain rfl := Except.error.inj (hparse.symm.trans hparse')
    cases hf.symm.trans hb
  · rintro ⟨cs', htext', hlimit⟩
    obtain rfl := Option.some.inj (htext.symm.trans htext')
    refine .document ?_
    cases hb : f.breach? with
    | none => exact hb
    | some b => exact absurd ⟨f, b, hparse, hb⟩ hlimit

/-- A text that stands for a value is readable, and holds what the value
does. -/
lemma classified_of_parsed {v : Value}
    (hparse : Json.parse depth (.ofChars cs) = .ok v) :
    Classified depth (readContent depth content) True (· = content) := by
  have hreadable : Readable depth content := by
    refine readable_iff.mpr ⟨cs, htext, ?_⟩
    rintro ⟨f, b, hf, -⟩
    cases hparse.symm.trans hf
  have hholds : ∀ ds, Holds depth content ds ↔
      Record.readDefinitions v = .valid ds := by
    intro ds
    rw [holds_iff, Record.reads_definitions v ds]
    constructor
    · rintro ⟨cs', v', htext', hparse', hv⟩
      obtain rfl := Option.some.inj (htext.symm.trans htext')
      obtain rfl := Except.ok.inj (hparse.symm.trans hparse')
      exact hv
    · exact fun hv => ⟨cs, v, htext, hparse, hv⟩
  rw [readContent, htext]
  dsimp only
  rw [Record.decode, hparse, Record.ofParsed, Record.ofValue]
  cases hvalue : Record.readDefinitions v with
  | valid ds =>
    refine classified_ok hreadable fun ds' => ?_
    rw [hholds, hvalue, Record.Checked.valid.injEq]
  | invalid vs =>
    refine classified_error (fun ds h => ?_) (Fault.not_ofTool_document _)
      (iff_of_true (.document rfl) hreadable)
    rw [hholds, hvalue] at h
    cases h

end Text

/-- The outcome of reading a content is settled by it. -/
lemma classified_readContent (depth : ℕ) (content : List UInt8) :
    Classified depth (readContent depth content) True (· = content) := by
  cases htext : Host.textOf? content with
  | none =>
    have hread : ¬ Readable depth content := by
      rw [readable_iff, htext]
      rintro ⟨cs, hcs, -⟩
      exact nomatch hcs
    have hnone : ∀ ds, ¬ Holds depth content ds := by
      intro ds
      rw [holds_iff, htext]
      rintro ⟨cs, v, hcs, -⟩
      exact nomatch hcs
    rw [readContent, htext]
    exact classified_error hnone nofun (iff_of_false nofun hread)
  | some cs =>
    cases hparse : Json.parse depth (.ofChars cs) with
    | error f => exact classified_of_refused htext hparse
    | ok v => exact classified_of_parsed htext hparse

/-! ### Documents and programs -/

/-- What settles the outcome for a content settles it for the one content
there is to read. -/
lemma Classified.of_content (h : Classified depth r True (· = content))
    (hclear : clear) (hleaves : ∀ c, leaves c ↔ c = content) :
    Classified depth r clear leaves := by
  obtain rfl : (· = content) = leaves :=
    funext fun c => propext (hleaves c).symm
  obtain rfl : True = clear := (eq_true hclear).symm
  exact h

/-- A fault of the tool comes of having nothing to read. -/
lemma classified_tool {f : Fault} (hf : f.OfTool) (hclear : clear)
    (hleaves : ∀ c, ¬ leaves c) :
    Classified depth (.error f) clear leaves where
  returns ds := by simp [hleaves]
  tool := by simp [hf, hclear, hleaves]
  decoding := by
    have hdecoding : ¬ f.OfDecoding := by
      cases hf <;> exact nofun
    simp [hdecoding, hleaves]
  escapes := by simp [hf, hclear, hleaves]

/-- A fault that is neither the tool's nor one of decoding comes of what is
in the way. -/
lemma classified_of_not_clear {f : Fault} (hclear : ¬ clear)
    (htool : ¬ f.OfTool) (hdecoding : ¬ f.OfDecoding) :
    Classified depth (.error f) clear leaves := by
  constructor <;> simp [hclear, htool, hdecoding]

/-- The outcome of reading a document that was left before. -/
lemma classified_readDocument (h : Host) (line : List Text) (file : Path) :
    Classified h.nesting.read (readDocument h line file)
      (isNamable file.text) fun content => h.read file = .ok content := by
  rw [readDocument, isNamable]
  cases nameFlaw? file.text with
  | some flaw => exact classified_of_not_clear nofun nofun nofun
  | none =>
    dsimp only
    cases hread : h.read file with
    | error f => exact classified_tool (.unreadable line file f) rfl nofun
    | ok content =>
      exact (classified_readContent _ content).of_content rfl fun c => by
        rw [Except.ok.injEq, eq_comm]

/-- Nothing on a command line has a flaw if all of it can be names. -/
lemma findSome?_nameFlaw?_eq_none_iff {line : List Text} :
    line.findSome? nameFlaw? = none ↔ ∀ t ∈ line, isNamable t := by
  simp [isNamable]

/-- What comes of a program is undecodable unless it prints text. -/
lemma resultOf_of_not_printsText (h : Host) (command : Text)
    (line : List Text) {p : Program} (hp : ¬ PrintsText p) :
    resultOf h command line p = .error .undecodable := by
  rw [resultOf]
  split
  next houtput herrors =>
    exact absurd ⟨isText_iff.mpr ⟨_, houtput⟩, isText_iff.mpr ⟨_, herrors⟩⟩ hp
  · rfl

/-- The outcome of a program that prints text. -/
lemma classified_resultOf (h : Host) (command : Text) (line : List Text)
    {p : Program} (hp : PrintsText p) :
    Classified h.nesting.read (resultOf h command line p) True
      fun content => p.status = 0 ∧ p.document = some content := by
  obtain ⟨shown, hshown⟩ := isText_iff.mp hp.output
  obtain ⟨notes, hnotes⟩ := isText_iff.mp hp.errors
  rw [resultOf, hshown, hnotes]
  dsimp only
  split_ifs with hstatus
  · exact classified_tool (.failed _ _ _ _) trivial fun _ hc =>
      hstatus hc.1
  · have hzero : p.status = 0 := not_not.mp hstatus
    cases hdocument : p.document with
    | none =>
      exact classified_tool (.unreadable _ _ _) trivial fun _ hc =>
        nomatch hc.2
    | some content =>
      refine (classified_readContent _ content).of_content trivial
        fun c => ?_
      rw [Option.some.injEq, eq_comm (a := content)]
      exact and_iff_right hzero

/-- The outcome of running a program. -/
lemma classified_runWith (h : Host) (e : Config.Exporter) (folder : Path) :
    Classified h.nesting.read (runWith h e folder).result
      ((∀ t ∈ commandLine e folder h.scratch, isNamable t) ∧
        ∀ p, findProgram h e.command = .ok p → PrintsText p)
      fun content => ∃ p, findProgram h e.command = .ok p ∧ p.status = 0 ∧
        p.document = some content := by
  rw [runWith]
  cases hline : (commandLine e folder h.scratch).findSome? nameFlaw? with
  | some flaw =>
    refine classified_of_not_clear (fun hclear => ?_) nofun nofun
    exact nomatch hline.symm.trans
      (findSome?_nameFlaw?_eq_none_iff.mpr hclear.1)
  | none =>
    have hnamable := findSome?_nameFlaw?_eq_none_iff.mp hline
    dsimp only
    cases hfind : findProgram h e.command with
    | error f =>
      exact classified_tool (.notStarted _ _ f) ⟨hnamable, nofun⟩
        fun c ⟨p, hp, _⟩ => nomatch hp
    | ok p =>
      dsimp only
      by_cases hp : PrintsText p
      · have hclear : (∀ t ∈ commandLine e folder h.scratch, isNamable t) ∧
            ∀ q, (.ok p : Except Disk.Fault Program) = .ok q →
              PrintsText q :=
          ⟨hnamable, fun q hq => Except.ok.inj hq ▸ hp⟩
        rw [eq_true hclear]
        simpa using classified_resultOf h e.command _ hp
      · rw [resultOf_of_not_printsText h _ _ hp]
        exact classified_of_not_clear (fun hclear => hp (hclear.2 p rfl))
          nofun nofun

/-! ### Readable contents -/

/-- What the bytes of a text make of it is readable where the text breaks no
limit. -/
lemma readable_encodeUtf8_iff (text : List Char) :
    Readable depth (Text.encodeUtf8 text) ↔
      ¬ Json.BreaksLimit depth (.ofChars (Text.unifyNewlines text)) := by
  have htext : Host.textOf? (Text.encodeUtf8 text) =
      some (Text.unifyNewlines text) := textOf?_eq_some_iff.mpr ⟨text, rfl, rfl⟩
  rw [readable_iff, htext]
  simp

/-- Without carriage returns the head of a text is left as it is. -/
lemma unifyNewlines_append {cs : List Char} (h : ∀ c ∈ cs, c ≠ '\r')
    (rest : List Char) :
    Text.unifyNewlines (cs ++ rest) = cs ++ Text.unifyNewlines rest := by
  induction cs with
  | nil => rfl
  | cons c cs ih =>
    obtain ⟨hc, hcs⟩ := List.forall_mem_cons.mp h
    rw [List.cons_append, List.cons_append, ← ih hcs]
    exact Text.unifyNewlines.eq_4 c (cs ++ rest) (fun _ heq _ => hc heq) hc

/-- So is the head of the text that is read then. -/
lemma ofChars_unifyNewlines_append {cs : List Char}
    (h : ∀ c ∈ cs, c ≠ '\r') (rest : List Char) :
    Text.ofChars (Text.unifyNewlines (cs ++ rest)) =
      .ofList (cs.map .char ++ (Text.unifyNewlines rest).map .char) := by
  rw [unifyNewlines_append h, Text.ofChars, List.map_append]

/-- A number ends before a line end, however it is written. -/
lemma endsNumber_unifyNewlines {rest : List Char}
    (h : Json.EndsNumber (rest.map .char)) :
    Json.EndsNumber ((Text.unifyNewlines rest).map .char) := by
  have hfeed : ∀ cs : List Char,
      Json.EndsNumber (('\n' :: cs).map .char) := fun cs c hc =>
    Option.some.inj hc ▸ rfl
  unfold Text.unifyNewlines
  split
  · exact Json.endsNumber_nil
  · exact hfeed _
  · exact hfeed _
  · exact h

/-- **Reading an export fails as announced, unless something cannot be
read.** Let a document be read that was left before, or one that a program
leaves which is run, whatever it prints and whichever status it ends with. If
the document is there and holds definitions, these are returned. If it cannot
be had, a fault of the tool says so. If it is there, readable, and holds no
definitions, a fault of decoding says so. Any other fault comes of a document
that is not readable, of bytes that are no text among those that the program
prints, or of a name that nothing can have; and each of these comes out as
one, also where the document holds definitions. Not readable are contents that
are the bytes of no text, and texts that break a limit: none does that has no
more opening brackets than may be nested and few digits in a row, but each
that begins with more brackets does, and each that begins with too long a
number. -/
theorem classified_export (h : Host) :
    (∀ line file, Classified h.nesting.read (readDocument h line file)
      (isNamable file.text) fun content => h.read file = .ok content) ∧
    (∀ e folder, Classified h.nesting.read (runWith h e folder).result
      ((∀ t ∈ commandLine e folder h.scratch, isNamable t) ∧
        ∀ p, findProgram h e.command = .ok p → PrintsText p)
      fun content => ∃ p, findProgram h e.command = .ok p ∧ p.status = 0 ∧
        p.document = some content) ∧
    (∀ text,
      Json.KeepsLimits h.nesting.read (.ofChars (Text.unifyNewlines text)) →
      Readable h.nesting.read (Text.encodeUtf8 text)) ∧
    (∀ n rest, h.nesting.read < n → ¬ Readable h.nesting.read
      (Text.encodeUtf8 (List.replicate n '[' ++ rest))) ∧
    ∀ whole rest, Json.IsWholePart whole →
      Number.digitLimit < whole.length → Json.EndsNumber (rest.map .char) →
      ¬ Readable h.nesting.read (Text.encodeUtf8 (whole ++ rest)) := by
  refine ⟨classified_readDocument h, classified_runWith h, fun text htext => ?_,
    fun n rest hn => ?_, fun whole rest hwhole hn hrest => ?_⟩
  · exact (readable_encodeUtf8_iff text).mpr htext.not_breaksLimit
  · have hreturn : ∀ c ∈ List.replicate n '[', c ≠ '\r' := by
      intro c hc
      rw [List.eq_of_mem_replicate hc]
      decide
    rw [readable_encodeUtf8_iff, not_not,
      ofChars_unifyNewlines_append hreturn, List.map_replicate]
    exact Json.breaksLimit_of_brackets hn _
  · have hreturn : ∀ c ∈ whole, c ≠ '\r' :=
      fun c hc => Json.ne_of_isDigit (hwhole.isDigit c hc) (by decide)
    rw [readable_encodeUtf8_iff, not_not, ofChars_unifyNewlines_append hreturn]
    exact Json.breaksLimit_of_digits hwhole hn (endsNumber_unifyNewlines hrest)

/-! ### A content that is no text -/

/-- The name of a document at the top of the disk. -/
def documentName : Path := ⟨.relative, ["doc.json"]⟩

/-- A host with such a document. -/
def hostLeaving (content : List UInt8) : Host where
  disk := ⟨[(["doc.json"], .file content)]⟩
  current := []
  homes := []
  configFolder := ⟨.single, ["etc"]⟩
  programFolders := []
  scratch := ⟨.single, ["tmp"]⟩
  environment := []
  nesting := ⟨100, 100, 100⟩

/-- Its content is read. -/
lemma read_hostLeaving (content : List UInt8) :
    (hostLeaving content).read documentName = .ok content := by
  have hpath : Disk.isLonger Disk.pathLimit documentName.text = false := by
    decide +kernel
  have hname : Disk.isLonger Disk.nameLimit "doc.json" = false := by
    decide +kernel
  have hlocate : (hostLeaving content).disk.locate
      (hostLeaving content).current documentName = .ok ["doc.json"] := by
    have hstep : Text.ofString "doc.json" ≠ stayStep := by decide
    rw [Disk.locate, hpath]
    simp [Disk.walk, hname, hstep, hostLeaving, documentName, Path.start,
      Path.isAbsolute, Disk.find?]
  rw [Host.read, Disk.read, hlocate]
  rfl

/-- A byte that begins no character is no fault of the tool, and none of
decoding: it comes out as a fault of its own. -/
theorem undecodable_garbledHost :
    ∃ f, readDocument (hostLeaving [0xFF]) [] documentName = .error f ∧
      ¬ f.OfTool ∧ ¬ f.OfDecoding := by
  have hname : nameFlaw? documentName.text = none := by decide +kernel
  have htext : Host.textOf? [0xFF] = none := by decide +kernel
  refine ⟨.undecodable, ?_, nofun, nofun⟩
  rw [readDocument, hname, read_hostLeaving]
  dsimp only
  rw [readContent, htext]

end ApiBook.Export
