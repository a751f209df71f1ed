import SuppressionAudit.Proofs.Allowlist.Records
import SuppressionAudit.Proofs.Json.Nesting
import SuppressionAudit.Proofs.Text.StrictUtf8

/-!
# Loading allowlists

What is at the place of an allowlist decides what is loaded: nothing, a file that holds an allowlist as a
whole, or a file that holds none and is passed over with a warning. There is no way in which a part of a file
would be in force. Only a path that the system refuses ends otherwise, be it too long or in a directory that
refuses lookups.
-/

namespace SuppressionAudit

/-! ### Files on a disk -/

theorem Disk.look_eq_error_iff {disk : Disk} {parts : List Text} {fault : Fault} :
    disk.look parts = .error fault ↔ disk.resolve parts = .error fault ∧ fault.isAbsence = false := by
  unfold look
  cases disk.resolve parts with
  | ok real => simp
  | error refusal =>
    cases hfault : refusal.isAbsence with
    | true =>
      simp only [hfault, if_true, reduceCtorEq, Except.error.injEq, false_iff]
      rintro ⟨rfl, hpresent⟩
      exact absurd (hfault.symm.trans hpresent) (by decide)
    | false =>
      simp only [hfault, Bool.false_eq_true, if_false, Except.error.injEq]
      constructor
      · rintro rfl
        exact ⟨rfl, hfault⟩
      · exact And.left

theorem Disk.read_of_look {disk : Disk} {parts : List Text} {content : Except Fault (List UInt8)}
    (h : disk.look parts = .ok (some (.file content))) : disk.read parts = content := by
  unfold look at h
  unfold read
  cases hplace : disk.resolve parts with
  | error fault =>
    rw [hplace] at h
    cases hfault : fault.isAbsence <;> simp [hfault] at h
  | ok real =>
    rw [hplace] at h
    simp only [Except.ok.inj h]

namespace Allowlist

/-! ### What is at the place of an allowlist -/

def placeOf (project : Project) (name : Text) : List Text := (project.root.join (Path.ofText name)).parts

/-- Nothing is there, or something that is no file. -/
def NoFileAt (project : Project) (name : Text) : Prop :=
  Path.hasNul (placeOf project name) = true ∨
    ∃ item, project.disk.look (placeOf project name) = .ok item ∧ Disk.isFile item = false

/-- A file is there, which gives its bytes or refuses to be read. -/
def FileAt (project : Project) (name : Text) (content : Except Fault (List UInt8)) : Prop :=
  Path.hasNul (placeOf project name) = false ∧
    project.disk.look (placeOf project name) = .ok (some (.file content))

/-- The system refuses the path, for another reason than that nothing lies there. -/
def BarredAt (project : Project) (name : Text) (fault : Fault) : Prop :=
  Path.hasNul (placeOf project name) = false ∧ project.disk.resolve (placeOf project name) = .error fault ∧
    fault.isAbsence = false

/-- A file that can be read holds, in UTF-8 and with any line breaks, a document of an object that describes
the allowlist of these rules and patterns. -/
def Holds (content : Except Fault (List UInt8)) (rules paths : List Text) : Prop :=
  ∃ text fields, content = .ok (Utf8.encode text) ∧ Json.Document (Text.unifyLineBreaks text) (.obj fields) ∧
    Describes fields rules paths

/-- A file is nested no deeper than the reader reads. -/
def Shallow (limit : Nat) (content : Except Fault (List UInt8)) : Prop :=
  ∀ text, content = .ok (Utf8.encode text) → Json.nesting (Text.unifyLineBreaks text) ≤ limit

variable {project : Project} {name path : Text} {content : Except Fault (List UInt8)} {rules paths : List Text}
  {limit : Nat}

theorem document_encode (limit : Nat) (text : Text) :
    document limit (Utf8.encode text) = Json.read (Text.unifyLineBreaks text) limit := by
  rw [document, Utf8.decode?_eq_some_iff.2 rfl]

theorem ofContent_of_holds (hshallow : Shallow limit content) (h : Holds content rules paths) :
    ofContent limit path content
      = .ok (⟨distinct rules, paths⟩, .allowlistLoaded path (distinct rules).length paths.length) := by
  obtain ⟨text, fields, rfl, hdocument, hdescribes⟩ := h
  have hdepth : (Json.obj fields).depth ≤ limit := by
    rw [← Json.nesting_of_document hdocument]
    exact hshallow text rfl
  have hrecord : ofJson (.obj fields) = .ok ⟨distinct rules, paths⟩ :=
    ofJson_eq_ok_iff.2 ⟨rules, paths, hdescribes, rfl⟩
  simp only [ofContent, document_encode, Json.read_eq_ok_iff.2 ⟨hdocument, hdepth⟩, ofDocument, hrecord]

theorem ofContent_of_not_holds (path : Text) (hshallow : Shallow limit content)
    (h : ∀ rules paths, ¬ Holds content rules paths) :
    ∃ notice, ofContent limit path content = .ok (empty, notice) ∧ notice.level = .warning := by
  cases content with
  | error fault => exact ⟨_, rfl, rfl⟩
  | ok bytes =>
    cases hbytes : Utf8.decode? bytes with
    | none => exact ⟨.allowlistUnreadable path, by simp only [ofContent, document, hbytes], rfl⟩
    | some text =>
      obtain rfl := Utf8.decode?_eq_some_iff.1 hbytes
      cases hread : Json.read (Text.unifyLineBreaks text) limit with
      | error fault =>
        cases fault with
        | malformed => exact ⟨.allowlistUnreadable path, by simp only [ofContent, document_encode, hread], rfl⟩
        | tooDeep => exact absurd (hshallow text rfl) (Nat.not_le.2 (Json.nesting_of_tooDeep hread))
      | ok record =>
        refine ⟨(ofDocument path record).2, ?_⟩
        simp only [ofContent, document_encode, hread]
        cases record with
        | obj fields =>
          cases hrecord : ofJson (.obj fields) with
          | error problems => simp [ofDocument, hrecord, Notice.level]
          | ok allowlist =>
            obtain ⟨rules, paths, hdescribes, -⟩ := ofJson_eq_ok_iff.1 hrecord
            exact absurd ⟨text, fields, rfl, (Json.read_eq_ok_iff.1 hread).1, hdescribes⟩ (h rules paths)
        | null => exact ⟨rfl, rfl⟩
        | bool b => exact ⟨rfl, rfl⟩
        | int n => exact ⟨rfl, rfl⟩
        | real r => exact ⟨rfl, rfl⟩
        | str text => exact ⟨rfl, rfl⟩
        | arr items => exact ⟨rfl, rfl⟩

/-! ### Loading -/

theorem load_of_noFile (h : NoFileAt project name) : load project name limit = .ok (empty, []) := by
  unfold load
  dsimp only
  split
  · rfl
  · next hnul =>
    rcases h with hnul' | ⟨item, hlook, hfile⟩
    · exact absurd hnul' hnul
    · have hlook : project.disk.look (project.root.join (Path.ofText name)).parts = .ok item := hlook
      simp [hlook, hfile]

theorem load_of_file (h : FileAt project name content) : load project name limit
    = (ofContent limit (project.root.join (Path.ofText name)).toText content).map
        fun loaded => (loaded.1, [loaded.2]) := by
  obtain ⟨hnul, hlook⟩ := h
  have hread := Disk.read_of_look hlook
  unfold placeOf at hnul hlook hread
  simp [load, hnul, hlook, hread, Disk.isFile]

theorem load_of_barred {fault : Fault} (h : BarredAt project name fault) :
    load project name limit = .error (.pathRefused fault) := by
  obtain ⟨hnul, hrefused⟩ := h
  have hlook := Disk.look_eq_error_iff.2 hrefused
  unfold placeOf at hnul hlook
  simp [load, hnul, hlook]

theorem place_cases (project : Project) (name : Text) :
    NoFileAt project name ∨ (∃ content, FileAt project name content) ∨ ∃ fault, BarredAt project name fault := by
  cases hnul : Path.hasNul (placeOf project name) with
  | true => exact .inl (.inl hnul)
  | false =>
    cases hlook : project.disk.look (placeOf project name) with
    | error fault => exact .inr (.inr ⟨fault, hnul, Disk.look_eq_error_iff.1 hlook⟩)
    | ok item =>
      cases item with
      | none => exact .inl (.inr ⟨none, hlook, rfl⟩)
      | some found =>
        cases found with
        | file content => exact .inr (.inl ⟨content, hnul, hlook⟩)
        | directory listing lookups entries => exact .inl (.inr ⟨_, hlook, rfl⟩)
        | link target => exact .inl (.inr ⟨_, hlook, rfl⟩)

end Allowlist

open Allowlist

/-- Whatever is at the place of an allowlist: without a file there, the empty allowlist is loaded without a
word. A file that holds an allowlist gives its rules and its patterns, and no warning. Any other file gives the
empty allowlist and one warning. Only a path that the system refuses is an error. -/
theorem allowlist_all_or_nothing (project : Project) (name : Text) (limit : Nat) :
    (NoFileAt project name ∨ (∃ content, FileAt project name content) ∨ ∃ fault, BarredAt project name fault) ∧
    (NoFileAt project name → Allowlist.load project name limit = .ok (Allowlist.empty, [])) ∧
    (∀ content, FileAt project name content → Shallow limit content →
      (∀ rules paths, Holds content rules paths → ∃ allowlist notice,
        Allowlist.load project name limit = .ok (allowlist, [notice]) ∧ notice.level ≠ .warning ∧
          (∀ rule, rule ∈ allowlist.exemptRules ↔ rule ∈ rules) ∧ allowlist.exemptRules.Nodup ∧
          allowlist.exemptPaths = paths) ∧
      ((∀ rules paths, ¬ Holds content rules paths) → ∃ notice,
        Allowlist.load project name limit = .ok (Allowlist.empty, [notice]) ∧ notice.level = .warning)) ∧
    (∀ fault, BarredAt project name fault → Allowlist.load project name limit = .error (.pathRefused fault)) := by
  refine ⟨place_cases project name, load_of_noFile, ?_, fun fault hbarred => load_of_barred hbarred⟩
  intro content hfile hshallow
  rw [load_of_file hfile]
  constructor
  · intro rules paths hholds
    rw [ofContent_of_holds hshallow hholds]
    exact ⟨_, _, rfl, by simp [Notice.level], fun rule => mem_distinct, nodup_distinct rules, rfl⟩
  · intro hnone
    obtain ⟨notice, hloaded, hwarning⟩ := ofContent_of_not_holds _ hshallow hnone
    rw [hloaded]
    exact ⟨notice, rfl, hwarning⟩

/-- A document with the long name of one field, the other one twice, and two kinds of line breaks. -/
def listedText : Text :=
  "\x7b\"paths\": [\"a\"],\r\n\"exempt_rules\": [\"x\", \"x\"],\n\"paths\": [\"b/**\", \"\\u00e9\"]\x7d".toList

def listedFields : List (Text × Json) :=
  [("paths".toList, .arr [.str "a".toList]), ("exempt_rules".toList, .arr [.str "x".toList, .str "x".toList]),
    ("paths".toList, .arr [.str "b/**".toList, .str "é".toList])]

def listedProject : Project :=
  ⟨⟨['/'], []⟩, ⟨.directory none none [(Allowlist.defaultName, .file (.ok (Utf8.encode listedText)))]⟩⟩

theorem listedText_read : Json.read (Text.unifyLineBreaks listedText) = .ok (.obj listedFields) := by
  decide +kernel

theorem allowlist_all_or_nothing_listed :
    FileAt listedProject Allowlist.defaultName (.ok (Utf8.encode listedText)) ∧
    Shallow Json.nestingLimit (.ok (Utf8.encode listedText)) ∧
    Holds (.ok (Utf8.encode listedText)) ["x".toList, "x".toList] ["b/**".toList, "é".toList] ∧
    ∃ allowlist notice, Allowlist.load listedProject Allowlist.defaultName = .ok (allowlist, [notice]) ∧
      notice.level ≠ .warning ∧ (∀ rule, rule ∈ allowlist.exemptRules ↔ rule ∈ ["x".toList, "x".toList]) ∧
      allowlist.exemptRules.Nodup ∧ allowlist.exemptPaths = ["b/**".toList, "é".toList] := by
  have hfile : FileAt listedProject Allowlist.defaultName (.ok (Utf8.encode listedText)) := by
    exact ⟨by decide +kernel, rfl⟩
  have hshallow : Shallow Json.nestingLimit (.ok (Utf8.encode listedText)) := by
    intro text htext
    obtain rfl := Utf8.encode_injective (Except.ok.inj htext)
    decide +kernel
  have hdescribes : Describes listedFields ["x".toList, "x".toList] ["b/**".toList, "é".toList] := by
    refine ⟨.texts (hasField_iff.2 ?_), .texts (hasField_iff.2 ?_)⟩
    · rfl
    · rfl
  have hholds : Holds (.ok (Utf8.encode listedText)) ["x".toList, "x".toList] ["b/**".toList, "é".toList] :=
    ⟨listedText, listedFields, rfl, (Json.read_eq_ok_iff.1 listedText_read).1, hdescribes⟩
  obtain ⟨-, -, hcontent, -⟩ :=
    allowlist_all_or_nothing listedProject Allowlist.defaultName Json.nestingLimit
  exact ⟨hfile, hshallow, hholds, (hcontent _ hfile hshallow).1 _ _ hholds⟩

/-! ### A link that the system refuses to follow -/

/-- A directory in which the allowlist is a link, beside a directory that refuses to be listed and to be
looked up in. -/
def linkedProject (target : Text) : Project :=
  ⟨⟨['/'], []⟩, ⟨.directory none none [(Allowlist.defaultName, .link target), ("shut".toList,
    .directory (some .permissionDenied) (some .permissionDenied) [("a".toList, .file (.ok []))])]⟩⟩

/-- No file can be told at the place of the allowlist, and all the same none is loaded, not even the empty
one. -/
def NothingLoads (project : Project) : Prop :=
  (∀ content, ¬ FileAt project Allowlist.defaultName content) ∧
    ∀ loaded, Allowlist.load project Allowlist.defaultName ≠ .ok loaded

theorem nothingLoads_of_barred {project : Project} {fault : Fault}
    (h : BarredAt project Allowlist.defaultName fault) : NothingLoads project := by
  constructor
  · rintro content ⟨-, hlook⟩
    rw [Disk.look_eq_error_iff.2 h.2] at hlook
    simp at hlook
  · intro loaded
    rw [load_of_barred h]
    simp

set_option maxRecDepth 8000 in
/-- The link leads to a name that is too long, or into the directory that refuses lookups. -/
theorem refused_link_fails_loading :
    NothingLoads (linkedProject (List.replicate 256 'x')) ∧ NothingLoads (linkedProject "shut/a".toList) := by
  have hlong : BarredAt (linkedProject (List.replicate 256 'x')) Allowlist.defaultName .nameTooLong :=
    ⟨by decide +kernel, by decide +kernel, rfl⟩
  have hshut : BarredAt (linkedProject "shut/a".toList) Allowlist.defaultName .permissionDenied :=
    ⟨by decide +kernel, by decide +kernel, rfl⟩
  exact ⟨nothingLoads_of_barred hlong, nothingLoads_of_barred hshut⟩

end SuppressionAudit
