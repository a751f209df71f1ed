import SuppressionAudit.Proofs.Directive.Seams
import SuppressionAudit.Proofs.Directive.WrittenLineComments
import SuppressionAudit.Proofs.Text.DamagedBytes
import SuppressionAudit.Scan

/-!
# Files that are not UTF-8

A line that was written is read as it was written, whatever bytes stand above and below it, and so a directive
on it is found. Its line number counts the line breaks above it in the bytes.
-/

namespace SuppressionAudit

/-! ### Names of printable characters -/

/-- A rule name of printable ASCII characters that a rule list can hold. -/
structure RuleList.IsPlainName (name : Text) : Prop where
  ne_nil : name ≠ []
  printable : ∀ c ∈ name, 0x21 ≤ c.toNat ∧ c.toNat ≤ 0x7E
  comma_notMem : ',' ∉ name
  no_separator : ¬ ['-', '-'] <:+: name

namespace RuleList.IsPlainName

variable {name : Text}

theorem isBlank_eq_false (h : IsPlainName name) {c : Char} (hc : c ∈ name) : isBlank c = false := by
  obtain ⟨hlow, hhigh⟩ := h.printable c hc
  simp [isBlank]
  omega

theorem isRuleName (h : IsPlainName name) : IsRuleName name := by
  refine ⟨h.ne_nil, ?_, h.comma_notMem, h.no_separator⟩
  refine Text.isCore_iff.1 ⟨⟨[], [], by simp, by simp⟩, fun c hc => ?_, fun c hc => ?_⟩
  · exact h.isBlank_eq_false (List.mem_of_head? hc)
  · exact h.isBlank_eq_false (List.mem_of_getLast? hc)

theorem notMem_of_small (h : IsPlainName name) {c : Char} (hc : c.toNat < 0x21) : c ∉ name := by
  intro hmem
  have hlow := (h.printable c hmem).1
  omega

end RuleList.IsPlainName

/-! ### Lines in damaged bytes -/

/-- A line that was written is a line of what is read. Above it there are as many lines as the bytes have line
breaks. -/
theorem Utf8.exists_front_of_line {line : Text} (hreturn : '\r' ∉ line) (pre post : List UInt8) :
    ∃ front, Text.unifyLineBreaks (decodeLossy (pre ++ [10] ++ encode line ++ [10] ++ post))
        = front ++ '\n' :: (line ++ '\n' :: Text.unifyLineBreaks (decodeLossy post)) ∧
      front.count '\n' + 1 = lineBreaks (pre ++ [10]) := by
  have hdecoded : decodeLossy (pre ++ [10] ++ encode line ++ [10] ++ post)
      = decodeLossy pre ++ '\n' :: (line ++ '\n' :: decodeLossy post) := by
    have hnewline : (10 : UInt8).toNat < 0x80 := by decide
    have hpost : decodeLossy (10 :: post) = '\n' :: decodeLossy post :=
      decodeLossy_append_ascii hnewline [] post
    simp only [List.append_assoc, List.cons_append, List.nil_append]
    rw [decodeLossy_append_ascii hnewline, decodeLossy_encode_append, hpost]
    rfl
  obtain ⟨front, hfront⟩ := Text.exists_unifyAfter_newline false (decodeLossy pre) (.inr rfl)
  have hline : Text.unifyAfter false (line ++ ['\n']) = line ++ ['\n'] :=
    Text.unifyLineBreaks_of_not_mem (by simp [hreturn])
  refine ⟨front, ?_, ?_⟩
  · rw [hdecoded, Text.unifyLineBreaks, Text.unifyAfter_append_newline, hfront, Text.unifyAfter_append_newline, hline]
    simp [Text.unifyLineBreaks]
  · have habove : decodeLossy (pre ++ [10]) = decodeLossy pre ++ ['\n'] :=
      decodeLossy_append_ascii (by decide) pre []
    rw [← count_unifyLineBreaks_decodeLossy, habove, Text.unifyLineBreaks, hfront, List.count_append]
    rfl

/-! ### Directives in damaged bytes -/

theorem LineComment.mem_suppressions_of_line {line : Text} (hline : '\n' ∉ line) {s : Suppression}
    (h : s ∈ suppressionsOn 1 line) (front back : Text) :
    s.down (front.count '\n' + 1) ∈ suppressions (front ++ '\n' :: (line ++ '\n' :: back)) := by
  have hone : suppressions line = suppressionsOn 1 line := by
    rw [suppressions, Text.lines, Text.splitOn_of_notMem hline]
    exact List.append_nil _
  rw [suppressions_append_newline, suppressions_append_newline, hone]
  exact List.mem_append_right _ (List.mem_map_of_mem (List.mem_append_left _ h))

/-- A directive on a line of its own is found whatever bytes stand above and below it, at the column where the name
of its rule starts, and on the line behind the line breaks above it. -/
theorem directive_found_among_damaged_bytes (pre post : List UInt8) (rule : Text) (h : RuleList.IsPlainName rule) :
    let bytes := pre ++ [10] ++ Utf8.encode ("// eslint-disable-line ".toList ++ rule) ++ [10] ++ post
    let found : Suppression :=
      ⟨rule, ⟨1 + Utf8.lineBreaks (pre ++ [10]), "// eslint-disable-line ".toList.length + 1⟩, none, .line⟩
    found ∈ extractSuppressions (Text.unifyLineBreaks (Utf8.decodeLossy bytes)) ∧
    ∀ (project : Project) (parts : List Text), Path.hasNul parts = false → project.read parts = .ok bytes →
      ∃ content, Scan.readSource project parts = .ok content ∧ found ∈ extractSuppressions content := by
  intro bytes found
  have hline : "// eslint-disable-line ".toList ++ rule = lineDirective "-line".toList [rule] none :=
    congrArg ("// eslint-disable-line ".toList ++ ·) (List.append_nil rule).symm
  have hnotMem : ∀ c, c.toNat < 0x20 → c ∉ "// eslint-disable-line ".toList ++ rule := by
    intro c hc
    rw [List.mem_append, not_or]
    refine ⟨fun hmem => ?_, h.notMem_of_small (by omega)⟩
    have hall : ∀ d ∈ "// eslint-disable-line ".toList, 0x20 ≤ d.toNat := by simp
    exact absurd (hall c hmem) (by omega)
  have hfound : found ∈ extractSuppressions (Text.unifyLineBreaks (Utf8.decodeLossy bytes)) := by
    obtain ⟨front, hcontent, hcount⟩ := Utf8.exists_front_of_line (hnotMem '\r' (by decide)) pre post
    have hone : (⟨rule, ⟨1, "// eslint-disable-line ".toList.length + 1⟩, none, .line⟩ : Suppression)
        ∈ LineComment.suppressionsOn 1 ([] ++ lineDirective "-line".toList [rule] none) := by
      have hnames : [rule] = [] ++ rule :: [] := rfl
      exact LineComment.mem_suppressionsOn (by decide) (by decide) (by simpa using h.isRuleName) (by simp) hnames 1
    rw [List.nil_append, ← hline] at hone
    have hdown := LineComment.mem_suppressions_of_line (hnotMem '\n' (by decide)) hone front
      (Text.unifyLineBreaks (Utf8.decodeLossy post))
    rw [← hcontent, hcount] at hdown
    exact mem_extractSuppressions.2 (.inr (.inr hdown))
  refine ⟨hfound, fun project parts hnul hread => ⟨_, ?_, hfound⟩⟩
  simp [Scan.readSource, hnul, hread]

/-- Two of the three bytes of a character, a carriage return that the newline belongs to, and a byte that no
character has. -/
def damagedBytes : List UInt8 :=
  [0xE2, 0x82, 13, 10] ++ Utf8.encode "// eslint-disable-line semi".toList ++ [10, 0xFF]

def damagedProject : Project := ⟨⟨['/'], []⟩, ⟨.directory none none [("a.js".toList, .file (.ok damagedBytes))]⟩⟩

theorem directive_found_in_damagedProject :
    RuleList.IsPlainName "semi".toList ∧ damagedProject.read ["a.js".toList] = .ok damagedBytes ∧
    ∃ content, Scan.readSource damagedProject ["a.js".toList] = .ok content ∧
      ⟨"semi".toList, ⟨2, 24⟩, none, .line⟩ ∈ extractSuppressions content := by
  have hname : RuleList.IsPlainName "semi".toList := ⟨by decide, by simp, by decide, by decide⟩
  have hread : damagedProject.read ["a.js".toList] = .ok damagedBytes := by decide +kernel
  have hrow : 1 + Utf8.lineBreaks ([0xE2, 0x82, 13] ++ [10]) = 2 := by decide
  obtain ⟨-, hfiles⟩ := directive_found_among_damaged_bytes [0xE2, 0x82, 13] [0xFF] "semi".toList hname
  rw [hrow] at hfiles
  exact ⟨hname, hread, hfiles damagedProject _ (by decide) hread⟩

end SuppressionAudit
