import SuppressionAudit.Allowlist
import SuppressionAudit.Proofs.Glob.Groups
import SuppressionAudit.Proofs.Glob.Literals

/-!
# Directory patterns

The text of a directory with a slash behind it, or with a slash and two asterisks, is a pattern for the
directory and for all that is below it. The pattern is the segments of the text and a group, and a path
begins with these segments exactly when it is the text or begins with the text and a slash.
-/

namespace SuppressionAudit

/-- A text begins with the pieces of another one where it is that text or goes on behind it with a
separator. -/
theorem Text.splitOn_prefix_iff {sep : Char} {s t : Text} :
    splitOn sep s <+: splitOn sep t ↔ t = s ∨ s ++ [sep] <+: t := by
  constructor
  · rintro ⟨rest, hrest⟩
    by_cases hnil : rest = []
    · left
      rw [hnil, List.append_nil] at hrest
      rw [← joinWith_splitOn sep t, ← hrest, joinWith_splitOn]
    · right
      -- what is left is the pieces of a text too
      have hpieces : splitOn sep (joinWith [sep] rest) = rest := by
        refine splitOn_joinWith hnil fun piece hpiece => notMem_of_mem_splitOn (s := t) ?_
        rw [← hrest]
        exact List.mem_append_right _ hpiece
      refine ⟨joinWith [sep] rest, ?_⟩
      calc s ++ [sep] ++ joinWith [sep] rest
          = s ++ sep :: joinWith [sep] rest := by rw [List.append_assoc, List.singleton_append]
        _ = joinWith [sep] (splitOn sep (s ++ sep :: joinWith [sep] rest)) := (joinWith_splitOn sep _).symm
        _ = joinWith [sep] (splitOn sep t) := by rw [splitOn_append, hpieces, hrest]
        _ = t := joinWith_splitOn sep t
  · rintro (rfl | ⟨rest, rfl⟩)
    · exact List.prefix_rfl
    · rw [List.append_assoc, List.singleton_append, splitOn_append]
      exact List.prefix_append _ _

namespace Glob

/-- A text that names a directory in a pattern: it is not blank and does not begin with a blank, nothing in
it stands for anything but itself, and it is not the dot that leads nowhere or a path behind one. -/
structure NamesDirectory (directory : Text) : Prop where
  not_blank : Text.trim directory ≠ []
  first : ∀ c, directory.head? = some c → isBlank c = false
  literal : IsLiteral directory
  not_here : ¬ ['.', '/'] <+: directory ++ ['/']

variable {directory path : Text}

theorem NamesDirectory.ne_nil (h : NamesDirectory directory) : directory ≠ [] := by
  rintro rfl
  exact h.not_blank rfl

/-- What stands behind the text of a directory is trimmed away only if it ends in a blank. -/
theorem NamesDirectory.isCore_append (h : NamesDirectory directory) {ending : Text}
    (hlast : ∃ c, ending.getLast? = some c ∧ isBlank c = false) :
    IsCore (directory ++ ending) (directory ++ ending) := by
  obtain ⟨last, hlast, hblank⟩ := hlast
  refine ⟨⟨[], [], by simp, by simp⟩, fun c hc => h.first c ?_, fun c hc => ?_⟩
  · rwa [List.head?_append_of_ne_nil _ h.ne_nil] at hc
  · rw [List.getLast?_append, hlast] at hc
    obtain rfl : last = c := Option.some.inj hc
    exact hblank

/-- Both patterns of a directory stand for the same text. -/
theorem NamesDirectory.stands (h : NamesDirectory directory) :
    ∀ glob ∈ [directory ++ ['/'], directory ++ ['/', '*', '*']], Stands glob (directory ++ '/' :: anyGroup) := by
  have hne : ∀ ending : Text, directory ++ ending ≠ [] := fun ending => by simp [h.ne_nil]
  intro glob hglob
  rcases List.mem_pair.1 hglob with rfl | rfl
  · refine ⟨_, _, h.isCore_append ⟨'/', rfl, by decide⟩, hne _, .inr ⟨h.not_here, rfl⟩, .inl ⟨?_, ?_⟩⟩
    · exact List.suffix_append _ _
    · rw [List.append_assoc]
      rfl
  · refine ⟨_, _, h.isCore_append ⟨'*', rfl, by decide⟩, hne _, .inr ⟨fun hhere => ?_, rfl⟩, .inr ⟨?_, rfl⟩⟩
    · -- two characters are not more than the directory has with its slash
      have hfront : directory ++ ['/'] <+: directory ++ ['/', '*', '*'] := ⟨['*', '*'], by simp⟩
      have hlength : 1 ≤ directory.length := List.length_pos_iff.2 h.ne_nil
      refine h.not_here (List.prefix_of_prefix_length_le hhere hfront ?_)
      simp only [List.length_append, List.length_cons, List.length_nil]
      omega
    · rintro ⟨front, hfront⟩
      have hlast := congrArg List.getLast? hfront
      simp at hlast

theorem NamesDirectory.segments?_eq (h : NamesDirectory directory) :
    ∀ glob ∈ [directory ++ ['/'], directory ++ ['/', '*', '*']],
      segments? glob = some (segmentsOf directory ++ [anyGroup]) := by
  intro glob hglob
  refine segments?_eq_some_iff.2 ⟨_, h.stands glob hglob, ?_⟩
  rw [segmentsOf, ← Text.splitOn_eq, Text.splitOn_append]
  rfl

theorem isLiteral_of_mem_segmentsOf (h : IsLiteral directory) {segment : Text}
    (hsegment : segment ∈ segmentsOf directory) : IsLiteral segment := by
  have hwithin : segment <:+: directory := by
    rw [← Text.joinWith_splitOn '/' directory]
    exact Text.infix_joinWith hsegment
  exact fun c hc => h c (hwithin.subset hc)

/-- A directory pattern matches the directory and what is below it, at any depth, and nothing else: no
directory whose name only begins alike, and none of the same name further down. -/
theorem directory_pattern_matches_subtree (directory path : Text) (h : NamesDirectory directory) :
    ∀ glob ∈ [directory ++ ['/'], directory ++ ['/', '*', '*']],
      (accepts glob path = true ↔ path = directory ∨ directory ++ ['/'] <+: path) ∧
      ∀ rules, Allowlist.exemptsPath ⟨rules, [glob]⟩ path = true ↔ path = directory ∨ directory ++ ['/'] <+: path := by
  intro glob hglob
  have haccepts : accepts glob path = true ↔ path = directory ∨ directory ++ ['/'] <+: path := by
    rw [accepts_iff, takes_below_iff (h.segments?_eq glob hglob) fun _ => isLiteral_of_mem_segmentsOf h.literal]
    exact Text.splitOn_prefix_iff
  refine ⟨haccepts, fun rules => ?_⟩
  rw [← haccepts]
  simp [Allowlist.exemptsPath, anyAccepts]

theorem directory_pattern_matches_subtree_of_scripts :
    NamesDirectory "scripts".toList ∧
    accepts "scripts/".toList "scripts/lib/deep/a.js".toList = true ∧
    accepts "scripts/**".toList "scripts/a.js".toList = true ∧
    Allowlist.exemptsPath ⟨[], ["scripts/".toList]⟩ "scripts2/a.js".toList = false ∧
    Allowlist.exemptsPath ⟨[], ["scripts/**".toList]⟩ "lib/scripts/a.js".toList = false := by
  have hscripts : NamesDirectory "scripts".toList := by
    refine ⟨by decide, ?_, by decide, by decide⟩
    rintro c ⟨⟩
    decide
  have hmatches := fun path => directory_pattern_matches_subtree "scripts".toList path hscripts
  have hslash : "scripts/".toList ∈ ["scripts".toList ++ ['/'], "scripts".toList ++ ['/', '*', '*']] := by decide
  have hgroup : "scripts/**".toList ∈ ["scripts".toList ++ ['/'], "scripts".toList ++ ['/', '*', '*']] := by decide
  refine ⟨hscripts, ?_, ?_, ?_, ?_⟩
  · exact (hmatches _ _ hslash).1.2 (by decide)
  · exact (hmatches _ _ hgroup).1.2 (by decide)
  · rw [← Bool.not_eq_true, (hmatches _ _ hslash).2]
    decide
  · rw [← Bool.not_eq_true, (hmatches _ _ hgroup).2]
    decide

end Glob

end SuppressionAudit
