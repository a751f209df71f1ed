import SuppressionAudit.Directive.RuleList
import SuppressionAudit.Proofs.Text.Cuts

/-!
# What a rule list names

Every rule that is read from the body of a directive is written there, at the offset that goes with it.
-/

namespace SuppressionAudit

namespace RuleList

def Writes (body : Text) (mention : RuleMention) : Prop :=
  ∃ before after, body = before ++ mention.name ++ after ∧ before.length = mention.offset

theorem Writes.offset_le {body : Text} {mention : RuleMention} (h : Writes body mention) :
    mention.offset ≤ body.length := by
  obtain ⟨before, after, rfl, hlen⟩ := h
  simp only [List.length_append]
  omega

theorem Writes.take_drop {body : Text} {mention : RuleMention} (h : Writes body mention)
    {content : Text} {bodyStart : Nat} (hbody : body <+: content.drop bodyStart) :
    (content.drop (bodyStart + mention.offset)).take mention.name.length = mention.name := by
  obtain ⟨before, after, rfl, hlen⟩ := h
  obtain ⟨rest, hrest⟩ := hbody
  rw [← List.drop_drop, ← hrest, ← hlen]
  simp only [List.append_assoc, List.drop_left, List.take_left]

/-- An entry holds its trimmed text behind its leading blanks. -/
theorem entry_eq (entry : Text) :
    ∃ tail, entry = entry.takeWhile isBlank ++ Text.trim entry ++ tail := by
  obtain ⟨tail, htail, -⟩ := Text.trimEnd_append_blanks (Text.trimStart entry)
  refine ⟨tail, ?_⟩
  rw [List.append_assoc, Text.trim, ← htail, Text.trimStart_append]

theorem writes_of_mem_mentionsFrom {start : Nat} {entries : List Text} {mention : RuleMention}
    (h : mention ∈ mentionsFrom start entries) :
    ∃ before after, Text.joinWith [','] entries = before ++ mention.name ++ after ∧
      start + before.length = mention.offset := by
  induction entries generalizing start with
  | nil => simp [mentionsFrom] at h
  | cons entry entries ih =>
    have hhead : ∃ rest, Text.joinWith [','] (entry :: entries) = entry ++ rest := by
      cases entries with
      | nil => exact ⟨[], by simp [Text.joinWith]⟩
      | cons next more => exact ⟨[','] ++ Text.joinWith [','] (next :: more), by simp [Text.joinWith]⟩
    have hlater : mention ∈ mentionsFrom (start + entry.length + 1) entries →
        ∃ before after, Text.joinWith [','] (entry :: entries) = before ++ mention.name ++ after ∧
          start + before.length = mention.offset := by
      intro hmem
      obtain ⟨before, after, hjoin, hlen⟩ := ih hmem
      cases entries with
      | nil => simp [mentionsFrom] at hmem
      | cons next more =>
        refine ⟨entry ++ [','] ++ before, after, ?_, ?_⟩
        · simp only [Text.joinWith, hjoin, List.append_assoc]
        · simp only [List.length_append, List.length_singleton]
          omega
    simp only [mentionsFrom] at h
    split at h
    · exact hlater h
    · rcases List.mem_cons.1 h with rfl | hmem
      · obtain ⟨rest, hrest⟩ := hhead
        obtain ⟨tail, htail⟩ := entry_eq entry
        refine ⟨entry.takeWhile isBlank, tail ++ rest, ?_, rfl⟩
        rw [hrest, ← List.append_assoc, ← htail]
      · exact hlater hmem

theorem writes_of_mem_mentions {s : Text} {mention : RuleMention} (h : mention ∈ mentions s) :
    Writes s mention := by
  obtain ⟨before, after, hjoin, hlen⟩ := writes_of_mem_mentionsFrom h
  rw [Text.joinWith_splitOn] at hjoin
  exact ⟨before, after, hjoin, by omega⟩

theorem Writes.append {s : Text} {mention : RuleMention} (h : Writes s mention) (tail : Text) :
    Writes (s ++ tail) mention := by
  obtain ⟨before, after, rfl, hlen⟩ := h
  exact ⟨before, after ++ tail, by simp, hlen⟩

theorem writes_of_mem_parse {body : Text} {mention : RuleMention} (h : mention ∈ (parse body).rules) :
    Writes body mention := by
  unfold parse at h
  split at h
  · exact writes_of_mem_mentions h
  · next rules reason hsplit =>
    have hbody := Text.splitAtFirst?_eq_some hsplit
    obtain ⟨tail, htail, -⟩ := Text.trimEnd_append_blanks rules
    have hwrites := (writes_of_mem_mentions h).append (tail ++ (separator ++ reason))
    rw [← List.append_assoc, ← htail, ← List.append_assoc, ← hbody] at hwrites
    exact hwrites

end RuleList

end SuppressionAudit
