import SuppressionAudit.Directive.Extraction
import SuppressionAudit.Proofs.Directive.LineForms
import SuppressionAudit.Proofs.Directive.RenderedLists

/-!
# Written line comments

A line comment directive that is written on a line of a text is found, whatever the text holds around it. In
front of it on its line there may be anything but the opening of another line comment; such a front can make
no opening of its own with the first slash of the directive, and the directive takes the rest of the line.
-/

namespace SuppressionAudit

/-- The opening of a line comment directive as it is written: slashes, keyword, perhaps a qualifier. -/
def directiveOpening (qualifier : Text) : Text :=
  ['/', '/'] ++ [' '] ++ "eslint-disable".toList ++ qualifier ++ [' ']

/-- A line comment directive as it is written. -/
def lineDirective (qualifier : Text) (names : List Text) (justification : Option Text) : Text :=
  directiveOpening qualifier ++ RuleList.render names justification

example : lineDirective "-next-line".toList ["semi".toList, "a-".toList] (some "- why".toList)
    = "// eslint-disable-next-line semi, a- -- - why".toList := rfl

/-- The text in front of a name on the line of its directive. -/
def frontOf (front qualifier : Text) (before : List Text) : Text :=
  front ++ directiveOpening qualifier ++ before.flatMap fun other => other ++ [',', ' ']

/-! ### The ends of a rendered list -/

namespace RuleList

theorem head?_render {names : List Text} (hne : names ≠ []) (h : ∀ name ∈ names, IsRuleName name)
    (justification : Option Text) : ∃ c rest, render names justification = c :: rest ∧ isBlank c = false := by
  cases names with
  | nil => exact absurd rfl hne
  | cons name names =>
    have hname := h name List.mem_cons_self
    obtain ⟨c, rest, rfl⟩ := List.exists_cons_of_ne_nil hname.ne_nil
    have hc := Text.isBlank_of_trimStart (Text.trim_eq_self_iff.1 hname.trimmed).1
    cases names with
    | nil => exact ⟨c, _, rfl, hc⟩
    | cons next names => exact ⟨c, _, rfl, hc⟩

theorem trimEnd_render {names : List Text} {justification : Option Text}
    (h : ∀ name ∈ names, IsRuleName name) (hreason : ∀ reason ∈ justification, IsReason reason) :
    Text.trimEnd (render names justification) = render names justification := by
  cases justification with
  | none =>
    rw [render, List.append_nil]
    exact trimEnd_joinWith h
  | some reason =>
    have hgood := hreason reason rfl
    have hend := (Text.trim_eq_self_iff.1 hgood.trimmed).2
    have hne : Text.trimEnd reason ≠ [] := by
      rw [hend]
      exact hgood.ne_nil
    have hrender : render names (some reason)
        = (Text.joinWith [',', ' '] names ++ ([' '] ++ separator ++ [' '])) ++ reason := by
      simp [render]
    rw [hrender, Text.trimEnd_append_of_ne_nil hne, hend]

end RuleList

/-! ### The marker -/

theorem readsLineComment_lineDirective {qualifier : Text} {names : List Text}
    (hqualifier : qualifier ∈ [[], "-line".toList, "-next-line".toList]) (hne : names ≠ [])
    (h : ∀ name ∈ names, RuleList.IsRuleName name) (justification : Option Text) :
    ReadsLineComment (lineDirective qualifier names justification) (RuleList.render names justification) := by
  refine ⟨[' '], qualifier, [' '], rfl, ?_, hqualifier, List.cons_ne_nil _ _, ?_, ?_⟩
  · simp [Text.isBlank_space]
  · simp
  · obtain ⟨c, rest, hrender, hc⟩ := RuleList.head?_render hne h justification
    rw [hrender]
    rintro d ⟨⟩
    -- a separating character is blank
    have hspace : c ≠ ' ' := fun e => by simp [e, Text.isBlank_space] at hc
    have htab : c ≠ '\t' := fun e => absurd (e ▸ hc) (by decide)
    simp [hspace, htab]

/-- No third slash stands behind the opening of a directive. -/
theorem ReadsLineComment.third_ne_slash {c : Char} {s rest : Text}
    (h : ReadsLineComment ('/' :: '/' :: c :: s) rest) : c ≠ '/' := by
  obtain ⟨blanks, qualifier, gap, hs, hblanks, -⟩ := h
  rintro rfl
  cases blanks with
  | nil =>
    have hthird := congrArg (fun t : Text => t[2]?) hs
    exact absurd (Option.some.inj hthird) (by decide)
  | cons d blanks =>
    have hthird := congrArg (fun t : Text => t[2]?) hs
    obtain rfl : '/' = d := Option.some.inj hthird
    exact absurd (hblanks '/' List.mem_cons_self) (by decide)

namespace LineComment

/-- A directive behind a front without an opening is the first one on its line. -/
theorem body?_of_front {front directive body : Text} (hfront : ¬ ['/', '/'] <:+: front)
    (hread : ReadsLineComment directive body) :
    body? (front ++ directive) = some (front.length + (directive.length - body.length), body) := by
  have hle := hread.suffix.length_le
  refine body?_eq_some_iff.2 ⟨?_, ?_, front.length, ?_, ?_⟩
  · rw [List.length_append]
    omega
  · rw [← List.drop_drop, List.drop_left]
    exact List.suffix_iff_eq_drop.1 hread.suffix
  · rw [List.drop_left]
    exact hread
  · intro j hj rest hother
    obtain ⟨x, tail, hdrop⟩ : ∃ x tail, front.drop j = x :: tail :=
      List.exists_cons_of_ne_nil fun hnil => by
        rw [List.drop_eq_nil_iff] at hnil
        omega
    rw [List.drop_append_of_le_length (by omega), hdrop] at hother
    obtain ⟨later, hopens⟩ := hother.opens
    cases tail with
    | nil =>
      -- the last slash of the front and the first of the directive: a third one follows
      obtain ⟨more, hdirective⟩ := hread.opens
      rw [← hdirective] at hother hopens
      obtain rfl : '/' = x := (List.cons.inj hopens).1
      exact hother.third_ne_slash rfl
    | cons y tail =>
      obtain ⟨rfl, hnext⟩ := List.cons.inj hopens
      obtain rfl : '/' = y := (List.cons.inj hnext).1
      refine hfront ⟨front.take j, tail, ?_⟩
      calc front.take j ++ ['/', '/'] ++ tail
          = front.take j ++ front.drop j := by rw [hdrop, List.append_assoc]; rfl
        _ = front := List.take_append_drop j front

theorem dropReturns_lineDirective {names : List Text} {justification : Option Text} (hne : names ≠ [])
    (h : ∀ name ∈ names, RuleList.IsRuleName name) (hreason : ∀ reason ∈ justification, RuleList.IsReason reason)
    (front qualifier : Text) :
    Text.dropReturns (front ++ lineDirective qualifier names justification)
      = front ++ lineDirective qualifier names justification := by
  refine Text.dropReturns_eq_iff.2 ⟨⟨0, (List.append_nil _).symm⟩, fun hreturn => ?_⟩
  obtain ⟨c, rest, hrender, -⟩ := RuleList.head?_render hne h justification
  have hlast : (RuleList.render names justification).getLast? = some '\r' := by
    rw [lineDirective, ← List.append_assoc, List.getLast?_append, hrender] at hreturn
    rw [hrender]
    simpa using hreturn
  have hblank := Text.not_isBlank_last_of_trimEnd (RuleList.trimEnd_render h hreason) '\r' hlast
  exact absurd hblank (by decide)

theorem mem_suppressionsOn {front qualifier : Text} {names : List Text} {justification : Option Text}
    (hfront : ¬ ['/', '/'] <:+: front) (hqualifier : qualifier ∈ [[], "-line".toList, "-next-line".toList])
    (h : ∀ name ∈ names, RuleList.IsRuleName name) (hreason : ∀ reason ∈ justification, RuleList.IsReason reason)
    {before after : List Text} {name : Text} (hnames : names = before ++ name :: after) (row : Nat) :
    ⟨name, ⟨row, (frontOf front qualifier before).length + 1⟩, justification, .line⟩
      ∈ suppressionsOn row (front ++ lineDirective qualifier names justification) := by
  have hne : names ≠ [] := by simp [hnames]
  have hbody := body?_of_front hfront (readsLineComment_lineDirective hqualifier hne h justification)
  have hstart : (lineDirective qualifier names justification).length
      - (RuleList.render names justification).length = (directiveOpening qualifier).length := by
    rw [lineDirective, List.length_append, Nat.add_sub_cancel]
  rw [hstart] at hbody
  have hplaced := RuleList.mem_placedFrom 0 before name after
  rw [← hnames, Nat.zero_add] at hplaced
  unfold suppressionsOn
  rw [dropReturns_lineDirective hne h hreason, hbody]
  simp only [RuleList.parse_render h hreason, RuleList.suppressionsAt]
  refine List.mem_map.2 ⟨_, hplaced, ?_⟩
  rw [frontOf, List.length_append, List.length_append]

end LineComment

/-! ### Anywhere in a text -/

theorem RuleList.newline_notMem_render {names : List Text} {justification : Option Text}
    (h : ∀ name ∈ names, '\n' ∉ name) (hreason : ∀ reason ∈ justification, '\n' ∉ reason) :
    '\n' ∉ render names justification := by
  have hnames : '\n' ∉ Text.joinWith [',', ' '] names := by
    induction names with
    | nil => exact List.not_mem_nil
    | cons name names ih =>
      have hname := h name List.mem_cons_self
      have hrest := ih fun other hother => h other (List.mem_cons_of_mem _ hother)
      cases names with
      | nil => exact hname
      | cons next names => simp [Text.joinWith, hname, hrest]
  cases justification with
  | none => simpa [render] using hnames
  | some reason => simp [render, separator, hnames, hreason reason rfl]

theorem newline_notMem_lineDirective {qualifier : Text} {names : List Text} {justification : Option Text}
    (hqualifier : qualifier ∈ [[], "-line".toList, "-next-line".toList]) (h : ∀ name ∈ names, '\n' ∉ name)
    (hreason : ∀ reason ∈ justification, '\n' ∉ reason) :
    '\n' ∉ lineDirective qualifier names justification := by
  have hopening : ∀ other ∈ [[], "-line".toList, "-next-line".toList], '\n' ∉ directiveOpening other := by decide
  rw [lineDirective, List.mem_append, not_or]
  exact ⟨hopening qualifier hqualifier, RuleList.newline_notMem_render h hreason⟩

theorem RuleList.joinWith_split (before : List Text) (name : Text) (after : List Text) :
    ∃ rest, Text.joinWith [',', ' '] (before ++ name :: after)
      = (before.flatMap fun other => other ++ [',', ' ']) ++ name ++ rest := by
  induction before with
  | nil =>
    cases after with
    | nil => exact ⟨[], by simp [Text.joinWith]⟩
    | cons next after => exact ⟨[',', ' '] ++ Text.joinWith [',', ' '] (next :: after), by simp [Text.joinWith]⟩
  | cons other before ih =>
    obtain ⟨rest, hrest⟩ := ih
    refine ⟨rest, ?_⟩
    have hjoin : Text.joinWith [',', ' '] (other :: (before ++ name :: after))
        = other ++ [',', ' '] ++ Text.joinWith [',', ' '] (before ++ name :: after) := by
      cases before <;> rfl
    rw [List.cons_append, hjoin, hrest, List.flatMap_cons]
    simp only [List.append_assoc]

theorem frontOf_prefix (front qualifier : Text) (before : List Text) (name : Text) (after : List Text)
    (justification : Option Text) :
    frontOf front qualifier before ++ name
      <+: front ++ lineDirective qualifier (before ++ name :: after) justification := by
  obtain ⟨rest, hrest⟩ := RuleList.joinWith_split before name after
  unfold lineDirective frontOf RuleList.render
  rw [hrest]
  simp only [List.append_assoc]
  simp only [List.prefix_append_right_inj]
  exact List.prefix_append _ _

/-- A line comment directive is found wherever it is written: each of its names on its line, at the column
where the name starts, with the reason that is given. -/
theorem written_line_comment_found (pre post front qualifier : Text) (names : List Text)
    (justification : Option Text) (hfront : '\n' ∉ front) (hopening : ¬ ['/', '/'] <:+: front)
    (hqualifier : qualifier ∈ [[], "-line".toList, "-next-line".toList])
    (hnames : ∀ name ∈ names, RuleList.IsRuleName name ∧ '\n' ∉ name)
    (hreason : ∀ reason ∈ justification, RuleList.IsReason reason ∧ '\n' ∉ reason)
    (before : List Text) (name : Text) (after : List Text) (hname : names = before ++ name :: after) :
    frontOf front qualifier before ++ name <+: front ++ lineDirective qualifier names justification ∧
    ⟨name, ⟨2 + pre.count '\n', (frontOf front qualifier before).length + 1⟩, justification, .line⟩
      ∈ extractSuppressions (pre ++ ['\n'] ++ front ++ lineDirective qualifier names justification
          ++ ['\n'] ++ post) := by
  refine ⟨hname ▸ frontOf_prefix front qualifier before name after justification, ?_⟩
  have hline : '\n' ∉ front ++ lineDirective qualifier names justification := by
    rw [List.mem_append, not_or]
    exact ⟨hfront, newline_notMem_lineDirective hqualifier (fun n hn => (hnames n hn).2)
      fun r hr => (hreason r hr).2⟩
  have hlines : Text.lines (pre ++ ['\n'] ++ front ++ lineDirective qualifier names justification
        ++ ['\n'] ++ post)
      = Text.lines pre ++ (front ++ lineDirective qualifier names justification) :: Text.lines post := by
    rw [Text.lines, Text.lines, Text.lines, ← Text.splitOn_cons_append hline, ← Text.splitOn_append]
    simp only [List.append_assoc, List.cons_append, List.nil_append]
  have hrow : 1 + (Text.lines pre).length = 2 + pre.count '\n' := by
    rw [Text.lines, Text.length_splitOn]
    omega
  refine mem_extractSuppressions.2 (.inr (.inr ?_))
  rw [LineComment.suppressions, hlines, LineComment.suppressionsFrom_append, hrow]
  refine List.mem_append_right _ (List.mem_append_left _ ?_)
  exact LineComment.mem_suppressionsOn hopening hqualifier (fun n hn => (hnames n hn).1)
    (fun r hr => (hreason r hr).1) hname _

/-- Behind an opened comment and a slash, with dashes in the names and a directive in the reason. -/
theorem written_line_comment_found_behind_slash :
    let names := ["a-".toList, "b /c -d".toList]
    let reason := "-- why, // eslint-disable-line e".toList
    let line := "x /* /".toList ++ lineDirective "-next-line".toList names (some reason)
    ('\n' ∉ "x /* /".toList ∧ ¬ ['/', '/'] <:+: "x /* /".toList ∧
      (∀ name ∈ names, RuleList.IsRuleName name ∧ '\n' ∉ name) ∧ RuleList.IsReason reason ∧ '\n' ∉ reason) ∧
    line = "x /* /// eslint-disable-next-line a-, b /c -d -- -- why, // eslint-disable-line e".toList ∧
    (⟨"b /c -d".toList, ⟨3, 39⟩, some reason, .line⟩ : Suppression)
      ∈ extractSuppressions ("\n/* eslint-disable-line".toList ++ ['\n'] ++ "x /* /".toList
          ++ lineDirective "-next-line".toList names (some reason) ++ ['\n'] ++ []) := by
  have hnames : ∀ name ∈ ["a-".toList, "b /c -d".toList], RuleList.IsRuleName name ∧ '\n' ∉ name := by
    decide +kernel
  have hreason : RuleList.IsReason "-- why, // eslint-disable-line e".toList := by decide +kernel
  have hrow : 2 + "\n/* eslint-disable-line".toList.count '\n' = 3 := by decide +kernel
  have hcolumn : (frontOf "x /* /".toList "-next-line".toList ["a-".toList]).length + 1 = 39 := by
    decide +kernel
  have hfound := written_line_comment_found "\n/* eslint-disable-line".toList [] "x /* /".toList
    "-next-line".toList ["a-".toList, "b /c -d".toList] (some "-- why, // eslint-disable-line e".toList)
    (by decide +kernel) (by decide +kernel) (by decide +kernel) hnames
    (by rintro reason ⟨⟩; exact ⟨hreason, by decide +kernel⟩) ["a-".toList] "b /c -d".toList [] rfl
  rw [hrow, hcolumn] at hfound
  exact ⟨⟨by decide +kernel, by decide +kernel, hnames, hreason, by decide +kernel⟩, by decide +kernel,
    hfound.2⟩

end SuppressionAudit
