import BindingGlue.Proofs.Batch.Report
import BindingGlue.Proofs.Text.Blocks

/-!
# What a report shows of its sections

A report gives its sections back, and a section its fragments, as long as every line can be told for
what it is. No fragment has the rule that a section begins with as one of its lines, and the last
line of a fragment is unlike its other lines (`IsDelimited`). Then equal reports have equal sections
(`Section.eq_of_joined_text_eq`), and equal sections have equal fragments (`eq_of_joined_eq`). The
report also shows which sections are not there, as no two have one label
(`Section.eq_of_ofLists_eq`).
-/

namespace BindingGlue

open Text

variable {closes : List Char → Bool} {feeds : Nat} {text : String} {texts texts' : List String}

/-- The text ends in so many line feeds, with something else in front of them. -/
def EndsInFeeds (feeds : Nat) (text : String) : Prop :=
  ∃ s c, text.toList = s ++ c :: List.replicate feeds '\n' ∧ c ≠ '\n'

/-- A fragment that is told apart from those around it: by its last line, which no other line of it
is like, and by the line feeds at its end, which are as many for all fragments of one kind. -/
structure IsDelimited (closes : List Char → Bool) (feeds : Nat) (text : String) : Prop where
  closes_linesOf : Closes closes (linesOf text)
  endsInFeeds : EndsInFeeds feeds text
  rule_notMem : Section.rule.toList ∉ linesOf text

/-- Lines one below the other are delimited if the last one is unlike the others. -/
theorem isDelimited_intercalate {last : String}
    (hfront : ∀ line ∈ texts,
      '\n' ∉ line.toList ∧ closes line.toList = false ∧ line ≠ Section.rule)
    (hlast : '\n' ∉ last.toList ∧ closes last.toList = true ∧ last ≠ Section.rule)
    (hends : EndsInFeeds feeds ("\n".intercalate (texts ++ [last]))) :
    IsDelimited closes feeds ("\n".intercalate (texts ++ [last])) := by
  obtain ⟨hlastFeed, hcloses, hlastRule⟩ := hlast
  have hall : ∀ line ∈ texts ++ [last], '\n' ∉ line.toList ∧ line ≠ Section.rule := by
    intro line hline
    rcases List.mem_append.1 hline with hline | hline
    · obtain ⟨hfeed, -, hrule⟩ := hfront line hline
      exact ⟨hfeed, hrule⟩
    · obtain rfl := List.mem_singleton.1 hline
      exact ⟨hlastFeed, hlastRule⟩
  have hlinesOf := linesOf_intercalate_of_notMem (by simp) fun line hline ↦ (hall line hline).1
  refine ⟨⟨texts.map String.toList, last.toList, ?_, ?_, hcloses⟩, hends, ?_⟩
  · rw [hlinesOf, List.map_append, List.map_singleton]
  · simpa using fun line hline ↦ (hfront line hline).2.1
  · rw [hlinesOf]
    intro hmem
    obtain ⟨line, hline, heq⟩ := List.mem_map.1 hmem
    exact (hall line hline).2 (String.toList_inj.1 heq)

/-- A text on one line ends in no line feed, unless it is empty. -/
theorem endsInFeeds_of_line (hne : text ≠ "") (hline : '\n' ∉ text.toList) :
    EndsInFeeds 0 text := by
  obtain hnil | ⟨s, c, heq⟩ := List.eq_nil_or_concat' text.toList
  · exact absurd (by simpa using hnil) hne
  · refine ⟨s, c, heq, ?_⟩
    rintro rfl
    exact hline (heq ▸ List.mem_append_right s List.mem_cons_self)

/-- A text on one line is delimited by being no other line. -/
theorem isDelimited_of_line (hne : text ≠ "") (hline : '\n' ∉ text.toList)
    (hrule : text ≠ Section.rule) : IsDelimited (fun _ ↦ true) 0 text := by
  have hends := endsInFeeds_of_line hne hline
  have hdelimited : IsDelimited (fun _ ↦ true) 0 ("\n".intercalate ([] ++ [text])) :=
    isDelimited_intercalate (by simp) ⟨hline, rfl, hrule⟩ (by simpa using hends)
  simpa using hdelimited

/-! ### Fragments of a section -/

/-- Texts one below the other end like the last one. -/
theorem endsInFeeds_intercalate_concat (h : EndsInFeeds feeds text) (texts : List String) :
    EndsInFeeds feeds ("\n".intercalate (texts ++ [text])) := by
  induction texts with
  | nil => simpa using h
  | cons first texts ih =>
    obtain ⟨s, c, heq, hc⟩ := ih
    refine ⟨first.toList ++ '\n' :: s, c, ?_, hc⟩
    rw [List.cons_append, String.intercalate_cons_of_ne_nil (by simp), String.toList_append, heq]
    simp

theorem endsInFeeds_intercalate (hne : texts ≠ []) (h : ∀ text ∈ texts, EndsInFeeds feeds text) :
    EndsInFeeds feeds ("\n".intercalate texts) := by
  obtain ⟨front, last, rfl⟩ := List.eq_nil_or_concat' texts |>.resolve_left hne
  exact endsInFeeds_intercalate_concat (h last (by simp)) front

/-- The line feeds at the end are all that a section drops of its fragments. -/
theorem toList_joined_append (h : EndsInFeeds feeds ("\n".intercalate texts)) :
    (Section.joined texts).toList ++ List.replicate feeds '\n' =
      ("\n".intercalate texts).toList := by
  obtain ⟨s, c, heq, hc⟩ := h
  have hfeeds : ∀ d ∈ List.replicate feeds '\n', (d == '\n') = true := by
    intro d hd
    rw [List.eq_of_mem_replicate hd]
    rfl
  have hlast : ∀ d ∈ (s ++ [c]).getLast?, (d == '\n') = false := by
    intro d hd
    rw [List.getLast?_concat] at hd
    obtain rfl : c = d := Option.some.inj hd
    simpa using hc
  have hsplit : s ++ c :: List.replicate feeds '\n' = s ++ [c] ++ List.replicate feeds '\n' := by
    simp
  rw [Section.joined, String.toList_ofList, heq, hsplit, dropEndWhile_append hfeeds,
    dropEndWhile_eq_self hlast]

/-- No line is new in a section, and those that it drops are the last ones. -/
theorem linesOf_joined_isPrefix (h : EndsInFeeds feeds ("\n".intercalate texts)) :
    linesOf (Section.joined texts) <+: linesOf ("\n".intercalate texts) := by
  have htext := toList_joined_append h
  rw [linesOf, linesOf, ← htext, List.splitOn_eq_splitOnP, List.splitOn_eq_splitOnP]
  cases feeds with
  | zero => simp
  | succ feeds =>
    rw [List.replicate_succ, List.splitOnP_append_cons _ _ (by simp)]
    exact List.prefix_append ..

theorem rule_notMem_joined (hne : texts ≠ []) (h : ∀ text ∈ texts, IsDelimited closes feeds text) :
    Section.rule.toList ∉ linesOf (Section.joined texts) := by
  have hends := endsInFeeds_intercalate hne fun text htext ↦ (h text htext).endsInFeeds
  intro hmem
  have hline := (linesOf_joined_isPrefix hends).subset hmem
  rw [linesOf_intercalate hne, List.mem_flatten] at hline
  obtain ⟨_, hlines, hline⟩ := hline
  obtain ⟨text, htext, rfl⟩ := List.mem_map.1 hlines
  exact (h text htext).rule_notMem hline

/-- The fragments of one kind are determined by what a section shows of them. -/
theorem eq_of_joined_eq (hne : texts ≠ []) (hne' : texts' ≠ [])
    (h : ∀ text ∈ texts, IsDelimited closes feeds text)
    (h' : ∀ text ∈ texts', IsDelimited closes feeds text)
    (heq : Section.joined texts = Section.joined texts') : texts = texts' := by
  have hends := endsInFeeds_intercalate hne fun text htext ↦ (h text htext).endsInFeeds
  have hends' := endsInFeeds_intercalate hne' fun text htext ↦ (h' text htext).endsInFeeds
  have htext : "\n".intercalate texts = "\n".intercalate texts' := by
    rw [← String.toList_inj, ← toList_joined_append hends, ← toList_joined_append hends', heq]
  exact eq_of_intercalate_eq hne hne' (fun text htext ↦ (h text htext).closes_linesOf)
    (fun text htext ↦ (h' text htext).closes_linesOf) htext

/-! ### Sections of a report -/

namespace Section

variable {part : Section} {sections sections' : List Section}

/-- A section without the rule among its lines, under a label of one line. -/
structure IsPlain (part : Section) : Prop where
  lineFeed_notMem : '\n' ∉ part.label.toList
  rule_notMem : rule.toList ∉ linesOf part.body

/-- A section as a text of its own, without the line feed in front of the section that follows. -/
def shownText (part : Section) : String :=
  "\n".intercalate [rule, "// " ++ part.label, part.body, ""]

/-- The lines of a section behind its rule, with the empty one that ends it. -/
def shownLines (part : Section) : List (List Char) :=
  ("// " ++ part.label).toList :: linesOf part.body ++ [[]]

theorem text_eq (part : Section) (isLast : Bool) :
    part.text isLast = part.shownText ++ if isLast then "" else "\n" := by
  rw [text, shownText]
  simp only [String.intercalate_cons_cons, String.intercalate_singleton, String.append_assoc,
    String.empty_append]

/-- A report is its sections one below the other. -/
theorem joined_text (sections : List Section) :
    Template.joined Section.text sections = "\n".intercalate (sections.map shownText) := by
  induction sections with
  | nil => rfl
  | cons part sections ih =>
    rw [Template.joined, ih, text_eq]
    cases sections with
    | nil => simp
    | cons next sections => simp [String.intercalate_cons_cons, String.append_assoc]

theorem IsPlain.linesOf_eq (h : part.IsPlain) :
    linesOf part.shownText = rule.toList :: part.shownLines := by
  have hrule : linesOf rule = [rule.toList] := linesOf_eq_singleton (by decide)
  have hlabel : linesOf ("// " ++ part.label) = [("// " ++ part.label).toList] :=
    linesOf_eq_singleton (by simp [h.lineFeed_notMem])
  have hempty : linesOf "" = [[]] := rfl
  rw [shownText, linesOf_intercalate (by simp)]
  simp [hrule, hlabel, hempty, shownLines]

/-- A report is, line by line, its sections with the rule in front of each. -/
theorem linesOf_joined_text (hne : sections ≠ []) (h : ∀ part ∈ sections, part.IsPlain) :
    linesOf (Template.joined Section.text sections) =
      ((sections.map shownLines).map (rule.toList :: ·)).flatten := by
  have hlines : ∀ part ∈ sections,
      (linesOf ∘ shownText) part = ((rule.toList :: ·) ∘ shownLines) part := by
    intro part hpart
    rw [Function.comp_apply, (h part hpart).linesOf_eq, Function.comp_apply]
  rw [joined_text, linesOf_intercalate (by simpa using hne), List.map_map, List.map_map,
    List.map_congr_left hlines]

theorem IsPlain.rule_notMem_shownLines (h : part.IsPlain) : rule.toList ∉ part.shownLines := by
  have hlabel : rule.toList ≠ ("// " ++ part.label).toList := by
    intro heq
    have hthird := congrArg (·[2]?) heq
    simp [rule] at hthird
  have hempty : rule.toList ≠ [] := by decide
  rw [shownLines, List.cons_append, List.mem_cons, List.mem_append, List.mem_singleton]
  rintro (heq | hmem | heq)
  · exact hlabel heq
  · exact h.rule_notMem hmem
  · exact hempty heq

/-- A section is determined by its lines. -/
theorem shownLines_injective {other : Section} (h : part.shownLines = other.shownLines) :
    part = other := by
  obtain ⟨hlabel, hbody⟩ := List.cons.inj h
  have hlabel : part.label = other.label := String.toList_inj.1 (by simpa using hlabel)
  have hbody : part.body = other.body := linesOf_injective (List.append_cancel_right hbody)
  cases part
  cases other
  rw [mk.injEq]
  exact ⟨hlabel, hbody⟩

/-- A report without sections is empty, and no other one is. -/
theorem joined_text_ne_empty (hne : sections ≠ []) (h : ∀ part ∈ sections, part.IsPlain) :
    Template.joined Section.text sections ≠ Template.joined Section.text [] := by
  obtain ⟨part, sections, rfl⟩ := List.exists_cons_of_ne_nil hne
  intro heq
  have hlines := congrArg linesOf heq
  rw [linesOf_joined_text hne h, List.map_cons, List.map_cons, List.flatten_cons] at hlines
  have hrule : rule.toList = [] := (List.cons.inj hlines).1
  exact absurd hrule (by decide)

/-- **A report gives its sections back.** -/
theorem eq_of_joined_text_eq (h : ∀ part ∈ sections, part.IsPlain)
    (h' : ∀ part ∈ sections', part.IsPlain)
    (heq : Template.joined Section.text sections = Template.joined Section.text sections') :
    sections = sections' := by
  by_cases hne : sections = []
  case pos =>
    subst hne
    by_contra hne'
    exact joined_text_ne_empty (Ne.symm hne') h' heq.symm
  case neg =>
    by_cases hne' : sections' = []
    case pos =>
      subst hne'
      exact absurd heq (joined_text_ne_empty hne h)
    case neg =>
      have hlines := congrArg linesOf heq
      rw [linesOf_joined_text hne h, linesOf_joined_text hne' h'] at hlines
      have hblocks : sections.map shownLines = sections'.map shownLines := by
        refine eq_of_flatten_cons_eq ?_ ?_ hlines
        · simpa using fun part hpart ↦ (h part hpart).rule_notMem_shownLines
        · simpa using fun part hpart ↦ (h' part hpart).rule_notMem_shownLines
      exact List.map_injective_iff.2 (fun _ _ ↦ shownLines_injective) hblocks

/-! ### Lists of fragments -/

/-- The sections of lists of fragments under their labels. -/
def ofLists (labels : List String) (lists : List (List String)) : List Section :=
  ((labels.zip lists).filter fun (_, fragments) ↦ !fragments.isEmpty).map
    fun (label, fragments) ↦ { label, body := joined fragments }

variable {label : String} {labels : List String} {lists lists' : List (List String)}

theorem ofLists_cons_nil (label : String) (labels : List String) (lists : List (List String)) :
    ofLists (label :: labels) ([] :: lists) = ofLists labels lists :=
  rfl

theorem ofLists_cons_of_ne (hne : texts ≠ []) :
    ofLists (label :: labels) (texts :: lists) =
      { label, body := joined texts } :: ofLists labels lists := by
  simp [ofLists, hne]

/-- A section has one of the labels and shows one of the lists. -/
theorem exists_of_mem_ofLists (h : part ∈ ofLists labels lists) :
    part.label ∈ labels ∧ ∃ texts ∈ lists, texts ≠ [] ∧ part.body = joined texts := by
  obtain ⟨⟨label, texts⟩, hentry, rfl⟩ := List.mem_map.1 h
  obtain ⟨hentry, hne⟩ := List.mem_filter.1 hentry
  obtain ⟨hlabel, htexts⟩ := List.of_mem_zip hentry
  exact ⟨hlabel, texts, htexts, by simpa using hne, rfl⟩

/-- The labels of the sections are those of the lists that are not empty. -/
theorem map_label_ofLists (labels : List String) (lists : List (List String)) :
    (ofLists labels lists).map Section.label =
      ((labels.zip (lists.map List.length)).filter (·.2 ≠ 0)).map (·.1) := by
  induction lists generalizing labels with
  | nil => simp [ofLists]
  | cons texts lists ih =>
    cases labels with
    | nil => rfl
    | cons first labels =>
      by_cases hne : texts = []
      · subst hne
        rw [ofLists_cons_nil, ih]
        simp
      · rw [ofLists_cons_of_ne hne, List.map_cons, ih]
        simp [hne]

/-- **Sections give the lists of fragments back**, the empty ones too, if each label is that of one
list and a list with fragments is determined by its section. -/
theorem eq_of_ofLists_eq (hnodup : labels.Nodup) (hlength : labels.length = lists.length)
    (h : List.Forall₂
      (fun texts texts' ↦ texts ≠ [] → texts' ≠ [] → joined texts = joined texts' → texts = texts')
      lists lists')
    (heq : ofLists labels lists = ofLists labels lists') : lists = lists' := by
  induction h generalizing labels with
  | nil => rfl
  | @cons texts texts' lists lists' hfirst _ ih =>
    obtain _ | ⟨label, labels⟩ := labels
    case nil => cases hlength
    case cons =>
      obtain ⟨hlabel, hnodup⟩ := List.nodup_cons.1 hnodup
      replace hlength : labels.length = lists.length := Nat.succ.inj hlength
      -- no section of the lists that follow has the label of the first one
      have hfresh : ∀ (part : Section) (others : List (List String)),
          part ∈ ofLists labels others → part.label ≠ label := by
        rintro part others hpart rfl
        exact hlabel (exists_of_mem_ofLists hpart).1
      by_cases hne : texts = [] <;> by_cases hne' : texts' = []
      · subst hne hne'
        rw [ih hnodup hlength heq]
      · subst hne
        rw [ofLists_cons_nil, ofLists_cons_of_ne hne'] at heq
        exact absurd rfl (hfresh _ lists (heq ▸ List.mem_cons_self))
      · subst hne'
        rw [ofLists_cons_nil, ofLists_cons_of_ne hne] at heq
        exact absurd rfl (hfresh _ lists' (heq ▸ List.mem_cons_self))
      · rw [ofLists_cons_of_ne hne, ofLists_cons_of_ne hne'] at heq
        obtain ⟨hpart, hothers⟩ := List.cons.inj heq
        rw [hfirst hne hne' (Section.mk.inj hpart).2, ih hnodup hlength hothers]

end Section

end BindingGlue
