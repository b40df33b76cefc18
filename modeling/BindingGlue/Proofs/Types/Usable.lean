import BindingGlue.Proofs.Text.Words
import BindingGlue.Proofs.Types.Extension

/-!
# Names that can be looked up

A catalogue keeps its entries under the names that they were given and looks a spelling up by its
bare name. So an entry answers to its own name exactly if that is its own bare name, which is so if
its words stand one space apart, no mark ends it and no `const` begins it
(`Types.bareName_eq_self_iff`). Any other name is listed all the same, and stands for nothing or for
the entry of another name. Such an entry may still be found under a longer spelling: one `const` is
dropped from a spelling, so a name that begins with `const` is found behind a second one
(`Types.exists_bareName_eq_iff`).
-/

namespace BindingGlue

open Text

namespace Types

variable {name : String} {s : List Char}

/-! ### Bare names -/

/-- A name that some spelling has as its bare name: words one space apart, without a mark at the
end. -/
structure IsReduced (name : List Char) : Prop where
  isSingleSpaced : IsSingleSpaced name
  isMark_getLast? : ∀ c ∈ name.getLast?, isMark c = false

/-- A name that is its own bare name: no `const` is dropped from it either. -/
structure IsBare (name : List Char) : Prop extends IsReduced name where
  not_const : ¬ "const ".toList <+: name

theorem dropMarks_isPrefix (s : List Char) : dropMarks s <+: s :=
  List.rdropWhile_prefix _ s

theorem getLast?_dropMarks (s : List Char) :
    ∀ c ∈ (dropMarks s).getLast?, isMark c = false ∧ isBlank c = false := by
  intro c hc
  rw [dropMarks, dropEndWhile, List.getLast?_reverse] at hc
  simpa using head?_dropWhile _ _ c hc

/-- A `const` is dropped with the space behind it and all further blanks. -/
theorem dropConst_append (s : List Char) : dropConst ("const ".toList ++ s) = trimLeft s := by
  have hprefix : ['c', 'o', 'n', 's', 't', ' '].isPrefixOf? ("const ".toList ++ s) = some s :=
    List.isPrefixOf?_eq_some_iff_append_eq.2 rfl
  rw [dropConst, hprefix]

theorem dropConst_eq_self (h : ¬ "const ".toList <+: s) : dropConst s = s := by
  rw [dropConst]
  split
  case h_2 => rfl
  case h_1 rest hrest =>
    exact absurd ⟨rest, List.isPrefixOf?_eq_some_iff_append_eq.1 hrest⟩ h

theorem IsReduced.dropMarks_eq (h : IsReduced s) : dropMarks s = s := by
  refine dropEndWhile_eq_self fun c hc ↦ ?_
  rw [h.isMark_getLast? c hc, h.isSingleSpaced.getLast? c hc]
  rfl

theorem isReduced_bareName (spelling : String) : IsReduced (bareName spelling).toList := by
  rw [bareName, String.toList_ofList]
  refine ⟨isSingleSpaced_singleSpaced _, fun c hc ↦ ?_⟩
  rw [getLast?_singleSpaced fun d hd ↦ (getLast?_dropMarks _ d hd).2] at hc
  exact (getLast?_dropMarks _ c hc).1

/-- Only marks and blanks are dropped besides a `const`, so that a name with one in front has a
shorter bare name. -/
theorem bareName_ne_of_const (hreduced : IsReduced name.toList)
    (h : "const ".toList <+: name.toList) : bareName name ≠ name := by
  intro heq
  obtain ⟨rest, hrest⟩ := h
  have hname : name.toList = singleSpaced (dropMarks (trimLeft rest)) := by
    conv_lhs => rw [← heq]
    rw [bareName, String.toList_ofList, hreduced.isSingleSpaced.trim_eq, ← hrest, dropConst_append]
  have hkept := filter_singleSpaced (dropMarks (trimLeft rest))
  rw [← hname, ← hrest, List.filter_append] at hkept
  have hsub : (dropMarks (trimLeft rest)).Sublist rest :=
    (dropMarks_isPrefix _).sublist.trans (List.dropWhile_suffix _).sublist
  have hle := (hsub.filter (!isBlank ·)).length_le
  have hconst : ("const ".toList.filter (!isBlank ·)).length = 5 := by decide
  rw [← hkept, List.length_append, hconst] at hle
  omega

/-- The names that are their own bare names. -/
theorem bareName_eq_self_iff : bareName name = name ↔ IsBare name.toList := by
  constructor
  · intro h
    have hreduced := isReduced_bareName name
    rw [h] at hreduced
    exact { hreduced with not_const := fun hconst ↦ bareName_ne_of_const hreduced hconst h }
  · intro h
    rw [bareName, h.isSingleSpaced.trim_eq, dropConst_eq_self h.not_const, h.dropMarks_eq,
      singleSpaced_eq_self_iff.2 h.isSingleSpaced, String.ofList_toList]

instance (name : String) : Decidable (IsBare name.toList) :=
  decidable_of_iff _ bareName_eq_self_iff

/-- The names that some spelling has as its bare name. -/
theorem exists_bareName_eq_iff :
    (∃ spelling, bareName spelling = name) ↔ IsReduced name.toList := by
  constructor
  · rintro ⟨spelling, rfl⟩
    exact isReduced_bareName spelling
  · intro h
    by_cases hconst : "const ".toList <+: name.toList
    case neg => exact ⟨name, bareName_eq_self_iff.2 { h with not_const := hconst }⟩
    case pos =>
      -- a second `const` is what is dropped
      have hne : name.toList ≠ [] := by
        rintro hnil
        rw [hnil, List.prefix_nil] at hconst
        exact absurd hconst (by decide)
      have htrim : trim ("const ".toList ++ name.toList) = "const ".toList ++ name.toList := by
        refine trim_eq_self (fun c hc ↦ ?_) ?_
        · obtain rfl : 'c' = c := by simpa using hc
          decide
        · rw [List.getLast?_append_of_ne_nil _ hne]
          exact h.isSingleSpaced.getLast?
      refine ⟨"const " ++ name, ?_⟩
      rw [bareName, String.toList_append, htrim, dropConst_append,
        trimLeft_eq_self h.isSingleSpaced.head?, h.dropMarks_eq,
        singleSpaced_eq_self_iff.2 h.isSingleSpaced, String.ofList_toList]

end Types

/-! ### Listed names -/

namespace Catalogue

open BindingGlue.Types

variable {entries : List TypeEntry} {catalogue : Catalogue} {name : String}

/-- A listed name stands for an entry of that name exactly if it is its own bare name. -/
theorem lastNamed?_bareName_iff (h : name ∈ sortedNames entries) :
    (∃ entry, lastNamed? entries (bareName name) = some entry ∧ entry.name = name) ↔
      IsBare name.toList := by
  rw [← bareName_eq_self_iff]
  constructor
  · rintro ⟨entry, hentry, rfl⟩
    exact (lastNamed?_eq_some hentry).2.symm
  · intro hname
    obtain ⟨entry, hentry⟩ := exists_lastNamed?_iff.2 (mem_sortedNames_iff.1 h)
    exact ⟨entry, by rwa [hname], (lastNamed?_eq_some hentry).2⟩

/-- And some spelling stands for an entry of that name exactly if it is a bare name. -/
theorem exists_lastNamed?_bareName_iff (h : name ∈ sortedNames entries) :
    (∃ spelling entry, lastNamed? entries (bareName spelling) = some entry ∧ entry.name = name) ↔
      IsReduced name.toList := by
  rw [← exists_bareName_eq_iff]
  constructor
  · rintro ⟨spelling, entry, hentry, rfl⟩
    exact ⟨spelling, (lastNamed?_eq_some hentry).2.symm⟩
  · rintro ⟨spelling, rfl⟩
    obtain ⟨entry, hentry⟩ := exists_lastNamed?_iff.2 (mem_sortedNames_iff.1 h)
    exact ⟨spelling, entry, hentry, (lastNamed?_eq_some hentry).2⟩

/-- Every listed name stands for an entry of that name. -/
structure AreUsable (catalogue : Catalogue) : Prop where
  result : ∀ name ∈ catalogue.resultNames,
    ∃ entry, catalogue.resultType? name = some entry ∧ entry.name = name
  argument : ∀ name ∈ catalogue.argumentNames,
    ∃ entry, catalogue.argumentType? name = some entry ∧ entry.name = name

/-- The names of the arguments are among those of the results, which are the names of the entries
and `void`. -/
theorem areUsable_iff :
    catalogue.AreUsable ↔ ∀ entry ∈ catalogue.entries, IsBare entry.name.toList := by
  have hvoid : IsBare Vocabulary.void.name.toList := by decide
  constructor
  · intro h entry hentry
    have hname : entry.name ∈ catalogue.resultNames :=
      mem_sortedNames_iff.2 (List.mem_map_of_mem (List.mem_cons_of_mem _ hentry))
    exact (lastNamed?_bareName_iff hname).1 (h.result _ hname)
  · intro h
    have hbare : ∀ name ∈ catalogue.resultNames, IsBare name.toList := by
      intro name hname
      obtain ⟨entry, hentry, rfl⟩ := List.mem_map.1 (mem_sortedNames_iff.1 hname)
      rcases List.mem_cons.1 hentry with rfl | hentry
      · exact hvoid
      · exact h entry hentry
    refine ⟨fun name hname ↦ (lastNamed?_bareName_iff hname).2 (hbare name hname),
      fun name hname ↦ (lastNamed?_bareName_iff hname).2 (hbare name ?_)⟩
    obtain ⟨entry, hentry, rfl⟩ := List.mem_map.1 (mem_sortedNames_iff.1 hname)
    exact mem_sortedNames_iff.2
      (List.mem_map_of_mem (List.mem_cons_of_mem _ (List.mem_of_mem_filter hentry)))

theorem isBare_of_mem_standard : ∀ entry ∈ Vocabulary.standard, IsBare entry.name.toList := by
  decide +kernel

/-- In an extended catalogue only the names of the further entries are in question. -/
theorem areUsable_extended_iff {extra : List TypeEntry} :
    (extended extra).AreUsable ↔ ∀ entry ∈ extra, IsBare entry.name.toList := by
  have hnames : (∀ name ∈ (extended extra).entries.map (·.name), IsBare name.toList) ↔
      ∀ name ∈ (Vocabulary.standard ++ extra).map (·.name), IsBare name.toList :=
    forall_congr' fun name ↦ by rw [extended, mem_names_withoutReplaced_iff]
  rw [List.forall_mem_map, List.forall_mem_map, List.forall_mem_append] at hnames
  rw [areUsable_iff, hnames]
  exact and_iff_right isBare_of_mem_standard

/-- **Which listed names can be used.** A name that a catalogue lists, for results or for arguments,
stands for an entry of that name exactly if it is its own bare name, and some spelling stands for
one exactly if it is a bare name at all. So all listed names can be used exactly if the names of all
entries are their own bare names; the names of the standard vocabulary are. -/
theorem listed_usable_iff (catalogue : Catalogue) (entries extra : List TypeEntry) :
    (∀ name ∈ catalogue.resultNames,
      ((∃ entry, catalogue.resultType? name = some entry ∧ entry.name = name) ↔
        IsBare name.toList) ∧
      ((∃ spelling entry, catalogue.resultType? spelling = some entry ∧ entry.name = name) ↔
        IsReduced name.toList)) ∧
    (∀ name ∈ catalogue.argumentNames,
      ((∃ entry, catalogue.argumentType? name = some entry ∧ entry.name = name) ↔
        IsBare name.toList) ∧
      ((∃ spelling entry, catalogue.argumentType? spelling = some entry ∧ entry.name = name) ↔
        IsReduced name.toList)) ∧
    ((Catalogue.mk entries).AreUsable ↔ ∀ entry ∈ entries, IsBare entry.name.toList) ∧
    ((extended extra).AreUsable ↔ ∀ entry ∈ extra, IsBare entry.name.toList) :=
  ⟨fun _ hname ↦ ⟨lastNamed?_bareName_iff hname, exists_lastNamed?_bareName_iff hname⟩,
    fun _ hname ↦ ⟨lastNamed?_bareName_iff hname, exists_lastNamed?_bareName_iff hname⟩,
    areUsable_iff, areUsable_extended_iff⟩

/-- An entry named with the mark of a pointer. -/
def markedPointer : TypeEntry :=
  { Vocabulary.pointerObject "QWidget" with name := "QWidget*" }

/-- Its name is listed and stands for another entry, and no spelling stands for it. -/
theorem listed_usable_iff_marked :
    "QWidget*" ∈ (extended [markedPointer]).resultNames ∧
      ¬ ∃ spelling entry, (extended [markedPointer]).resultType? spelling = some entry ∧
        entry.name = "QWidget*" := by
  have hname : "QWidget*" ∈ (extended [markedPointer]).resultNames :=
    (mem_resultNames_extended _).2 (.inr (.inr (by decide)))
  refine ⟨hname, fun hfound ↦ ?_⟩
  have hreduced := (((listed_usable_iff _ [] []).1 _ hname).2.1 hfound).isMark_getLast?
  exact absurd (hreduced '*' (by decide)) (by decide)

/-- So not all listed names of every catalogue can be used. -/
theorem listed_unusable_marked :
    ¬ ((∀ entries, (Catalogue.mk entries).AreUsable) ∧ ∀ extra, (extended extra).AreUsable) := by
  rintro ⟨-, h⟩
  have hname : "QWidget*" ∈ (extended [markedPointer]).resultNames :=
    (mem_resultNames_extended _).2 (.inr (.inr (by decide)))
  obtain ⟨entry, hentry, hsame⟩ := (h [markedPointer]).result _ hname
  have hother : (extended [markedPointer]).resultType? "QWidget*" =
      some (Vocabulary.pointerObject "QWidget") := by
    decide +kernel
  obtain rfl := Option.some.inj (hother.symm.trans hentry)
  exact absurd hsame (by decide)

end Catalogue

end BindingGlue
