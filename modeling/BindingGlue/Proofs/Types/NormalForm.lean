import BindingGlue.Proofs.Types.Usable

/-!
# Bare names as normal forms

A bare name consists of the words that a spelling keeps, one space apart and without the marks
behind the last of them (`Types.toList_bareName`). Which words are kept is decided before the
blanks are brought into order: one `const` is dropped from the front, if the blank right behind it
is a space. Another `const` stays, be it a second one or one with a tab behind it, and becomes a
leading `const` of the bare name if anything is left behind it (`Types.KeepsConst`).

This is the only way in which bare names fail to be normal forms. They are their own bare names
unless a `const` stays (`Types.bareName_bareName_iff`), and other blanks between the same words
change nothing unless they change what is dropped (`Types.bareName_eq_iff_of_words_eq`).
-/

namespace BindingGlue.Types

open Text

variable {s left right blanks blanks' : List Char} {rest : List (List Char)}
  {spelling other : String}

/-! ### The words that are kept -/

/-- A `const` in front that is dropped: a space follows it, and something else. -/
def DropsConst (s : List Char) : Prop :=
  "const ".toList <+: trim s

instance (s : List Char) : Decidable (DropsConst s) :=
  inferInstanceAs (Decidable ("const ".toList <+: trim s))

/-- The words that are left of a spelling once its `const` is dropped. -/
def keptWords (s : List Char) : List (List Char) :=
  if DropsConst s then (words s).tail else words s

theorem of_mem_keptWords {word : List Char} (h : word ∈ keptWords s) :
    word ≠ [] ∧ ∀ c ∈ word, isBlank c = false := by
  rw [keptWords] at h
  split at h
  case isTrue => exact of_mem_words (List.mem_of_mem_tail h)
  case isFalse => exact of_mem_words h

theorem isBlank_eq_false_of_mem_const : ∀ c ∈ "const".toList, isBlank c = false := by
  have hall : "const".toList.all (!isBlank ·) = true := by decide
  simpa using hall

/-- A `const` that is dropped is the first word. -/
theorem DropsConst.words_eq (h : DropsConst s) : words s = "const".toList :: keptWords s := by
  have hspace : isBlank ' ' = true := by decide
  obtain ⟨rest, hrest⟩ := id h
  have hwords : words s = "const".toList :: words rest := by
    rw [← words_trim s, ← hrest]
    exact words_append_cons hspace "const".toList rest
  rw [keptWords, if_pos h, hwords, List.tail_cons]

theorem words_dropConst (s : List Char) : words (dropConst (trim s)) = keptWords s := by
  by_cases h : DropsConst s
  case neg => rw [dropConst_eq_self h, words_trim, keptWords, if_neg h]
  case pos =>
    obtain ⟨rest, hrest⟩ := id h
    have hwords := h.words_eq
    rw [← words_trim s, ← hrest] at hwords
    rw [← hrest, dropConst_append, words_trimLeft]
    exact (List.cons.inj hwords).2

/-- Marks can be dropped before the words are put one space apart or after that. -/
theorem singleSpaced_dropMarks (s : List Char) :
    singleSpaced (dropMarks s) = dropMarks (singleSpaced s) := by
  -- the induction is on the end of the text, where the marks are
  induction s using List.reverseRecOn with
  | nil => rfl
  | append_singleton s c ih =>
    by_cases hc : isMark c || isBlank c
    case pos =>
      obtain ⟨ending, heq, hending⟩ := exists_singleSpaced_concat s c
      have hdropped : ∀ d ∈ ending, (isMark d || isBlank d) = true := by
        intro d hd
        rcases hending d hd with rfl | hd
        · exact hc
        · rw [hd, Bool.or_true]
      have hshorter : dropMarks (s ++ [c]) = dropMarks s := List.rdropWhile_concat_pos _ s c hc
      rw [hshorter, ih, heq]
      exact (dropEndWhile_append hdropped _).symm
    case neg =>
      have hself : dropMarks (s ++ [c]) = s ++ [c] := List.rdropWhile_concat_neg _ s c hc
      have hblank : isBlank c = false := by
        rw [Bool.or_eq_true, not_or, Bool.not_eq_true, Bool.not_eq_true] at hc
        exact hc.2
      rw [hself]
      refine (dropEndWhile_eq_self fun d hd ↦ ?_).symm
      rw [getLast?_singleSpaced (by simpa using hblank)] at hd
      obtain rfl : c = d := by simpa using hd
      simpa using hc

/-- The bare name is made of the words that are kept, less the marks behind the last of them. -/
theorem toList_bareName (spelling : String) :
    (bareName spelling).toList = dropMarks ([' '].intercalate (keptWords spelling.toList)) := by
  rw [bareName, String.toList_ofList, singleSpaced_dropMarks, singleSpaced, words_dropConst]

/-! ### A `const` that stays -/

/-- Not all of the words consist of marks, so that some of them are left. -/
def HasUnmarked (rest : List (List Char)) : Prop :=
  ∃ word ∈ rest, ∃ c ∈ word, isMark c = false

/-- A `const` stays in front: it is the first word that is kept, and others are left behind it. -/
def KeepsConst (s : List Char) : Prop :=
  ∃ rest, keptWords s = "const".toList :: rest ∧ HasUnmarked rest

theorem hasUnmarked_iff (h : ∀ word ∈ rest, ∀ c ∈ word, isBlank c = false) :
    HasUnmarked rest ↔ ∃ c ∈ [' '].intercalate rest, (isMark c || isBlank c) = false := by
  have hkept := filter_intercalate h
  constructor
  · rintro ⟨word, hword, c, hc, hmark⟩
    have hflat : c ∈ rest.flatten := List.mem_flatten_of_mem hword hc
    rw [← hkept] at hflat
    exact ⟨c, List.mem_of_mem_filter hflat, by rw [hmark, h word hword c hc]; rfl⟩
  · rintro ⟨c, hc, houtside⟩
    rw [Bool.or_eq_false_iff] at houtside
    have hflat : c ∈ rest.flatten := by
      rw [← hkept]
      exact List.mem_filter.2 ⟨hc, by rw [houtside.2]; rfl⟩
    obtain ⟨word, hword, hc⟩ := List.mem_flatten.1 hflat
    exact ⟨word, hword, c, hc, houtside.1⟩

/-- Marks end with the words behind a `const` if any of these is left. -/
theorem dropMarks_const_of_hasUnmarked (hrest : ∀ word ∈ rest, ∀ c ∈ word, isBlank c = false)
    (h : HasUnmarked rest) :
    dropMarks ([' '].intercalate ("const".toList :: rest)) =
      "const ".toList ++ dropMarks ([' '].intercalate rest) := by
  rw [hasUnmarked_iff hrest] at h
  have hne : rest ≠ [] := by
    rintro rfl
    obtain ⟨c, hc, -⟩ := h
    cases hc
  rw [List.intercalate_cons_of_ne_nil hne]
  exact dropEndWhile_append_of_exists h _

/-- And otherwise only the `const` is left. -/
theorem dropMarks_const_of_not_hasUnmarked
    (hrest : ∀ word ∈ rest, ∀ c ∈ word, isBlank c = false) (h : ¬ HasUnmarked rest) :
    dropMarks ([' '].intercalate ("const".toList :: rest)) = "const".toList := by
  rw [hasUnmarked_iff hrest] at h
  have hself : dropMarks "const".toList = "const".toList := by decide
  cases rest with
  | nil => rw [List.intercalate_singleton, hself]
  | cons word others =>
    rw [List.intercalate_cons_cons, List.append_assoc]
    refine (dropEndWhile_append (fun c hc ↦ ?_) _).trans hself
    rcases List.mem_cons.1 hc with rfl | hc
    · decide
    · exact by_contra fun houtside ↦ h ⟨c, hc, Bool.not_eq_true _ ▸ houtside⟩

/-- The first of several words ends at the first space. -/
theorem eq_of_append_isPrefix_intercalate {first word : List Char}
    (hfirst : ∀ c ∈ first, isBlank c = false) (hword : ∀ c ∈ word, isBlank c = false)
    (h : word ++ [' '] <+: [' '].intercalate (first :: rest)) : word = first := by
  obtain ⟨behind, hcut⟩ := h
  rw [List.append_assoc, List.singleton_append] at hcut
  cases rest with
  | nil =>
    rw [List.intercalate_singleton] at hcut
    have hspace := hfirst ' ' (hcut ▸ by simp)
    exact absurd hspace (by decide)
  | cons other others =>
    rw [List.intercalate_cons_cons, List.append_assoc, List.singleton_append] at hcut
    exact (append_cons_inj_of_run (p := (!isBlank ·)) (by simpa using hword) (by simpa using hfirst)
      (by decide) (by decide) hcut).1

/-- A bare name has a `const` in front exactly if one stays there. -/
theorem const_isPrefix_bareName_iff :
    "const ".toList <+: (bareName spelling).toList ↔ KeepsConst spelling.toList := by
  have hwords : ∀ word ∈ keptWords spelling.toList, ∀ c ∈ word, isBlank c = false :=
    fun _ hword ↦ (of_mem_keptWords hword).2
  rw [toList_bareName]
  constructor
  · intro h
    have hjoined := h.trans (dropMarks_isPrefix _)
    cases hkept : keptWords spelling.toList with
    | nil =>
      rw [hkept] at hjoined
      exact absurd hjoined (by decide)
    | cons first rest =>
      rw [hkept] at hwords hjoined h
      obtain ⟨hfirst, hrest⟩ := List.forall_mem_cons.1 hwords
      obtain rfl : "const".toList = first :=
        eq_of_append_isPrefix_intercalate hfirst isBlank_eq_false_of_mem_const hjoined
      refine ⟨rest, hkept, by_contra fun hmarks ↦ ?_⟩
      rw [dropMarks_const_of_not_hasUnmarked hrest hmarks] at h
      exact absurd h (by decide)
  · rintro ⟨rest, hkept, hunmarked⟩
    rw [hkept] at hwords ⊢
    rw [dropMarks_const_of_hasUnmarked (List.forall_mem_cons.1 hwords).2 hunmarked]
    exact List.prefix_append _ _

/-- So a bare name is its own bare name unless a `const` stays in front of it. -/
theorem bareName_bareName_iff :
    bareName (bareName spelling) = bareName spelling ↔ ¬ KeepsConst spelling.toList := by
  rw [bareName_eq_self_iff, ← const_isPrefix_bareName_iff]
  exact ⟨fun h ↦ h.not_const, fun h ↦ { isReduced_bareName spelling with not_const := h }⟩

/-! ### Other blanks between the same words -/

theorem bareName_ne_of_dropsConst (hwords : words spelling.toList = words other.toList)
    (h : DropsConst spelling.toList) (hother : ¬ DropsConst other.toList) :
    bareName spelling ≠ bareName other := by
  intro heq
  have hkept : keptWords other.toList = "const".toList :: keptWords spelling.toList := by
    rw [keptWords, if_neg hother, ← hwords, h.words_eq]
  have hblank : ∀ word ∈ keptWords spelling.toList, ∀ c ∈ word, isBlank c = false :=
    fun _ hword ↦ (of_mem_keptWords hword).2
  have hlist := congrArg String.toList heq
  rw [toList_bareName, toList_bareName, hkept] at hlist
  by_cases hunmarked : HasUnmarked (keptWords spelling.toList)
  case pos =>
    rw [dropMarks_const_of_hasUnmarked hblank hunmarked] at hlist
    have hlength := congrArg List.length hlist
    have hconst : "const ".toList.length = 6 := rfl
    rw [List.length_append] at hlength
    omega
  case neg =>
    rw [dropMarks_const_of_not_hasUnmarked hblank hunmarked] at hlist
    have hmem : 'c' ∈ [' '].intercalate (keptWords spelling.toList) :=
      (dropMarks_isPrefix _).subset (hlist ▸ by decide)
    exact hunmarked ((hasUnmarked_iff hblank).2 ⟨'c', hmem, by decide⟩)

/-- Spellings with the same words have one bare name if a `const` is dropped from both or from
neither, and otherwise they do not. -/
theorem bareName_eq_iff_of_words_eq (hwords : words spelling.toList = words other.toList) :
    bareName spelling = bareName other ↔
      (DropsConst spelling.toList ↔ DropsConst other.toList) := by
  constructor
  · intro heq
    by_cases h : DropsConst spelling.toList
    case pos =>
      exact iff_of_true h (by_contra fun hother ↦ bareName_ne_of_dropsConst hwords h hother heq)
    case neg =>
      exact iff_of_false h fun hother ↦ bareName_ne_of_dropsConst hwords.symm hother h heq.symm
  · intro hdrops
    have hkept : keptWords spelling.toList = keptWords other.toList := by
      simp only [keptWords, hdrops, hwords]
    exact String.toList_injective (by rw [toList_bareName, toList_bareName, hkept])

/-- The first blank behind a text decides whether a `const` with a space begins it. -/
theorem const_isPrefix_append_iff {b : Char} (hb : isBlank b) :
    "const ".toList <+: left ++ b :: right ↔
      "const ".toList <+: left ∨ left = "const".toList ∧ b = ' ' := by
  constructor
  · intro h
    have hsix : "const ".toList.length = 6 := rfl
    by_cases hlength : 6 ≤ left.length
    case pos => exact .inl (List.prefix_of_prefix_length_le h (List.prefix_append _ _) hlength)
    case neg =>
      right
      have hconst := isBlank_eq_false_of_mem_const
      have hbegin : left <+: "const".toList ++ [' '] :=
        List.prefix_of_prefix_length_le (List.prefix_append _ _) h (le_of_not_ge hlength)
      have hleft : left <+: "const".toList := by
        refine (List.prefix_concat_iff.1 hbegin).resolve_left ?_
        rintro rfl
        exact hlength (by decide)
      obtain ⟨behind, hcut⟩ := h
      have hcut : "const".toList ++ ' ' :: behind = left ++ b :: right := hcut
      obtain ⟨hword, hspace, -⟩ := append_cons_inj_of_run (p := (!isBlank ·))
        (by simpa using hconst) (by simpa using fun c hc ↦ hconst c (hleft.subset hc)) (by decide)
        (by simpa using hb) hcut
      exact ⟨hword.symm, hspace.symm⟩
  · rintro (h | ⟨rfl, rfl⟩)
    · exact h.trans (List.prefix_append _ _)
    · exact ⟨right, rfl⟩

/-- Behind a text that is not blank and in front of another one, blanks are left by a trim. -/
theorem trim_append_append (hleft : ∃ c ∈ left, isBlank c = false)
    (hright : ∃ c ∈ right, isBlank c = false) (blanks : List Char) :
    trim (left ++ blanks ++ right) = trimLeft left ++ blanks ++ trimRight right := by
  have hkept : (trimLeft left).isEmpty = false := by
    obtain ⟨c, hmem, hc⟩ := hleft
    rw [List.isEmpty_eq_false_iff, trimLeft, Ne, List.dropWhile_eq_nil_iff]
    exact fun hall ↦ Bool.false_ne_true (hc.symm.trans (hall c hmem))
  rw [trim, trimLeft, List.append_assoc, List.dropWhile_append, ← trimLeft, hkept,
    if_neg Bool.false_ne_true, ← List.append_assoc]
  exact dropEndWhile_append_of_exists hright _

/-- Between two texts that are not blank, the first of some blanks decides whether a `const` is
dropped if it stands right behind one. -/
theorem dropsConst_append_iff (hleft : ∃ c ∈ left, isBlank c = false)
    (hright : ∃ c ∈ right, isBlank c = false) (hblanks : ∀ c ∈ blanks, isBlank c)
    (hne : blanks ≠ []) :
    DropsConst (left ++ blanks ++ right) ↔
      "const ".toList <+: trimLeft left ∨
        trimLeft left = "const".toList ∧ blanks.head? = some ' ' := by
  obtain ⟨b, blanks, rfl⟩ := List.exists_cons_of_ne_nil hne
  have hb : isBlank b := hblanks b List.mem_cons_self
  rw [DropsConst, trim_append_append hleft hright, List.append_assoc, List.cons_append,
    const_isPrefix_append_iff hb, List.head?_cons, Option.some_inj]

/-- Blanks in place of others change whether a `const` is dropped exactly where they stand right
behind it, with something else behind them. -/
theorem dropsConst_congr_iff (hblanks : ∀ c ∈ blanks, isBlank c) (hne : blanks ≠ [])
    (hblanks' : ∀ c ∈ blanks', isBlank c) (hne' : blanks' ≠ []) :
    (DropsConst (left ++ blanks ++ right) ↔ DropsConst (left ++ blanks' ++ right)) ↔
      (trimLeft left = "const".toList → (∃ c ∈ right, isBlank c = false) →
        (blanks.head? = some ' ' ↔ blanks'.head? = some ' ')) := by
  by_cases hleft : ∃ c ∈ left, isBlank c = false
  case neg =>
    have hleft : ∀ c ∈ left, isBlank c := by simpa using hleft
    have htrim : ∀ {run : List Char}, (∀ c ∈ run, isBlank c) →
        trim (left ++ run ++ right) = trim right :=
      fun hrun ↦ trim_left_blanks (List.forall_mem_append.2 ⟨hleft, hrun⟩) right
    rw [DropsConst, DropsConst, htrim hblanks, htrim hblanks']
    refine iff_of_true Iff.rfl fun h ↦ ?_
    rw [trimLeft, List.dropWhile_eq_nil_iff.2 hleft] at h
    cases h
  case pos =>
    by_cases hright : ∃ c ∈ right, isBlank c = false
    case neg =>
      have hright' : ∀ c ∈ right, isBlank c := by simpa using hright
      have htrim : ∀ {run : List Char}, (∀ c ∈ run, isBlank c) →
          trim (left ++ run ++ right) = trim left := by
        intro run hrun
        rw [List.append_assoc]
        exact trim_right_blanks (List.forall_mem_append.2 ⟨hrun, hright'⟩) left
      rw [DropsConst, DropsConst, htrim hblanks, htrim hblanks']
      exact iff_of_true Iff.rfl fun _ h ↦ absurd h hright
    case pos =>
      rw [dropsConst_append_iff hleft hright hblanks hne,
        dropsConst_append_iff hleft hright hblanks' hne']
      by_cases hword : trimLeft left = "const".toList
      case neg => simp only [hword, false_and, or_false, IsEmpty.forall_iff]
      case pos =>
        have hnoprefix : ¬ "const ".toList <+: "const".toList := by decide
        simp only [hword, hnoprefix, hright, false_or, true_and, forall_const]

/-- **How far a bare name is a normal form.** Its words stand one space apart and no mark ends it.
It begins with `const`, and has another bare name itself, exactly if a `const` stays in front of the
spelling. And a run of blanks within the spelling can be replaced by any other without changing the
bare name, except right behind a leading `const` with more behind it: there both runs have to begin
with a space, or neither. -/
theorem bareName_normal_iff (spelling : String) :
    IsReduced (bareName spelling).toList ∧
    ("const ".toList <+: (bareName spelling).toList ↔ KeepsConst spelling.toList) ∧
    (bareName (bareName spelling) = bareName spelling ↔ ¬ KeepsConst spelling.toList) ∧
    ∀ left blanks blanks' right : List Char, spelling.toList = left ++ blanks ++ right →
      blanks ≠ [] → (∀ c ∈ blanks, isBlank c) → blanks' ≠ [] → (∀ c ∈ blanks', isBlank c) →
      (bareName (String.ofList (left ++ blanks' ++ right)) = bareName spelling ↔
        (trimLeft left = "const".toList → (∃ c ∈ right, isBlank c = false) →
          (blanks'.head? = some ' ' ↔ blanks.head? = some ' '))) := by
  refine ⟨isReduced_bareName spelling, const_isPrefix_bareName_iff, bareName_bareName_iff, ?_⟩
  intro left blanks blanks' right hspelling hne hblanks hne' hblanks'
  have hwords :
      words (String.ofList (left ++ blanks' ++ right)).toList = words spelling.toList := by
    rw [hspelling, String.toList_ofList, words_append_blanks_append hblanks hne,
      words_append_blanks_append hblanks' hne']
  rw [bareName_eq_iff_of_words_eq hwords, hspelling, String.toList_ofList]
  exact dropsConst_congr_iff hblanks' hne' hblanks hne

/-- A `const` with a tab behind it stays, and goes once the tab is a space. -/
theorem bareName_normal_iff_tab :
    bareName "const\tQString &" = "const QString" ∧
      bareName "const QString &" ≠ bareName "const\tQString &" := by
  have htab : ∀ c ∈ ['\t'], isBlank c := List.forall_mem_singleton.2 (by decide)
  have hspace : ∀ c ∈ [' '], isBlank c := List.forall_mem_singleton.2 (by decide)
  refine ⟨by decide, fun h ↦ ?_⟩
  have hiff := (bareName_normal_iff "const\tQString &").2.2.2 "const".toList ['\t'] [' ']
    "QString &".toList (by decide) (by decide) htab (by decide) hspace
  have hspaces := hiff.1 h (by decide) ⟨'Q', by decide, by decide⟩
  exact absurd hspaces (by decide)

/-- So bare names are no normal forms: one may begin with `const`, need not be its own bare name,
and depends on the blanks of the spelling. -/
theorem bareName_not_normal :
    (¬ ∀ spelling, ¬ "const ".toList <+: (bareName spelling).toList) ∧
    (¬ ∀ spelling, bareName (bareName spelling) = bareName spelling) ∧
    ¬ ∀ left blanks blanks' right : List Char, blanks ≠ [] → (∀ c ∈ blanks, isBlank c) →
      blanks' ≠ [] → (∀ c ∈ blanks', isBlank c) →
      bareName (String.ofList (left ++ blanks' ++ right)) =
        bareName (String.ofList (left ++ blanks ++ right)) := by
  have hblank : ∀ c ∈ ['\t'], isBlank c := List.forall_mem_singleton.2 (by decide)
  have hblank' : ∀ c ∈ [' '], isBlank c := List.forall_mem_singleton.2 (by decide)
  have htab : bareName "const\tQString" = "const QString" := by decide
  have hspace : bareName "const QString" = "QString" := by decide
  refine ⟨fun h ↦ h "const\tQString" ?_, fun h ↦ ?_, fun h ↦ ?_⟩
  · rw [htab]
    decide
  · have hsame := h "const\tQString"
    rw [htab, hspace] at hsame
    exact absurd hsame (by decide)
  · have hsame := h "const".toList ['\t'] [' '] "QString".toList (by decide) hblank (by decide)
      hblank'
    have hsame : bareName "const QString" = bareName "const\tQString" := hsame
    rw [htab, hspace] at hsame
    exact absurd hsame (by decide)

end BindingGlue.Types
