import BindingGlue.Batch.Header
import BindingGlue.Proofs.Signature.Shape

/-!
# The grammar of headers, decided

What the first line of a batch may say, without the reader: the two slashes, a keyword with its
colon, and a class name, with blanks in between and nothing after the name (`Header.Fits`).
`Header.read?` decides it on every line that does not end in a blank (`Header.read?_eq_some_iff`);
the lines of a batch are trimmed, so this is every line that it is asked about.
-/

namespace BindingGlue

open Text Signature

variable {header : Header} {line : String} {mode : Mode} {s rest : List Char}

/-- The keyword that selects a mode. -/
def Mode.keyword : Mode → String
  | operation => "CLASS"
  | property => "PROP"

namespace Header

/-- A line that reads as the header. -/
def Fits (header : Header) (line : List Char) : Prop :=
  ∃ blanks₁ blanks₂,
    line = "//".toList ++ blanks₁ ++ header.mode.keyword.toList ++ ':' :: blanks₂ ++
      header.className.toList ∧
    IsBlanks blanks₁ ∧ IsBlanks blanks₂ ∧ IsName header.className.toList

theorem takeMode?_eq_some_iff :
    takeMode? s = some (mode, rest) ↔ s = mode.keyword.toList ++ ':' :: rest := by
  constructor
  · intro h
    rw [takeMode?] at h
    split at h
    case h_1 left hclass =>
      obtain ⟨rfl, rfl⟩ := Prod.mk.inj (Option.some.inj h)
      exact (List.isPrefixOf?_eq_some_iff_append_eq.1 hclass).symm
    case h_2 =>
      obtain ⟨left, hprop, heq⟩ := Option.map_eq_some_iff.1 h
      obtain ⟨rfl, rfl⟩ := Prod.mk.inj heq
      exact (List.isPrefixOf?_eq_some_iff_append_eq.1 hprop).symm
  · rintro rfl
    cases mode <;> rfl

/-- Blanks in front of a name are all that trimming drops. -/
theorem trim_append_of_isName {blanks name : List Char} (hblanks : IsBlanks blanks)
    (hname : IsName name) : trim (blanks ++ name) = name := by
  have hblank : ∀ c ∈ name, isBlank c = false :=
    fun c hc ↦ isBlank_eq_false_of_isWord (hname.isWord_of_mem hc)
  rw [trim_left_blanks hblanks]
  exact trim_eq_self (fun c hc ↦ hblank c (List.mem_of_mem_head? hc))
    fun c hc ↦ hblank c (List.mem_of_getLast? hc)

/-- Trimming the end of a line that does not end in a blank drops nothing. -/
theorem eq_append_trim_of_last (front s : List Char)
    (hlast : ∀ run c, front ++ s = run ++ [c] → isBlank c = false) :
    ∃ blanks, IsBlanks blanks ∧ s = blanks ++ trim s := by
  obtain ⟨blanks, tail, hblanks, htail, hs⟩ := exists_append_trim_append s
  refine ⟨blanks, hblanks, ?_⟩
  rcases List.eq_nil_or_concat' tail with rfl | ⟨run, c, rfl⟩
  · rwa [List.append_nil] at hs
  · have hc := hlast (front ++ (blanks ++ trim s ++ run)) c (by
      rw [List.append_assoc front, List.append_assoc _ run, ← hs])
    exact absurd (htail c (by simp)) (by simp [hc])

/-- A line that does not end in a blank is read as the header that it fits. -/
theorem read?_eq_some_iff (hlast : ∀ run c, line.toList = run ++ [c] → isBlank c = false) :
    read? line = some header ↔ header.Fits line.toList := by
  constructor
  · intro h
    simp only [read?, Option.bind_eq_bind, Option.bind_eq_some_iff,
      List.isPrefixOf?_eq_some_iff_append_eq, Prod.exists] at h
    obtain ⟨s, hline, mode, rest, hmode, hname⟩ := h
    obtain ⟨blanks₁, h₁, hs⟩ := exists_append_trimLeft s
    rw [takeMode?_eq_some_iff] at hmode
    rw [← hline, hs, hmode] at hlast ⊢
    split at hname
    case h_1 => cases hname
    case h_2 c cs htrim =>
      split at hname
      case isFalse => cases hname
      case isTrue hc =>
        rw [Bool.and_eq_true, List.all_eq_true] at hc
        obtain rfl := Option.some.inj hname
        obtain ⟨blanks₂, h₂, hrest⟩ := eq_append_trim_of_last
          ("//".toList ++ blanks₁ ++ mode.keyword.toList ++ [':']) rest
          (fun run d heq ↦ hlast run d (by rw [← heq]; simp))
        refine ⟨blanks₁, blanks₂, ?_, h₁, h₂, c, cs, by simp [htrim], hc.1, hc.2⟩
        simp only [String.toList_ofList, List.append_assoc, List.cons_append]
        rw [← hrest]
  · rintro ⟨blanks₁, blanks₂, hline, h₁, h₂, hname⟩
    have hkeyword : ∀ c ∈ (header.mode.keyword.toList ++ ':' :: (blanks₂ ++
        header.className.toList)).head?, isBlank c = false := by
      intro c hc
      cases hmode : header.mode <;> rw [hmode] at hc
      · obtain rfl : 'C' = c := by simpa [Mode.keyword] using hc
        decide
      · obtain rfl : 'P' = c := by simpa [Mode.keyword] using hc
        decide
    have htrim := trim_append_of_isName h₂ hname
    obtain ⟨c, cs, heq, hc, hcs⟩ := hname
    have hsplit : line.toList = "//".toList ++ (blanks₁ ++ (header.mode.keyword.toList ++
        ':' :: (blanks₂ ++ header.className.toList))) := by
      rw [hline]
      simp
    have hall : (isNameStart c && cs.all isWord) = true := by
      rw [Bool.and_eq_true, List.all_eq_true]
      exact ⟨hc, hcs⟩
    simp only [read?, hsplit, List.isPrefixOf?_eq_some_iff_append_eq.2 rfl, Option.bind_eq_bind,
      Option.bind_some, trimLeft_append_of_head? h₁ hkeyword, takeMode?_eq_some_iff.2 rfl, htrim]
    simp only [heq, hall, if_true]
    rw [← heq, String.ofList_toList]

/-- A line fits at most one header. -/
theorem Fits.unique {other : Header} (hlast : ∀ run c, line.toList = run ++ [c] → isBlank c = false)
    (h : header.Fits line.toList) (h' : other.Fits line.toList) : header = other :=
  Option.some.inj (((read?_eq_some_iff hlast).2 h).symm.trans ((read?_eq_some_iff hlast).2 h'))

end Header

end BindingGlue
