import BindingGlue.Proofs.Fragments.Faults
import BindingGlue.Proofs.Types.Extension

/-!
# Lists and their elements

A standard list takes its typed name and its wrapper class from its element when the vocabulary is
written down (`Vocabulary.isListOf_objectList`). Both fragments of a method that returns the list
look the element up again, in the catalogue at hand. So the two descriptions of the element agree
as long as nobody replaces it: an extended catalogue keeps a list in step with its element exactly
if the entry that replaces the element, if there is one, keeps the typed name and the wrapper class
(`Catalogue.isListOf_iff`), and the declared result of the typed method is a list of what its
callback constructs exactly if that entry keeps the typed name.
-/

namespace BindingGlue

variable {generator : Generator} {signature : Signature} {extra : List TypeEntry}
  {list element : TypeEntry} {name : String}

/-- The list is described after the element: it has the typed name of the element with brackets
behind it, and the element's wrapper class. -/
def TypeEntry.IsListOf (list element : TypeEntry) : Prop :=
  list.typedName = element.typedName ++ "[]" ∧ list.wrapClass = element.wrapClass

theorem Vocabulary.isListOf_objectList (name : String) (element : TypeEntry) :
    (objectList name element).IsListOf element :=
  ⟨rfl, rfl⟩

namespace Catalogue

/-- A standard list is one of value objects, which its element name stands for. -/
theorem standard_lists :
    ∀ list ∈ standard.results, list.packing = .objectList → ∃ name ∈ ["QModelIndex", "QRect"],
      list = Vocabulary.objectList list.name (Vocabulary.valueObject name) ∧
        lastNamed? standard.results name = some (Vocabulary.valueObject name) := by
  decide

/-- Entries that are no lists leave the lists of an extended catalogue to the standard ones. -/
theorem mem_standard_of_packing (hextra : ∀ entry ∈ extra, entry.packing ≠ .objectList)
    (hmem : list ∈ (extended extra).results) (hlist : list.packing = .objectList) :
    list ∈ standard.results := by
  rcases List.mem_cons.1 hmem with rfl | hmem
  · exact List.mem_cons_self
  · rcases List.mem_append.1 (mem_of_mem_withoutReplaced hmem) with hmem | hmem
    · exact List.mem_cons_of_mem _ hmem
    · exact absurd hlist (hextra list hmem)

/-- A list of an extended catalogue has an element: the last further entry of its name, or else the
value object of the standard vocabulary. -/
theorem exists_element_of_extended (hextra : ∀ entry ∈ extra, entry.packing ≠ .objectList)
    (hmem : list ∈ (extended extra).results) (hlist : list.packing = .objectList) :
    ∃ name, list.IsListOf (Vocabulary.valueObject name) ∧ list.element = some name ∧
      (extended extra).elementType? list =
        some ((lastNamed? extra name).getD (Vocabulary.valueObject name)) := by
  obtain ⟨name, -, heq, hfound⟩ :=
    standard_lists list (mem_standard_of_packing hextra hmem hlist) hlist
  have helement : list.element = some name := by
    rw [heq]
    rfl
  refine ⟨name, ?_, helement, ?_⟩
  · rw [heq]
    exact Vocabulary.isListOf_objectList _ _
  · rw [elementType?, helement, Option.bind_some, lastNamed?_results_extended, hfound]
    cases lastNamed? extra name with
    | none => rfl
    | some entry => rfl

/-- A list of value objects has the typed name of what took their place exactly if that has
theirs. -/
theorem typedName_eq_iff (h : list.IsListOf (Vocabulary.valueObject name))
    (replacement : Option TypeEntry) :
    list.typedName =
        (replacement.getD (Vocabulary.valueObject name)).typedName ++ "[]" ↔
      ∀ entry ∈ replacement, entry.typedName = name := by
  rw [h.1, String.append_left_inj]
  cases replacement with
  | none => simp
  | some entry =>
    simp only [Option.getD_some, Option.mem_some_iff, forall_eq']
    exact eq_comm

/-- It is a list of what took their place exactly if that has their wrapper class as well. -/
theorem isListOf_iff (h : list.IsListOf (Vocabulary.valueObject name))
    (replacement : Option TypeEntry) :
    list.IsListOf (replacement.getD (Vocabulary.valueObject name)) ↔
      ∀ entry ∈ replacement, entry.typedName = name ∧ entry.wrapClass = some (name ++ "Wrap") := by
  rw [TypeEntry.IsListOf, typedName_eq_iff h, h.2]
  cases replacement with
  | none => simp
  | some entry =>
    simp only [Option.getD_some, Option.mem_some_iff, forall_eq']
    exact and_congr_right fun _ ↦ eq_comm

end Catalogue

namespace Typed

/-- The typed method of a method that returns a list: its callback constructs the element. -/
theorem method_of_elementType? (hpacking : signature.resultType.packing = .objectList)
    (helement : generator.catalogue.elementType? signature.resultType = some element) :
    method generator signature = .ok (layout (Typed.name generator.options signature.name)
      signature.arguments signature.resultType.typedName
      ("return " ++ nativeCall generator.options signature ++ ".map((item: any) => new " ++
        element.typedName ++ "(item));")) := by
  simp only [method, statement, hpacking, Generator.element, helement]
  rfl

end Typed

namespace Catalogue

/-- **When a list follows its element.** Let further entries hold no list. Then every list of the
extended catalogue has an element in it. The list is described after that element exactly if the
last further entry of the element's name, if there is one, keeps the typed name and the wrapper
class that the element had. And the typed method of every line that returns the list constructs what
the element is now, while it declares what the element was: the two are the same exactly if that
entry keeps the typed name. -/
theorem lists_follow_iff (extra : List TypeEntry)
    (hextra : ∀ entry ∈ extra, entry.packing ≠ .objectList) :
    (∀ list ∈ (extended extra).results, list.packing = .objectList →
      ∃ name element, list.element = some name ∧
        (extended extra).elementType? list = some element ∧
        (list.IsListOf element ↔ ∀ entry, lastNamed? extra name = some entry →
          entry.typedName = name ∧ entry.wrapClass = some (name ++ "Wrap"))) ∧
    ∀ (engine : Template.Engine) (options : Options) (shelf : Template.Shelf) (line : String)
      (signature : Signature), Signature.read (extended extra) line = .ok signature →
      signature.resultType.packing = .objectList →
      ∃ name element, signature.resultType.element = some name ∧
        (extended extra).elementType? signature.resultType = some element ∧
        Typed.method { engine, options, catalogue := extended extra, shelf } signature =
          .ok (Typed.layout (Typed.name options signature.name) signature.arguments
            signature.resultType.typedName
            ("return " ++ Typed.nativeCall options signature ++ ".map((item: any) => new " ++
              element.typedName ++ "(item));")) ∧
        (signature.resultType.typedName = element.typedName ++ "[]" ↔
          ∀ entry, lastNamed? extra name = some entry → entry.typedName = name) := by
  refine ⟨fun list hmem hlist ↦ ?_, fun engine options shelf line signature hread hlist ↦ ?_⟩
  · obtain ⟨name, hof, hname, helement⟩ := exists_element_of_extended hextra hmem hlist
    exact ⟨name, _, hname, helement, isListOf_iff hof _⟩
  · obtain ⟨name, hof, hname, helement⟩ := exists_element_of_extended hextra
      (Signature.resultType_mem_of_read hread) hlist
    exact ⟨name, _, hname, helement, Typed.method_of_elementType? hlist helement,
      typedName_eq_iff hof _⟩

/-- A model index under another name on the typed surface. -/
def renamedIndex : TypeEntry :=
  { Vocabulary.valueObject "QModelIndex" with typedName := "Index", wrapClass := some "IndexWrap" }

/-- The list looks its element up under its old name. -/
theorem elementType?_renamedIndex :
    (extended [renamedIndex]).elementType?
      (Vocabulary.objectList "QModelIndexList" (Vocabulary.valueObject "QModelIndex")) =
        some renamedIndex := by
  decide

/-- Where the element is renamed, the method declares a list of the old class and constructs the new
one. -/
theorem lists_follow_iff_renamedIndex :
    (∀ entry ∈ [renamedIndex], entry.packing ≠ .objectList) ∧
    ∃ signature,
      Signature.read (extended [renamedIndex]) "// TODO: QModelIndexList rows();" = .ok signature ∧
      signature.resultType.packing = .objectList ∧
      Typed.method { engine := Interpreter.engine, catalogue := extended [renamedIndex] }
        signature = .ok ("    rows(): QModelIndex[] \x7b\n" ++
          "        return this.native.rows().map((item: any) => new Index(item));\n" ++
          "    \x7d\n") ∧
      signature.resultType.typedName ≠ renamedIndex.typedName ++ "[]" := by
  have hextra : ∀ entry ∈ [renamedIndex], entry.packing ≠ .objectList := by decide
  have hread : Signature.read (extended [renamedIndex]) "// TODO: QModelIndexList rows();" = .ok {
      name := "rows"
      resultType := Vocabulary.objectList "QModelIndexList" (Vocabulary.valueObject "QModelIndex")
      line := "// TODO: QModelIndexList rows();" } := by
    decide
  obtain ⟨name, element, hname, helement, hmethod, hiff⟩ :=
    (lists_follow_iff [renamedIndex] hextra).2 _ {} [] _ _ hread rfl
  obtain rfl : "QModelIndex" = name := Option.some.inj hname
  obtain rfl := Option.some.inj (elementType?_renamedIndex.symm.trans helement)
  refine ⟨hextra, _, hread, rfl, hmethod.trans ?_, fun hsame ↦ ?_⟩
  · decide
  · have hlast : lastNamed? [renamedIndex] "QModelIndex" = some renamedIndex := by decide
    exact absurd (hiff.1 hsame _ hlast) (by decide)

/-- A list does not follow an element that is replaced by one of another name. -/
theorem lists_part_renamedIndex :
    ¬ ∀ extra : List TypeEntry, (∀ entry ∈ extra, entry.packing ≠ .objectList) →
      ∀ list ∈ (extended extra).results, list.packing = .objectList →
        ∃ element, (extended extra).elementType? list = some element ∧
          list.typedName = element.typedName ++ "[]" ∧ list.wrapClass = element.wrapClass := by
  intro h
  have hmem : Vocabulary.objectList "QModelIndexList" (Vocabulary.valueObject "QModelIndex") ∈
      (extended [renamedIndex]).results := by
    decide
  obtain ⟨element, helement, htyped, -⟩ := h [renamedIndex] (by decide) _ hmem rfl
  obtain rfl := Option.some.inj (elementType?_renamedIndex.symm.trans helement)
  exact absurd htyped (by decide)

end Catalogue

end BindingGlue
