import Mathlib.Data.List.Nodup
import Mathlib.Data.List.Perm.Basic
import BindingGlue.Proofs.Fragments.Declarations

/-!
# The names that a native body declares

A native body declares a name for its parameter, two at its opening, one for each argument, those of
the helpers that some arguments are taken out with, and those of the result
(`Native.declaredNames`), in this order and no others (`Native.exists_declaresInOrder_body`). The
reader of signatures only sees to it that the arguments differ among themselves, so whether all
names differ depends on the signature (`Native.body_names_distinct_iff`).

A helper is named for its argument with a suffix behind. The last two characters tell the suffixes
apart and are the end of no name that is always the same (`ending`), so helpers only ever clash with
arguments.
-/

namespace BindingGlue.Native

open Text

variable {generator : Generator} {className line name suffix : String} {signature : Signature}
  {argument : Argument} {arguments : List Argument} {type : TypeEntry} {lines : List String}

/-! ### The names -/

/-- What the helpers that an argument is taken out with have behind its name. -/
def helperSuffixes : Category → List String
  | .string => ["NapiText"]
  | .object => ["Object", "Wrap"]
  | .void | .boolean | .signedInteger | .unsignedInteger | .floatingPoint | .enumeration => []

/-- The names of the helpers that an argument is taken out with. -/
def helperNames (argument : Argument) : List String :=
  (helperSuffixes argument.type.category).map (argument.name ++ ·)

/-- The names that are declared to hand a result back. -/
def packingNames : Packing → List String
  | .ownedObject => ["resultInstance"]
  | .objectList => ["resultArrayNapi"]
  | .nothing | .numeric | .boolean | .string | .passThroughObject => []

/-- The names of the result. -/
def resultNames (signature : Signature) : List String :=
  (if signature.hasResult then ["result"] else []) ++ packingNames signature.resultType.packing

/-- The names that the outermost block of a native body declares. -/
def blockNames (signature : Signature) : List String :=
  ["env", "scope"] ++
    signature.arguments.flatMap (fun argument ↦ helperNames argument ++ [argument.name]) ++
    resultNames signature

/-- These names, and the one of the parameter in front of them. -/
def declaredNames (signature : Signature) : List String :=
  "info" :: blockNames signature

/-- The line at the head of a native body. -/
def head (generator : Generator) (className : String) (signature : Signature) : String :=
  "Napi::Value " ++ generator.options.wrapperName className ++ "::" ++ signature.name ++
    "(const Napi::CallbackInfo& info) \x7b"

/-! ### The lines that declare them -/

theorem declares_of_eq (type : String) {value : String}
    (htype : TakesMarksFrom generator.bodyTexts type) (hname : ∀ c ∈ name.toList, isWord c)
    (hvalue : TakesMarksFrom generator.bodyTexts value)
    (h : line = type ++ " " ++ name ++ " = " ++ value ++ ";") :
    Declares generator name ("  " ++ line) :=
  h ▸ .variable type name value htype hname hvalue

/-- The opening of a body declares the environment and the scope, and refuses other numbers of
arguments in a block. -/
theorem declaresInOrder_opening {argc : String} (hargc : '\n' ∉ argc.toList) :
    DeclaresInOrder generator ["env", "scope"] [
      "  Napi::Env env = info.Env();",
      "  Napi::HandleScope scope(env);",
      "",
      "  if (info.Length() != " ++ argc ++ ") \x7b",
      "    Napi::TypeError::New(env, \"Wrong number of arguments\")",
      "        .ThrowAsJavaScriptException();",
      "    return env.Null();",
      "  \x7d"] := by
  have henvironment : Declares generator "env" "  Napi::Env env = info.Env();" :=
    .variable "Napi::Env" "env" "info.Env()" (takesMarksFrom_of_all (by decide))
      (by simp [isWord]) (takesMarksFrom_of_all (by decide))
  have hopening : IsOpening ("  if (info.Length() != " ++ argc ++ ") \x7b") :=
    ⟨by simp [List.getLast?_cons], by simp [hargc]⟩
  have hinner : ∀ line ∈ [
      "    Napi::TypeError::New(env, \"Wrong number of arguments\")",
      "        .ThrowAsJavaScriptException();",
      "    return env.Null();"], IsInner generator line := by
    intro line hline
    simp only [List.mem_cons, List.not_mem_nil, or_false] at hline
    rcases hline with rfl | rfl | rfl
    all_goals exact ⟨by decide, by decide, by decide, fun h ↦ absurd h (by decide)⟩
  exact .declares henvironment <| .declares .scope <| .silent .empty <|
    .block _ hopening hinner .nil

/-- The lines that take an argument out declare its helpers and then its variable. -/
theorem declaresInOrder_extraction {index : Nat}
    (htype : argument.type ∈ generator.catalogue.results)
    (hname : ∀ c ∈ argument.name.toList, isWord c)
    (h : extraction argument index = .ok lines) :
    DeclaresInOrder generator (helperNames argument ++ [argument.name])
      (lines.map ("  " ++ ·)) := by
  obtain ⟨hnative, hbase, hwrap, haccessor⟩ := takesMarksFrom_of_mem_results htype
  have hmarks : TakesMarksFrom generator.bodyTexts argument.name := takesMarksFrom_of_isWord hname
  have hhelper : ∀ suffix : String, (∀ c ∈ suffix.toList, isWord c) →
      ∀ c ∈ (argument.name ++ suffix).toList, isWord c := by
    intro suffix hsuffix
    rw [String.toList_append, List.forall_mem_append]
    exact ⟨hname, hsuffix⟩
  have hslot : TakesMarksFrom generator.bodyTexts ("info[" ++ index.repr ++ "]") := by
    simp +decide [takesMarksFrom_of_all, takesMarksFrom_of_isWord isWord_of_mem_repr]
  rw [helperNames]
  simp only [extraction] at h
  generalize "info[" ++ index.repr ++ "]" = slot at h hslot
  cases hcategory : argument.type.category with
  | void =>
    simp only [hcategory] at h
    cases h
  | boolean =>
    simp only [hcategory, Except.ok.injEq] at h
    subst h
    have hvalue : TakesMarksFrom generator.bodyTexts (slot ++ ".As<Napi::Boolean>().Value()") := by
      simp +decide [hslot, takesMarksFrom_of_all]
    refine .declares (declares_of_eq _ hnative hname hvalue ?_) .nil
    rw [← String.toList_inj]
    simp
  | signedInteger | unsignedInteger | floatingPoint =>
    simp only [hcategory, Except.ok.injEq] at h
    subst h
    have hvalue : TakesMarksFrom generator.bodyTexts
        (slot ++ ".As<Napi::Number>()." ++ argument.type.accessorText ++ "()") := by
      simp +decide [hslot, haccessor, takesMarksFrom_of_all]
    refine .declares (declares_of_eq _ hnative hname hvalue ?_) .nil
    rw [← String.toList_inj]
    simp
  | enumeration =>
    simp only [hcategory, Except.ok.injEq] at h
    subst h
    have hvalue : TakesMarksFrom generator.bodyTexts
        ("static_cast<" ++ argument.type.nativeSpelling ++ ">(" ++ slot ++
          ".As<Napi::Number>()." ++ argument.type.accessorText ++ "())") := by
      simp +decide [hslot, hnative, haccessor, takesMarksFrom_of_all]
    refine .declares (declares_of_eq _ hnative hname hvalue ?_) .nil
    rw [← String.toList_inj]
    simp
  | string =>
    simp only [hcategory, Except.ok.injEq] at h
    subst h
    have htext : TakesMarksFrom generator.bodyTexts
        (slot ++ ".As<Napi::String>().Utf8Value()") := by
      simp +decide [hslot, takesMarksFrom_of_all]
    have hvalue : TakesMarksFrom generator.bodyTexts
        (argument.type.nativeSpelling ++ "::fromStdString(" ++ argument.name ++ "NapiText)") := by
      simp +decide [hnative, hmarks, takesMarksFrom_of_all]
    refine .declares (declares_of_eq "std::string" (takesMarksFrom_of_all (by decide))
        (hhelper "NapiText" (by simp [isWord])) htext ?_) <|
      .declares (declares_of_eq _ hnative hname hvalue ?_) .nil
    all_goals
      rw [← String.toList_inj]
      simp
  | object =>
    simp only [hcategory, Except.ok.injEq] at h
    subst h
    have hpointer : ∀ {type : String}, TakesMarksFrom generator.bodyTexts type →
        TakesMarksFrom generator.bodyTexts (type ++ "*") := by
      intro type htype
      simp +decide [htype, takesMarksFrom_of_all]
    have hobject : TakesMarksFrom generator.bodyTexts (slot ++ ".As<Napi::Object>()") := by
      simp +decide [hslot, takesMarksFrom_of_all]
    have hunwrap : TakesMarksFrom generator.bodyTexts ("Napi::ObjectWrap<" ++
        argument.type.wrapText ++ ">::Unwrap(" ++ argument.name ++ "Object)") := by
      simp +decide [hwrap, hmarks, takesMarksFrom_of_all]
    have hvalue : TakesMarksFrom generator.bodyTexts
        (argument.name ++ "Wrap->getInternalInstance()") := by
      simp +decide [hmarks, takesMarksFrom_of_all]
    refine .declares (declares_of_eq "Napi::Object" (takesMarksFrom_of_all (by decide))
        (hhelper "Object" (by simp [isWord])) hobject ?_) <|
      .declares (declares_of_eq _ (hpointer hwrap) (hhelper "Wrap" (by simp [isWord]))
        hunwrap ?_) <|
      .declares (declares_of_eq _ (hpointer hbase) hname hvalue ?_) .nil
    all_goals
      rw [← String.toList_inj]
      simp

theorem declaresInOrder_extractions {index : Nat}
    (h : ∀ argument ∈ arguments, argument.type ∈ generator.catalogue.results ∧
      ∀ c ∈ argument.name.toList, isWord c)
    (hlines : extractions index arguments = .ok lines) :
    DeclaresInOrder generator
      (arguments.flatMap fun argument ↦ helperNames argument ++ [argument.name])
      (lines.map ("  " ++ ·)) := by
  induction arguments generalizing index lines with
  | nil =>
    obtain rfl := Except.ok.inj hlines
    exact .nil
  | cons argument arguments ih =>
    rw [List.forall_mem_cons] at h
    obtain ⟨first, others, hfirst, hothers, rfl⟩ := extractions_cons_eq_ok_iff.1 hlines
    rw [List.flatMap_cons, List.map_append]
    exact (declaresInOrder_extraction h.1.1 h.1.2 hfirst).append (ih h.2 hothers)

/-- A call declares its result if there is one. -/
theorem declaresInOrder_invocation (hname : ∀ c ∈ signature.name.toList, isWord c)
    (hresult : signature.resultType ∈ generator.catalogue.results)
    (harguments : ∀ argument ∈ signature.arguments, ∀ c ∈ argument.name.toList, isWord c) :
    DeclaresInOrder generator (if signature.hasResult then ["result"] else [])
      ["  " ++ invocation generator.options signature] := by
  have hmethod : TakesMarksFrom generator.bodyTexts signature.name := takesMarksFrom_of_isWord hname
  have hlist : TakesMarksFrom generator.bodyTexts
      (", ".intercalate (signature.arguments.map callArgument)) := by
    refine takesMarksFrom_intercalate (takesMarksFrom_of_all (by decide)) fun piece hpiece ↦ ?_
    obtain ⟨argument, hargument, rfl⟩ := List.mem_map.1 hpiece
    have hmarks : TakesMarksFrom generator.bodyTexts argument.name :=
      takesMarksFrom_of_isWord (harguments argument hargument)
    rw [callArgument]
    split
    · simp +decide [hmarks, takesMarksFrom_of_all]
    · exact hmarks
  have hreceiver : TakesMarksFrom generator.bodyTexts generator.options.nativeInstance :=
    takesMarksFrom_of_mem (by simp [Generator.bodyTexts])
  rw [invocation]
  generalize ", ".intercalate (signature.arguments.map callArgument) = list at hlist ⊢
  split
  case isTrue =>
    have hvalue : TakesMarksFrom generator.bodyTexts
        (generator.options.nativeInstance ++ "->" ++ signature.name ++ "(" ++ list ++ ")") := by
      simp +decide [hreceiver, hmethod, hlist, takesMarksFrom_of_all]
    refine .declares (declares_of_eq _ (takesMarksFrom_of_mem_results hresult).1 (by simp [isWord])
      hvalue ?_) .nil
    rw [← String.toList_inj]
    simp
  case isFalse => exact .silent (.call _ _ hmethod hlist) .nil

/-- The lines that hand a result back declare what they build, if they build anything. -/
theorem declaresInOrder_packing (htype : type ∈ generator.catalogue.results)
    (h : packing generator type = .ok lines) :
    DeclaresInOrder generator (packingNames type.packing) (lines.map ("  " ++ ·)) := by
  have hwrapper : ∀ entry ∈ generator.catalogue.results, ∀ object : String,
      TakesMarksFrom generator.bodyTexts object →
        TakesMarksFrom generator.bodyTexts (newWrapper entry object) := by
    intro entry hentry object hobject
    obtain ⟨-, hbase, hwrap, -⟩ := takesMarksFrom_of_mem_results hentry
    simp +decide [newWrapper, hbase, hwrap, hobject, takesMarksFrom_of_all]
  have hnull : DeclaresInOrder generator [] ["  return env.Null();"] :=
    .silent (.returns "env.Null()" (takesMarksFrom_of_all (by decide))) .nil
  cases hpacking : type.packing with
  | nothing =>
    simp only [packing, hpacking, Except.ok.injEq] at h
    subst h
    exact hnull
  | boolean =>
    simp only [packing, hpacking, Except.ok.injEq] at h
    subst h
    exact .silent (.returns "Napi::Boolean::New(env, result)"
      (takesMarksFrom_of_all (by decide))) .nil
  | string =>
    simp only [packing, hpacking, Except.ok.injEq] at h
    subst h
    exact .silent (.returns "Napi::String::New(env, result.toStdString())"
      (takesMarksFrom_of_all (by decide))) .nil
  | numeric =>
    simp only [packing, hpacking, Except.ok.injEq] at h
    subst h
    cases type.bitFlags
    · exact .silent (.returns "Napi::Number::New(env, result)"
        (takesMarksFrom_of_all (by decide))) .nil
    · exact .silent (.returns "Napi::Number::New(env, static_cast<uint>(result))"
        (takesMarksFrom_of_all (by decide))) .nil
  | ownedObject =>
    simp only [packing, hpacking, Except.ok.injEq] at h
    subst h
    refine .declares (declares_of_eq "auto" (takesMarksFrom_of_all (by decide))
        (by simp [isWord]) (hwrapper type htype "result" (takesMarksFrom_of_all (by decide))) ?_) <|
      .silent (.returns "resultInstance" (takesMarksFrom_of_all (by decide))) .nil
    rw [← String.toList_inj]
    simp
  | objectList =>
    obtain ⟨element, helement, rfl⟩ := exists_element_of_packing hpacking h
    have hbuilds := hwrapper element (element_mem_results helement) "result[i]"
      (takesMarksFrom_of_all (by decide))
    have hinner : ∀ line ∈ ["  " ++ ("  resultArrayNapi[i] = " ++
        newWrapper element "result[i]" ++ ";")], IsInner generator line := by
      rw [List.forall_mem_singleton]
      refine ⟨by simp, by simp [List.getLast?_cons], by simp [List.getLast?_cons],
        fun hfeed ↦ hbuilds '\n' ?_ rfl⟩
      simpa using hfeed
    exact .declares (declares_of_eq "Napi::Array" (takesMarksFrom_of_all (by decide))
        (by simp [isWord])
        (takesMarksFrom_of_all (by decide : ("Napi::Array::New(env, result.size())".toList.all
          (!isStatementMark ·)) = true)) rfl) <|
      .block _ ⟨by decide, by decide⟩ hinner <|
      .silent (.returns "resultArrayNapi" (takesMarksFrom_of_all (by decide))) .nil
  | passThroughObject =>
    simp only [packing, hpacking, Except.ok.injEq] at h
    subst h
    have hlookup : TakesMarksFrom generator.bodyTexts
        generator.options.wrapperCache.nativeLookup :=
      takesMarksFrom_of_mem (by simp [Generator.bodyTexts])
    have hinner : ∀ line ∈ ["  " ++ ("  return " ++ generator.options.wrapperCache.nativeLookup ++
        "(env, static_cast<QObject*>(result));")], IsInner generator line := by
      rw [List.forall_mem_singleton]
      refine ⟨by simp, by simp [List.getLast?_cons], by simp [List.getLast?_cons],
        fun hfeed ↦ hlookup '\n' ?_ rfl⟩
      simpa using hfeed
    exact .block _ ⟨by decide, by decide⟩ hinner hnull

/-- **The lines of a body declare its names**: the parameter at its head, and the others in the
block behind it in their order. -/
theorem exists_declaresInOrder_body (htemplates : generator.UsesStandardTemplates)
    (hread : Signature.read generator.catalogue line = .ok signature)
    {nativeBody : String} (h : body generator className signature = .ok nativeBody) :
    ∃ lines, nativeBody = "\n".intercalate (["", head generator className signature] ++ lines ++
        ["\x7d"]) ∧
      DeclaresInOrder generator (blockNames signature) lines := by
  have hname : ∀ c ∈ signature.name.toList, isWord c :=
    fun _ hc ↦ (Signature.isName_of_read hread).isWord_of_mem hc
  have hresult := Signature.resultType_mem_of_read hread
  have harguments : ∀ argument ∈ signature.arguments,
      argument.type ∈ generator.catalogue.results ∧ ∀ c ∈ argument.name.toList, isWord c := by
    intro argument hargument
    obtain ⟨hmem, -, hword⟩ := Signature.argument_of_read hread hargument
    exact ⟨List.mem_cons_of_mem _ hmem, hword⟩
  rcases hextraction : extractions 0 signature.arguments with fault | extraction
  · simp only [body, bodyValues, hextraction] at h
    cases h
  · rcases hpacking : packing generator signature.resultType with fault | packing
    · simp only [body, bodyValues, hextraction, hpacking] at h
      cases h
    · rw [body_eq_ok htemplates hextraction hpacking] at h
      have hcount : '\n' ∉ signature.arguments.length.repr.toList :=
        not_mem_of_isWord isWord_of_mem_repr (by simp [isWord])
      have hopening : DeclaresInOrder generator ["env", "scope"] _ :=
        declaresInOrder_opening hcount
      have hlines := ((hopening.append (declaresInOrder_extractions harguments hextraction)).append
        (declaresInOrder_invocation hname hresult fun argument hargument ↦
          (harguments argument hargument).2)).append (declaresInOrder_packing hresult hpacking)
      have hnames : ["env", "scope"] ++ signature.arguments.flatMap (fun argument ↦
          helperNames argument ++ [argument.name]) ++ (if signature.hasResult then ["result"] else
            []) ++ packingNames signature.resultType.packing = blockNames signature := by
        simp [blockNames, resultNames]
      rw [hnames] at hlines
      refine ⟨_, (Except.ok.inj h).symm.trans ?_, hlines⟩
      simp [Template.nativeBodyLines, Template.openingLines, head]

/-- What is read off a body are its names. -/
theorem declaredIn_body (htemplates : generator.UsesStandardTemplates)
    (hread : Signature.read generator.catalogue line = .ok signature)
    (hplain : generator.HasPlainTexts)
    (hwrapper : '\n' ∉ (generator.options.wrapperName className).toList)
    {nativeBody : String} (h : body generator className signature = .ok nativeBody) :
    declaredIn nativeBody = declaredNames signature := by
  obtain ⟨lines, rfl, hlines⟩ := exists_declaresInOrder_body htemplates hread h
  obtain ⟨hnames, hfeeds⟩ := hlines.namesFrom_eq hplain
  have hname : '\n' ∉ signature.name.toList :=
    not_mem_of_isWord (fun _ hc ↦ (Signature.isName_of_read hread).isWord_of_mem hc)
      (by simp [isWord])
  have hhead : '\n' ∉ (head generator className signature).toList := by
    simp [head, hwrapper, hname]
  have hall : ∀ line ∈ ["", head generator className signature] ++ lines ++ ["\x7d"],
      '\n' ∉ line.toList := by
    simpa [hhead, or_imp, forall_and] using hfeeds
  have hparameter : lineNames 0 (head generator className signature).toList = ["info"] := by
    rw [lineNames, if_pos]
    exact ⟨("Napi::Value " ++ generator.options.wrapperName className ++ "::" ++
      signature.name).toList, by simp [head]⟩
  have hdepth : depthBelow 0 (head generator className signature).toList = 1 := by
    simp [depthBelow, head, List.getLast?_cons]
  have hclosing : namesFrom 1 ["\x7d".toList] = [] := by decide
  rw [declaredIn, linesOf_intercalate_of_notMem (by simp) hall]
  simp only [List.map_append, List.map_cons, List.map_nil, List.cons_append, List.nil_append]
  have hempty : lineNames 0 "".toList = [] ∧ depthBelow 0 "".toList = 0 := by decide
  rw [namesFrom, namesFrom, hempty.1, hempty.2, hparameter, hdepth, hnames, hclosing,
    List.append_nil]
  rfl

/-! ### Clashes -/

/-- The suffixes of helpers. -/
def suffixes : List String :=
  ["NapiText", "Object", "Wrap"]

theorem mem_suffixes {category : Category} (h : suffix ∈ helperSuffixes category) :
    suffix ∈ suffixes := by
  cases category <;> revert h <;> revert suffix <;> decide

/-- The names that no argument has a part in. -/
def fixedNames (signature : Signature) : List String :=
  ["info", "env", "scope"] ++ resultNames signature

theorem nodup_fixedNames (signature : Signature) : (fixedNames signature).Nodup := by
  rw [fixedNames, resultNames]
  cases signature.hasResult <;> cases signature.resultType.packing <;> decide

/-- The last two characters, in reverse. -/
def ending (s : String) : List Char :=
  s.toList.reverse.take 2

theorem ending_append (s : String) (h : suffix ∈ suffixes) :
    ending (s ++ suffix) = ending suffix := by
  simp only [suffixes, List.mem_cons, List.not_mem_nil, or_false] at h
  rcases h with rfl | rfl | rfl
  all_goals simp [ending]

/-- The last two characters tell the suffixes apart. -/
theorem eq_of_append_eq {s t other : String} (h : suffix ∈ suffixes) (hother : other ∈ suffixes)
    (heq : s ++ suffix = t ++ other) : s = t ∧ suffix = other := by
  have hsuffixes : ∀ first ∈ suffixes, ∀ second ∈ suffixes, ending first = ending second →
      first = second := by
    decide
  have hending := congrArg ending heq
  rw [ending_append s h, ending_append t hother] at hending
  obtain rfl := hsuffixes suffix h other hother hending
  exact ⟨(String.append_left_inj _).1 heq, rfl⟩

/-- Every name that an argument has no part in. -/
def allFixedNames : List String :=
  ["info", "env", "scope", "result", "resultInstance", "resultArrayNapi"]

theorem fixedNames_subset (signature : Signature) : fixedNames signature ⊆ allFixedNames := by
  rw [fixedNames, resultNames]
  cases signature.hasResult <;> cases signature.resultType.packing <;> decide

/-- No helper has a name that an argument has no part in. -/
theorem ne_append_of_mem_fixedNames (hname : name ∈ fixedNames signature) (s : String)
    (h : suffix ∈ suffixes) : name ≠ s ++ suffix := by
  have hfixed : ∀ name ∈ allFixedNames, ∀ suffix ∈ suffixes, ending name ≠ ending suffix := by
    decide
  intro heq
  refine hfixed name (fixedNames_subset signature hname) suffix h ?_
  rw [heq, ending_append s h]

theorem mem_helperNames : name ∈ helperNames argument ↔
    ∃ suffix ∈ helperSuffixes argument.type.category, argument.name ++ suffix = name :=
  List.mem_map

/-- No two helpers have one name, if no two arguments have. -/
theorem nodup_helperNames (h : (arguments.map (·.name)).Nodup) :
    (arguments.flatMap helperNames).Nodup := by
  rw [List.nodup_flatMap]
  constructor
  · intro argument _
    have hsuffixes : (helperSuffixes argument.type.category).Nodup := by
      cases argument.type.category <;> decide
    exact hsuffixes.map fun _ _ heq ↦ (String.append_right_inj _).1 heq
  · refine (List.pairwise_map.1 h).imp fun {first second} hne name hfirst hsecond ↦ hne ?_
    obtain ⟨suffix, hsuffix, rfl⟩ := mem_helperNames.1 hfirst
    obtain ⟨other, hother, heq⟩ := mem_helperNames.1 hsecond
    exact (eq_of_append_eq (mem_suffixes hsuffix) (mem_suffixes hother) heq.symm).1

/-- The names, sorted by where they come from. -/
theorem declaredNames_perm (signature : Signature) :
    (declaredNames signature).Perm (fixedNames signature ++
      (signature.argumentNames ++ signature.arguments.flatMap helperNames)) := by
  have harguments : (signature.arguments.flatMap fun argument ↦
      helperNames argument ++ [argument.name]).Perm
        (signature.argumentNames ++ signature.arguments.flatMap helperNames) := by
    rw [Signature.argumentNames, List.map_eq_flatMap]
    exact (List.flatMap_append_perm _ _ _).symm.trans List.perm_append_comm
  have hnames : declaredNames signature = ["info", "env", "scope"] ++ (signature.arguments.flatMap
      (fun argument ↦ helperNames argument ++ [argument.name]) ++ resultNames signature) := by
    rw [declaredNames, blockNames, List.append_assoc]
    rfl
  rw [hnames, fixedNames, List.append_assoc]
  exact (harguments.append_right _).trans List.perm_append_comm |>.append_left _

/-- The names differ if no argument has the name of something else. -/
theorem nodup_declaredNames_iff (h : signature.argumentNames.Nodup) :
    (declaredNames signature).Nodup ↔
      (∀ argument ∈ signature.arguments, argument.name ∉ fixedNames signature) ∧
        ∀ argument ∈ signature.arguments, ∀ other ∈ signature.arguments,
          argument.name ∉ helperNames other := by
  have hfixed : List.Disjoint (fixedNames signature) (signature.arguments.flatMap helperNames) := by
    intro name hname hhelper
    obtain ⟨argument, -, hhelper⟩ := List.mem_flatMap.1 hhelper
    obtain ⟨suffix, hsuffix, rfl⟩ := mem_helperNames.1 hhelper
    exact ne_append_of_mem_fixedNames hname _ (mem_suffixes hsuffix) rfl
  have hown : List.Disjoint (fixedNames signature) signature.argumentNames ↔
      ∀ argument ∈ signature.arguments, argument.name ∉ fixedNames signature := by
    rw [Signature.argumentNames, List.disjoint_comm, List.disjoint_left, List.forall_mem_map]
  have hhelpers : List.Disjoint signature.argumentNames
      (signature.arguments.flatMap helperNames) ↔
        ∀ argument ∈ signature.arguments, ∀ other ∈ signature.arguments,
          argument.name ∉ helperNames other := by
    rw [Signature.argumentNames, List.disjoint_left, List.forall_mem_map]
    simp
  rw [(declaredNames_perm signature).nodup_iff, List.nodup_append', List.nodup_append',
    List.disjoint_append_right, hown, hhelpers]
  exact ⟨fun hall ↦ ⟨hall.2.2.1, hall.2.1.2.2⟩, fun hall ↦ ⟨nodup_fixedNames signature,
    ⟨h, nodup_helperNames h, hall.2⟩, hall.1, hfixed⟩⟩

/-! ### The names of a signature -/

/-- No argument of the signature has a name that the body needs for something else. -/
structure IsClashFree (signature : Signature) : Prop where
  /-- The names of the parameter and of what is declared at the opening are not taken. -/
  opening : ∀ argument ∈ signature.arguments,
    argument.name ≠ "info" ∧ argument.name ≠ "env" ∧ argument.name ≠ "scope"
  /-- The name of the result is not taken if there is one. -/
  result : signature.hasResult = true → ∀ argument ∈ signature.arguments, argument.name ≠ "result"
  /-- The name of a new wrapper is not taken if one is built. -/
  resultInstance : signature.resultType.packing = .ownedObject →
    ∀ argument ∈ signature.arguments, argument.name ≠ "resultInstance"
  /-- The name of a new array is not taken if one is built. -/
  resultArray : signature.resultType.packing = .objectList →
    ∀ argument ∈ signature.arguments, argument.name ≠ "resultArrayNapi"
  /-- No argument has the name of the text behind a string. -/
  stringHelper : ∀ argument ∈ signature.arguments, ∀ other ∈ signature.arguments,
    other.type.category = .string → argument.name ≠ other.name ++ "NapiText"
  /-- No argument has the name of the value behind an object or of its wrapper. -/
  objectHelpers : ∀ argument ∈ signature.arguments, ∀ other ∈ signature.arguments,
    other.type.category = .object →
      argument.name ≠ other.name ++ "Object" ∧ argument.name ≠ other.name ++ "Wrap"

theorem mem_fixedNames_iff : name ∈ fixedNames signature ↔
    (name = "info" ∨ name = "env" ∨ name = "scope") ∨
      (signature.hasResult = true ∧ name = "result") ∨
      (signature.resultType.packing = .ownedObject ∧ name = "resultInstance") ∨
      (signature.resultType.packing = .objectList ∧ name = "resultArrayNapi") := by
  rw [fixedNames, resultNames]
  cases signature.hasResult <;> cases signature.resultType.packing <;> simp [packingNames, or_assoc]

theorem mem_helperNames_iff : name ∈ helperNames argument ↔
    (argument.type.category = .string ∧ name = argument.name ++ "NapiText") ∨
      (argument.type.category = .object ∧
        (name = argument.name ++ "Object" ∨ name = argument.name ++ "Wrap")) := by
  rw [helperNames]
  cases argument.type.category <;> simp [helperSuffixes]

theorem isClashFree_iff (signature : Signature) : IsClashFree signature ↔
    (∀ argument ∈ signature.arguments, argument.name ∉ fixedNames signature) ∧
      ∀ argument ∈ signature.arguments, ∀ other ∈ signature.arguments,
        argument.name ∉ helperNames other := by
  simp only [mem_fixedNames_iff, mem_helperNames_iff, not_or, not_and]
  constructor
  · intro h
    exact ⟨fun argument hargument ↦ ⟨h.opening argument hargument,
        fun hresult ↦ h.result hresult argument hargument,
        fun hpacking ↦ h.resultInstance hpacking argument hargument,
        fun hpacking ↦ h.resultArray hpacking argument hargument⟩,
      fun argument hargument other hother ↦ ⟨h.stringHelper argument hargument other hother,
        h.objectHelpers argument hargument other hother⟩⟩
  · rintro ⟨hfixed, hhelpers⟩
    exact {
      opening := fun argument hargument ↦ (hfixed argument hargument).1
      result := fun hresult argument hargument ↦ (hfixed argument hargument).2.1 hresult
      resultInstance := fun hpacking argument hargument ↦
        (hfixed argument hargument).2.2.1 hpacking
      resultArray := fun hpacking argument hargument ↦ (hfixed argument hargument).2.2.2 hpacking
      stringHelper := fun argument hargument other hother ↦
        (hhelpers argument hargument other hother).1
      objectHelpers := fun argument hargument other hother ↦
        (hhelpers argument hargument other hother).2 }

/-- **The names that a body declares differ exactly if no argument has the name of something
else**: the lines of the body of a signature that was read declare the names of
`Native.declaredNames` in this order and no others, and these are read off its text where the texts
that the options and the catalogue put into it have no marks of statements. No two of them are the
same if and only if the signature is free of clashes, and the names of helpers always differ among
themselves. -/
theorem body_names_distinct_iff (htemplates : generator.UsesStandardTemplates)
    (hread : Signature.read generator.catalogue line = .ok signature) {nativeBody : String}
    (hbody : body generator className signature = .ok nativeBody) :
    (∃ lines, nativeBody = "\n".intercalate (["", head generator className signature] ++ lines ++
        ["\x7d"]) ∧
      DeclaresInOrder generator (blockNames signature) lines) ∧
    (generator.HasPlainTexts → '\n' ∉ (generator.options.wrapperName className).toList →
      declaredIn nativeBody = declaredNames signature) ∧
    ((declaredNames signature).Nodup ↔ IsClashFree signature) ∧
    (signature.arguments.flatMap helperNames).Nodup := by
  have hnodup := Signature.nodup_argumentNames_of_read hread
  exact ⟨exists_declaresInOrder_body htemplates hread hbody,
    fun hplain hwrapper ↦ declaredIn_body htemplates hread hplain hwrapper hbody,
    (nodup_declaredNames_iff hnodup).trans (isClashFree_iff signature).symm,
    nodup_helperNames hnodup⟩

/-- An argument with the name of the wrapper behind another one. -/
theorem body_names_distinct_iff_wrapTaken : ∃ signature nativeBody,
    Signature.read Catalogue.standard "// TODO: void move(const QRect &area, int areaWrap)" =
      .ok signature ∧
    body (.standard Interpreter.documented) "QWidget" signature = .ok nativeBody ∧
    declaredIn nativeBody = ["info", "env", "scope", "areaObject", "areaWrap", "area",
      "areaWrap"] ∧
    ¬ IsClashFree signature := by
  let generator : Generator := .standard Interpreter.documented
  have hread : Signature.read generator.catalogue
      "// TODO: void move(const QRect &area, int areaWrap)" = .ok {
        name := "move"
        resultType := Vocabulary.void
        arguments := [
          ⟨Vocabulary.valueObject "QRect", "area"⟩, ⟨Vocabulary.signed "int", "areaWrap"⟩]
        line := "// TODO: void move(const QRect &area, int areaWrap)" } := by
    rw [Signature.read, String.toList_ofList]
    rfl
  have hplain : generator.HasPlainTexts := by
    show ∀ text ∈ generator.bodyTexts, text.toList.all (!isStatementMark ·)
    decide +kernel
  have htemplates := Generator.usesStandardTemplates_standard Interpreter.documented
  obtain ⟨nativeBody, hbody⟩ := Generator.exists_body_eq_ok "QWidget" htemplates hread
    (Generator.not_lacksElement_of_mem_standard (Signature.resultType_mem_of_read hread))
  obtain ⟨-, hdeclared, hdistinct, -⟩ := body_names_distinct_iff htemplates hread hbody
  refine ⟨_, nativeBody, hread, hbody, hdeclared hplain (by decide), fun h ↦ ?_⟩
  exact absurd (hdistinct.2 h) (by decide)

end BindingGlue.Native
